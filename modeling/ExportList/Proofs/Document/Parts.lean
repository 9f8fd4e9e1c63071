import ExportList.Document
import ExportList.Proofs.Sequence

/-!
The values in a document, at any depth.  What holds everywhere in a document holds of the document
itself and everywhere in its elements or fields.
-/

set_option autoImplicit false

namespace ExportList

namespace Value

/-- What holds of a value as soon as it holds of its elements or fields holds of every value. -/
@[elab_as_elim]
theorem induct {P : Value → Prop} (null : P .null) (bool : ∀ b, P (.bool b)) (int : ∀ n, P (.int n))
    (float : ∀ bits, P (.float bits)) (text : ∀ t, P (.text t)) (pattern : P .pattern)
    (list : ∀ items, (∀ v ∈ items, P v) → P (.list items))
    (object : ∀ fields : Fields, (∀ field ∈ fields, P field.2) → P (.object fields)) : ∀ v, P v
  | .null => null
  | .bool b => bool b
  | .int n => int n
  | .float bits => float bits
  | .text t => text t
  | .pattern => pattern
  | .list items => list items fun v member =>
    have := List.sizeOf_lt_of_mem member
    induct null bool int float text pattern list object v
  | .object fields => object fields fun field member =>
    have inside := List.sizeOf_lt_of_mem member
    have : sizeOf field.2 < sizeOf field := by
      cases field
      simp only [Prod.mk.sizeOf_spec]
      omega
    induct null bool int float text pattern list object field.2

mutual

/-- A value and all values in it. -/
def parts : Value → List Value
  | .list items => .list items :: partsOfItems items
  | .object fields => .object fields :: partsOfFields fields
  | v => [v]

def partsOfItems : List Value → List Value
  | [] => []
  | v :: rest => v.parts ++ partsOfItems rest

def partsOfFields : List (Text × Value) → List Value
  | [] => []
  | (_, v) :: rest => v.parts ++ partsOfFields rest

end

private theorem mem_partsOfItems {items : List Value} {v : Value} :
    v ∈ partsOfItems items ↔ ∃ item ∈ items, v ∈ item.parts := by
  induction items with
  | nil => simp [partsOfItems]
  | cons item rest ih => rw [partsOfItems, List.mem_append, ih, List.exists_mem_cons_iff]

private theorem mem_partsOfFields {fields : Fields} {v : Value} :
    v ∈ partsOfFields fields ↔ ∃ field ∈ fields, v ∈ field.2.parts := by
  induction fields with
  | nil => simp [partsOfFields]
  | cons field rest ih => rw [partsOfFields, List.mem_append, ih, List.exists_mem_cons_iff]

/-- Something holds of all values in a document. -/
def Everywhere (P : Value → Prop) (v : Value) : Prop := ∀ part ∈ v.parts, P part

instance (P : Value → Prop) [DecidablePred P] (v : Value) : Decidable (v.Everywhere P) :=
  List.decidableBAll P v.parts

section Everywhere

variable {P Q : Value → Prop}

theorem everywhere_list {items : List Value} :
    Everywhere P (.list items) ↔ P (.list items) ∧ ∀ v ∈ items, Everywhere P v := by
  simp only [Everywhere, parts, List.forall_mem_cons, mem_partsOfItems]
  refine and_congr_right fun _ => ⟨fun h v member part inside => h part ⟨v, member, inside⟩, ?_⟩
  rintro h part ⟨v, member, inside⟩
  exact h v member part inside

theorem everywhere_object {fields : Fields} :
    Everywhere P (.object fields) ↔
      P (.object fields) ∧ ∀ field ∈ fields, Everywhere P field.2 := by
  simp only [Everywhere, parts, List.forall_mem_cons, mem_partsOfFields]
  refine and_congr_right fun _ =>
    ⟨fun h field member part inside => h part ⟨field, member, inside⟩, ?_⟩
  rintro h part ⟨field, member, inside⟩
  exact h field member part inside

theorem Everywhere.self {v : Value} (h : v.Everywhere P) : P v :=
  h v (by cases v <;> simp [parts])

theorem Everywhere.imp {v : Value} (h : v.Everywhere P) (imp : ∀ v, P v → Q v) : v.Everywhere Q :=
  fun part member => imp part (h part member)

@[simp] theorem everywhere_null : Everywhere P .null ↔ P .null := by simp [Everywhere, parts]

@[simp] theorem everywhere_bool {b : Bool} : Everywhere P (.bool b) ↔ P (.bool b) := by
  simp [Everywhere, parts]

@[simp] theorem everywhere_int {n : Int} : Everywhere P (.int n) ↔ P (.int n) := by
  simp [Everywhere, parts]

@[simp] theorem everywhere_text {t : Text} : Everywhere P (.text t) ↔ P (.text t) := by
  simp [Everywhere, parts]

end Everywhere

end Value

end ExportList
