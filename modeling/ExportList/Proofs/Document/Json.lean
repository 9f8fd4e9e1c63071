import ExportList.Document.Json
import ExportList.Proofs.Document.Parts
import ExportList.Proofs.Document.Reader
import ExportList.Proofs.Utf8
import Mathlib.Algebra.Group.Nat.Defs

/-!
The JSON text of a document.  There is one exactly if no pattern and no integer of too many digits
is in the document, and else the first of these is to blame.  The text has a UTF-8 form exactly if
no text in the document holds a surrogate.
-/

set_option autoImplicit false

namespace ExportList.Json

theorem printItems_eq_mapM (level : Nat) (items : List Value) :
    printItems level items = items.mapM (print level) := by
  induction items with
  | nil => rfl
  | cons item rest ih =>
    rw [printItems, List.mapM_cons, ih]
    cases print level item with
    | error fault => rfl
    | ok part => cases rest.mapM (print level) <;> rfl

def printField (level : Nat) (field : Text × Value) : Except Unprintable Text :=
  (print level field.2).map fun part => quote field.1 ++ ": " ++ part

theorem printFields_eq_mapM (level : Nat) (fields : Fields) :
    printFields level fields = fields.mapM (printField level) := by
  induction fields with
  | nil => rfl
  | cons field rest ih =>
    rw [printFields, List.mapM_cons, ih, printField]
    cases print level field.2 with
    | error fault => rfl
    | ok part => cases rest.mapM (printField level) <;> rfl

theorem print_list_eq_ok_iff {level : Nat} {items : List Value} {out : Text} :
    print level (.list items) = .ok out ↔ ∃ parts, items.mapM (print (level + 1)) = .ok parts ∧
      layout (CodePoint.ofChar '[') (CodePoint.ofChar ']') level parts = out := by
  rw [print, map_eq_ok_iff, printItems_eq_mapM]

theorem print_object_eq_ok_iff {level : Nat} {fields : Fields} {out : Text} :
    print level (.object fields) = .ok out ↔ ∃ parts,
      fields.mapM (printField (level + 1)) = .ok parts ∧
      layout (CodePoint.ofChar '{') (CodePoint.ofChar '}') level parts = out := by
  rw [print, map_eq_ok_iff, printFields_eq_mapM]

theorem printInt_of_lt {n : Int} (h : n.natAbs < 10 ^ maxDigits) :
    printInt n = .ok (Text.ofInt n) := by
  have digits : (Text.ofNat n.natAbs).length = (Nat.toDigits 10 n.natAbs).length :=
    List.length_map _
  rw [printInt, digits, if_pos]
  exact (Nat.length_toDigits_le_iff (by decide) (by decide)).mpr h

theorem printInt_of_le {n : Int} (h : 10 ^ maxDigits ≤ n.natAbs) :
    printInt n = .error .longInteger := by
  have digits : (Text.ofNat n.natAbs).length = (Nat.toDigits 10 n.natAbs).length :=
    List.length_map _
  rw [printInt, digits, if_neg]
  rw [Nat.length_toDigits_le_iff (by decide) (by decide)]
  exact Nat.not_lt.mpr h

theorem eq_ofInt_of_print {level : Nat} {n : Int} {out : Text}
    (h : print level (.int n) = .ok out) :
    Text.ofInt n = out := by
  rw [print, printInt] at h
  split_ifs at h
  exact Except.ok.inj h

/-- What keeps a value itself from being printed, its elements and fields aside. -/
def fault? : Value → Option Unprintable
  | .pattern => some .pattern
  | .int n => if n.natAbs < 10 ^ maxDigits then none else some .longInteger
  | _ => none

def firstFault? (v : Value) : Option Unprintable := v.parts.findSome? fault?

def IsPrintable (v : Value) : Prop := fault? v = none

instance : DecidablePred IsPrintable := fun v => inferInstanceAs (Decidable (fault? v = none))

theorem firstFault?_eq_none_iff {v : Value} : firstFault? v = none ↔ v.Everywhere IsPrintable :=
  List.findSome?_eq_none_iff

theorem firstFault?_ne_some {v : Value} (printable : v.Everywhere IsPrintable)
    (fault : Unprintable) : firstFault? v ≠ some fault := by
  rw [firstFault?_eq_none_iff.mpr printable]
  nofun

private def failure? {α : Type} : Except Unprintable α → Option Unprintable
  | .ok _ => none
  | .error fault => some fault

private theorem failure?_map {α β : Type} (f : α → β) (result : Except Unprintable α) :
    failure? (result.map f) = failure? result := by
  cases result <;> rfl

private theorem failure?_printItems {level : Nat} {items : List Value}
    (each : ∀ v ∈ items, failure? (print level v) = firstFault? v) :
    failure? (printItems level items) = (Value.partsOfItems items).findSome? fault? := by
  induction items with
  | nil => rfl
  | cons item rest ih =>
    obtain ⟨first, others⟩ := List.forall_mem_cons.mp each
    rw [printItems, Value.partsOfItems, List.findSome?_append, ← ih others,
      show item.parts.findSome? fault? = failure? (print level item) from first.symm]
    cases print level item with
    | error fault => rfl
    | ok part => exact failure?_map _ _

private theorem failure?_printFields {level : Nat} {fields : Fields}
    (each : ∀ field ∈ fields, failure? (print level field.2) = firstFault? field.2) :
    failure? (printFields level fields) = (Value.partsOfFields fields).findSome? fault? := by
  induction fields with
  | nil => rfl
  | cons field rest ih =>
    obtain ⟨first, others⟩ := List.forall_mem_cons.mp each
    rw [printFields, Value.partsOfFields, List.findSome?_append, ← ih others,
      show field.2.parts.findSome? fault? = failure? (print level field.2) from first.symm]
    cases print level field.2 with
    | error fault => rfl
    | ok part => exact failure?_map _ _

private theorem failure?_print (level : Nat) (v : Value) :
    failure? (print level v) = firstFault? v := by
  induction v using Value.induct generalizing level with
  | null => rfl
  | bool b => rfl
  | text t => rfl
  | float bits => rfl
  | pattern => rfl
  | int n =>
    by_cases short : n.natAbs < 10 ^ maxDigits
    · rw [print, printInt_of_lt short]
      simp [firstFault?, Value.parts, fault?, short, failure?]
    · rw [print, printInt_of_le (Nat.not_lt.mp short)]
      simp [firstFault?, Value.parts, fault?, short, failure?]
  | list items ih =>
    rw [print, failure?_map, failure?_printItems fun v member => ih v member (level + 1)]
    rfl
  | object fields ih =>
    rw [print, failure?_map, failure?_printFields fun field member => ih field member (level + 1)]
    rfl

/-- A document is refused for the first of its values that cannot be printed. -/
theorem print_eq_error_iff {level : Nat} {v : Value} {fault : Unprintable} :
    print level v = .error fault ↔ firstFault? v = some fault := by
  rw [← failure?_print level v]
  cases print level v <;> simp [failure?]

/-- A document has a JSON text exactly if no pattern and no long integer is in it. -/
theorem exists_print_iff {level : Nat} {v : Value} :
    (∃ out, print level v = .ok out) ↔ v.Everywhere IsPrintable := by
  rw [← firstFault?_eq_none_iff, ← failure?_print level v]
  cases print level v <;> simp [failure?]

private theorem isScalar_ofNat (n : Nat) : (Text.ofNat n).IsScalar :=
  Text.isScalar_ofChars _

private theorem isScalar_ofInt (n : Int) : (Text.ofInt n).IsScalar := by
  cases n with
  | ofNat n => exact isScalar_ofNat n
  | negSucc n =>
    exact Text.isScalar_cons.mpr ⟨CodePoint.isSurrogate_ofChar '-', isScalar_ofNat (n + 1)⟩

theorem isScalar_toText (bits : Nat) : (Binary64.toText bits).IsScalar := by
  have zeros : ∀ n, (Binary64.zeros n).IsScalar := by
    intro n c member
    rw [List.eq_of_mem_replicate member]
    exact CodePoint.isSurrogate_ofChar '0'
  have digits : ∀ n, (Text.dropTrailing (CodePoint.ofChar '0') (Text.ofNat n)).IsScalar := by
    intro n c member
    have sub : c ∈ ((Text.ofNat n).reverse.dropWhile (· = CodePoint.ofChar '0')).reverse := member
    have inside := (List.dropWhile_sublist _).subset (List.mem_reverse.mp sub)
    exact isScalar_ofNat n c (List.mem_reverse.mp inside)
  have take : ∀ n k, Text.IsScalar
      (List.take k (Text.dropTrailing (CodePoint.ofChar '0') (Text.ofNat n))) :=
    fun n k c member => digits n c (List.mem_of_mem_take member)
  have drop : ∀ n k, Text.IsScalar
      (List.drop k (Text.dropTrailing (CodePoint.ofChar '0') (Text.ofNat n))) :=
    fun n k c member => digits n c (List.mem_of_mem_drop member)
  simp only [Binary64.toText]
  split_ifs
  all_goals
    simp only [Text.isScalar_append, Text.isScalar_cons, Text.isScalar_ofString, zeros,
      digits, take, drop, isScalar_ofNat, CodePoint.isSurrogate_ofChar, and_self]

theorem isScalar_escapePoint {c : CodePoint} :
    (escapePoint c).IsScalar ↔ c.isSurrogate = false := by
  have small : c.val < 0xD800 → c.isSurrogate = false := by
    intro lt
    simp only [CodePoint.isSurrogate, Bool.and_eq_false_iff, decide_eq_false_iff_not]
    omega
  have known : ∀ {d : Char}, c = CodePoint.ofChar d → c.isSurrogate = false := by
    rintro d rfl
    exact CodePoint.isSurrogate_ofChar d
  unfold escapePoint
  split_ifs with h1 h2 h3 h4 h5 h6 h7 h8
  · simp [Text.isScalar_ofString, known h1]
  · simp [Text.isScalar_ofString, known h2]
  · simp [Text.isScalar_ofString, known h3]
  · simp [Text.isScalar_ofString, known h4]
  · simp [Text.isScalar_ofString, known h5]
  · simp [Text.isScalar_ofString, small (by omega)]
  · simp [Text.isScalar_ofString, small (by omega)]
  · simp [Text.isScalar_append, Text.isScalar_ofString, Text.isScalar_hex, small (by omega)]
  · simp [Text.IsScalar]

theorem isScalar_quote {t : Text} : (quote t).IsScalar ↔ t.IsScalar := by
  have body : Text.IsScalar (t.flatMap escapePoint) ↔ t.IsScalar := by
    induction t with
    | nil => exact ⟨fun _ => nofun, fun _ => nofun⟩
    | cons c t ih =>
      rw [List.flatMap_cons, Text.isScalar_append, Text.isScalar_cons, isScalar_escapePoint, ih]
  simp [quote, Text.isScalar_append, Text.isScalar_ofString, body]

private theorem isScalar_newline (level : Nat) : (newline level).IsScalar := by
  refine Text.isScalar_cons.mpr ⟨CodePoint.isSurrogate_ofChar '\n', ?_⟩
  intro c member
  rw [List.eq_of_mem_replicate member]
  exact CodePoint.isSurrogate_ofChar ' '

theorem isScalar_join {separator : Text} {parts : List Text} (h : separator.IsScalar) :
    (Text.join separator parts).IsScalar ↔ ∀ part ∈ parts, part.IsScalar := by
  induction parts with
  | nil => exact ⟨fun _ => nofun, fun _ => nofun⟩
  | cons part parts ih =>
    cases parts with
    | nil => simp [Text.join]
    | cons next rest =>
      rw [Text.join, Text.isScalar_append, Text.isScalar_append, ih, List.forall_mem_cons]
      · simp [h]
      · simp

theorem isScalar_layout {left right : CodePoint} {level : Nat} {parts : List Text}
    (hl : left.isSurrogate = false) (hr : right.isSurrogate = false) :
    (layout left right level parts).IsScalar ↔ ∀ part ∈ parts, part.IsScalar := by
  have separator : Text.IsScalar (CodePoint.ofChar ',' :: newline (level + 1)) :=
    Text.isScalar_cons.mpr ⟨CodePoint.isSurrogate_ofChar ',', isScalar_newline (level + 1)⟩
  unfold layout
  split_ifs with none
  · rw [List.isEmpty_iff.mp none]
    simp [Text.IsScalar, hl, hr]
  · have last : Text.IsScalar [right] := by simp [Text.IsScalar, hr]
    simp [Text.isScalar_cons, Text.isScalar_append, isScalar_join separator,
      isScalar_newline, hl, last]

/-- The texts that a value has of its own, without those of its elements and fields, hold no
surrogates. -/
def HasScalarTexts : Value → Prop
  | .text t => t.IsScalar
  | .object fields => ∀ field ∈ fields, Text.IsScalar field.1
  | _ => True

instance : DecidablePred HasScalarTexts
  | .text t => inferInstanceAs (Decidable t.IsScalar)
  | .object fields => List.decidableBAll (fun field : Text × Value => Text.IsScalar field.1) fields
  | .null | .bool _ | .int _ | .float _ | .pattern | .list _ => isTrue trivial

/-- A JSON text has a UTF-8 form exactly if no text in the document holds a surrogate. -/
theorem isScalar_print_iff {level : Nat} {v : Value} {out : Text} (h : print level v = .ok out) :
    out.IsScalar ↔ v.Everywhere HasScalarTexts := by
  induction v using Value.induct generalizing level out with
  | null =>
    cases h
    simp [Text.isScalar_ofString, HasScalarTexts]
  | bool b =>
    cases h
    cases b <;> simp [Text.isScalar_ofString, HasScalarTexts]
  | int n =>
    obtain rfl := eq_ofInt_of_print h
    simp [isScalar_ofInt, HasScalarTexts]
  | text t =>
    cases h
    simp [isScalar_quote, HasScalarTexts]
  | float bits =>
    cases h
    have plain : (if bits = Binary64.infinityBits then Text.ofString "Infinity"
        else Binary64.toText bits).IsScalar := by
      split_ifs
      · exact Text.isScalar_ofString _
      · exact isScalar_toText bits
    simp [plain, Value.Everywhere, Value.parts, HasScalarTexts]
  | pattern => cases h
  | list items ih =>
    obtain ⟨parts, printed, rfl⟩ := print_list_eq_ok_iff.mp h
    rw [isScalar_layout (CodePoint.isSurrogate_ofChar _) (CodePoint.isSurrogate_ofChar _),
      Value.everywhere_list]
    constructor
    · intro scalar
      refine ⟨trivial, fun v member => ?_⟩
      obtain ⟨part, printed'⟩ := exists_ok_of_mapM_ok printed member
      exact (ih v member printed').mp
        (scalar part ((mem_of_mapM_ok printed).mpr ⟨v, member, printed'⟩))
    · rintro ⟨_, inside⟩ part member
      obtain ⟨v, member', printed'⟩ := (mem_of_mapM_ok printed).mp member
      exact (ih v member' printed').mpr (inside v member')
  | object fields ih =>
    obtain ⟨parts, printed, rfl⟩ := print_object_eq_ok_iff.mp h
    have field_iff : ∀ field ∈ fields, ∀ part, printField (level + 1) field = .ok part →
        (part.IsScalar ↔ Text.IsScalar field.1 ∧ field.2.Everywhere HasScalarTexts) := by
      intro field member part printed'
      obtain ⟨text, inner, rfl⟩ := map_eq_ok_iff.mp printed'
      rw [Text.isScalar_append, Text.isScalar_append, isScalar_quote, ih field member inner]
      simp [Text.isScalar_ofString]
    rw [isScalar_layout (CodePoint.isSurrogate_ofChar _) (CodePoint.isSurrogate_ofChar _),
      Value.everywhere_object]
    constructor
    · intro scalar
      have each : ∀ field ∈ fields, Text.IsScalar field.1 ∧ field.2.Everywhere HasScalarTexts := by
        intro field member
        obtain ⟨part, printed'⟩ := exists_ok_of_mapM_ok printed member
        have inside := (mem_of_mapM_ok printed).mpr ⟨field, member, printed'⟩
        exact (field_iff field member part printed').mp (scalar part inside)
      exact ⟨fun field member => (each field member).1, fun field member => (each field member).2⟩
    · rintro ⟨keys, inside⟩ part member
      obtain ⟨field, member', printed'⟩ := (mem_of_mapM_ok printed).mp member
      exact (field_iff field member' part printed').mpr ⟨keys field member', inside field member'⟩

end ExportList.Json
