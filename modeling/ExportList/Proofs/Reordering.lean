import ExportList.Proofs.Declaration
import Mathlib.Data.List.Perm.Lattice

/-!
Statements in another order.  Which names are collected, and whether they can be told, depends only
on which statements there are; their order decides nothing but the order of the names.
-/

set_option autoImplicit false

namespace ExportList

section Results

variable {ε α β : Type}

/-- Two steps succeed together, and then with the same elements up to order. -/
def SameUpToOrder (x y : Except ε (List α)) : Prop := Follows List.Perm x y ∧ Follows List.Perm y x

/-- Lists without repetitions that have the same elements differ in nothing but order. -/
private theorem follows_perm {x y : Except ε (List α)} (distinct : ∀ l, x = .ok l → l.Nodup)
    (distinct' : ∀ r, y = .ok r → r.Nodup) (also : ∀ l, x = .ok l → ∃ r, y = .ok r)
    (same : ∀ l r, x = .ok l → y = .ok r → ∀ a, a ∈ l ↔ a ∈ r) : Follows List.Perm x y := by
  intro l hx
  obtain ⟨r, hy⟩ := also l hx
  exact ⟨r, hy, (List.perm_ext_iff_of_nodup (distinct l hx) (distinct' r hy)).mpr (same l r hx hy)⟩

private theorem exists_ok_mapM_filter {γ : Type} {f : α → Except ε β} {g : List β → γ}
    {p : α → Bool} {l l' : List α} {c : γ} (subset : l' ⊆ l)
    (h : ((l.filter p).mapM f).map g = .ok c) :
    ∃ c', ((l'.filter p).mapM f).map g = .ok c' := by
  obtain ⟨r, each, _⟩ := map_eq_ok_iff.mp h
  obtain ⟨r', each'⟩ : ∃ r', (l'.filter p).mapM f = .ok r' := by
    apply exists_ok_mapM
    intro a member
    obtain ⟨member, kept⟩ := List.mem_filter.mp member
    exact exists_ok_of_mapM_ok each (List.mem_filter.mpr ⟨subset member, kept⟩)
  exact ⟨g r', map_eq_ok_iff.mpr ⟨r', each', rfl⟩⟩

end Results

section SameStatements

variable {xs ys : List Value}

theorem exportableNames_follows (same : ∀ s, s ∈ xs ↔ s ∈ ys) :
    Follows List.Perm (exportableNames xs) (exportableNames ys) := by
  refine follows_perm (fun _ => nodup_of_exportableNames_ok) (fun _ => nodup_of_exportableNames_ok)
    (fun _ => exists_ok_mapM_filter fun s => (same s).mpr) ?_
  intro names names' told told' name
  rw [mem_of_exportableNames_ok told, mem_of_exportableNames_ok told']
  simp only [same]

theorem exportedNames_follows (same : ∀ s, s ∈ xs ↔ s ∈ ys) :
    Follows List.Perm (exportedNames xs) (exportedNames ys) := by
  refine follows_perm (fun _ => nodup_of_exportedNames_ok) (fun _ => nodup_of_exportedNames_ok)
    (fun _ => exists_ok_mapM_filter fun s => (same s).mpr) ?_
  intro names names' told told' name
  rw [mem_of_exportedNames_ok told, mem_of_exportedNames_ok told']
  simp only [same]

theorem missingNames_follows (same : ∀ s, s ∈ xs ↔ s ∈ ys) :
    Follows List.Perm (missingNames xs) (missingNames ys) := by
  refine follows_perm (fun _ => nodup_of_missingNames_ok) (fun _ => nodup_of_missingNames_ok) ?_ ?_
  · intro missing told
    obtain ⟨names, exported, hn, he, _⟩ := exists_of_missingNames_ok told
    obtain ⟨names', hn', _⟩ := exportableNames_follows same names hn
    obtain ⟨exported', he', _⟩ := exportedNames_follows same exported he
    exact ⟨_, missingNames_eq_filter hn' he'⟩
  · intro missing missing' told told' name
    rw [mem_of_missingNames_ok told, mem_of_missingNames_ok told']
    simp only [same]

theorem sourceType_eq_of_same (same : ∀ s, s ∈ xs ↔ s ∈ ys) : sourceType xs = sourceType ys := by
  have some : xs.any (hasTagAmong moduleTags) = ys.any (hasTagAmong moduleTags) := by
    rw [Bool.eq_iff_iff, List.any_eq_true, List.any_eq_true]
    simp only [same]
  rw [sourceType, sourceType, some]

end SameStatements

/-- Statements in another order give the same names in some order, each of the three collections of
them, or fail to give them in both orders; the kind of program stays the same. -/
theorem names_of_perm {xs ys : List Value} (reordered : xs.Perm ys) :
    SameUpToOrder (missingNames xs) (missingNames ys) ∧
    SameUpToOrder (exportableNames xs) (exportableNames ys) ∧
    SameUpToOrder (exportedNames xs) (exportedNames ys) ∧
    sourceType xs = sourceType ys := by
  have same : ∀ s, s ∈ xs ↔ s ∈ ys := fun _ => reordered.mem_iff
  have same' : ∀ s, s ∈ ys ↔ s ∈ xs := fun s => (same s).symm
  exact ⟨⟨missingNames_follows same, missingNames_follows same'⟩,
    ⟨exportableNames_follows same, exportableNames_follows same'⟩,
    ⟨exportedNames_follows same, exportedNames_follows same'⟩, sourceType_eq_of_same same⟩

/-- An export list before the declarations that it mentions, one of whose names is declared
twice. -/
def listBeforeDeclarations : List Value :=
  [exportNode ["b"], variablesNode [(identifierOf "a", 4), (identifierOf "b", 7)], functionNode "b",
    functionNode "c"]

theorem names_of_reversed :
    listBeforeDeclarations.Perm listBeforeDeclarations.reverse ∧
    missingNames listBeforeDeclarations = .ok ["a", "c"] ∧
    (∃ missing, missingNames listBeforeDeclarations.reverse = .ok missing ∧
      missing.Perm ["a", "c"] ∧ missing ≠ ["a", "c"]) ∧
    sourceType listBeforeDeclarations.reverse = .module := by
  have reordered := (List.reverse_perm listBeforeDeclarations).symm
  have told : missingNames listBeforeDeclarations = .ok ["a", "c"] := rfl
  obtain ⟨⟨missing, _⟩, _, _, kind⟩ := names_of_perm reordered
  obtain ⟨names, told', perm⟩ := missing _ told
  refine ⟨reordered, told, ⟨names, told', perm.symm, ?_⟩, kind.symm.trans (by decide)⟩
  cases told'
  decide

end ExportList
