import ExportList.Store
import Mathlib.Data.List.DropRight

/-!
Line ends in one form, and statements on lines of their own.  Line ends of a text and of what is put
behind it can be brought into one form each on its own, unless a carriage return meets a line feed;
a statement's line is begun so that they never do.
-/

set_option autoImplicit false

namespace ExportList

namespace Text

/-- Whether the last code point is a carriage return, given whether the one before the text was. -/
def endsInReturn (afterReturn : Bool) : Text → Bool
  | [] => afterReturn
  | c :: rest => endsInReturn (c = CodePoint.ofChar '\r') rest

theorem normalizeNewlinesAfter_append (afterReturn : Bool) (s t : Text) :
    normalizeNewlinesAfter afterReturn (s ++ t) =
      normalizeNewlinesAfter afterReturn s ++
        normalizeNewlinesAfter (endsInReturn afterReturn s) t := by
  induction s generalizing afterReturn with
  | nil => rfl
  | cons c s ih =>
    simp only [List.cons_append, normalizeNewlinesAfter, endsInReturn]
    by_cases isReturn : c = CodePoint.ofChar '\r'
    · simp [isReturn, ih]
    · by_cases dropped : (afterReturn && c = CodePoint.ofChar '\n') = true
      · simp only [isReturn, dropped, ih]
        simp
      · simp only [isReturn, dropped, ih]
        simp

theorem normalizeNewlinesAfter_of_noReturn {afterReturn : Bool} {t : Text}
    (noReturn : CodePoint.ofChar '\r' ∉ t)
    (start : afterReturn = true → t.head? ≠ some (CodePoint.ofChar '\n')) :
    normalizeNewlinesAfter afterReturn t = t := by
  induction t generalizing afterReturn with
  | nil => rfl
  | cons c t ih =>
    have notReturn : c ≠ CodePoint.ofChar '\r' := fun h => noReturn (h ▸ List.mem_cons_self)
    have kept : (afterReturn && c = CodePoint.ofChar '\n') = false := by
      cases afterReturn with
      | false => rfl
      | true => simpa using start rfl
    rw [normalizeNewlinesAfter, if_neg notReturn, kept, if_neg Bool.false_ne_true,
      ih (fun h => noReturn (List.mem_cons_of_mem c h)) (fun h => absurd h Bool.false_ne_true)]

theorem getLast?_of_endsInReturn {afterReturn : Bool} {t : Text} (h : endsInReturn afterReturn t)
    (nonempty : t ≠ []) :
    (normalizeNewlinesAfter afterReturn t).getLast? = some (CodePoint.ofChar '\n') := by
  induction t generalizing afterReturn with
  | nil => exact absurd rfl nonempty
  | cons c t ih =>
    cases t with
    | nil =>
      have isReturn : c = CodePoint.ofChar '\r' := by simpa [endsInReturn] using h
      simp [normalizeNewlinesAfter, isReturn]
    | cons d t =>
      rw [normalizeNewlinesAfter]
      split_ifs with isReturn dropped
      · have last : (normalizeNewlinesAfter true (d :: t)).getLast? = _ :=
          ih (by simpa [endsInReturn, isReturn] using h) (by simp)
        rw [List.getLast?_cons, last]
        rfl
      · exact ih (by simpa [endsInReturn, isReturn] using h) (by simp)
      · have last : (normalizeNewlinesAfter false (d :: t)).getLast? = _ :=
          ih (by simpa [endsInReturn, isReturn] using h) (by simp)
        rw [List.getLast?_cons, last]
        rfl

theorem dropTrailing_eq (mark : CodePoint) (t : Text) :
    t.dropTrailing mark = t.rdropWhile (· = mark) := rfl

theorem dropTrailing_ne_nil {mark c : CodePoint} {t : Text} (h : c ∈ t) (hc : c ≠ mark) :
    t.dropTrailing mark ≠ [] := by
  intro none
  rw [dropTrailing_eq, List.rdropWhile_eq_nil_iff] at none
  exact hc (by simpa using none c h)

theorem exists_dropTrailing_append (mark : CodePoint) (t : Text) :
    ∃ rest, t.dropTrailing mark ++ rest = t := by
  rw [dropTrailing_eq]
  exact List.rdropWhile_prefix _ t

end Text

/-- A statement's line leaves the line ends before it alone. -/
theorem normalizeNewlines_append_statementLine (t : Text) {statement : Text}
    (noReturn : CodePoint.ofChar '\r' ∉ statement)
    (start : statement.head? ≠ some (CodePoint.ofChar '\n'))
    (nonempty : statement.dropTrailing (CodePoint.ofChar '\n') ≠ []) :
    (t ++ statementLine t.normalizeNewlines statement).normalizeNewlines =
      t.normalizeNewlines ++ statementLine t.normalizeNewlines statement := by
  obtain ⟨rest, whole⟩ := statement.exists_dropTrailing_append (CodePoint.ofChar '\n')
  rw [Text.normalizeNewlines, Text.normalizeNewlinesAfter_append]
  congr 1
  apply Text.normalizeNewlinesAfter_of_noReturn
  · have feed : CodePoint.ofChar '\r' ∉ Text.ofString "\n" := by decide
    intro member
    simp only [statementLine, List.mem_append] at member
    rcases member with (member | member) | member
    · split_ifs at member
      · cases member
      · exact feed member
    · exact noReturn (whole ▸ List.mem_append_left rest member)
    · exact feed member
  · -- a carriage return at the end was read as a line feed, so the line begins with the statement
    intro returns
    have some : t ≠ [] := by
      rintro rfl
      exact absurd returns (by decide)
    have ended : t.normalizeNewlines.endsWith (CodePoint.ofChar '\n') := by
      rw [Text.endsWith, Text.normalizeNewlines, Text.getLast?_of_endsInReturn returns some]
      decide
    rw [statementLine, ended, Bool.or_true, if_pos rfl, List.nil_append]
    cases hd : statement.dropTrailing (CodePoint.ofChar '\n') with
    | nil => exact absurd hd nonempty
    | cons c text =>
      rw [hd] at whole
      rw [← whole] at start
      exact start

theorem Text.mem_join {separator : Text} {parts : List Text} {c : CodePoint}
    (h : c ∈ Text.join separator parts) : c ∈ separator ∨ ∃ part ∈ parts, c ∈ part := by
  induction parts with
  | nil => cases h
  | cons part parts ih =>
    cases parts with
    | nil => exact .inr ⟨part, List.mem_cons_self, h⟩
    | cons next rest =>
      rw [Text.join, List.mem_append, List.mem_append] at h
      · rcases h with (h | h) | h
        · exact .inr ⟨part, List.mem_cons_self, h⟩
        · exact .inl h
        · rcases ih h with h | ⟨other, member, h⟩
          · exact .inl h
          · exact .inr ⟨other, List.mem_cons_of_mem _ member, h⟩
      · simp

theorem head?_renderExport (names : List Text) (options : RenderOptions) :
    (renderExport names options).head? = some (CodePoint.ofChar 'e') := rfl

theorem noReturn_renderExport {names : List Text} (options : RenderOptions)
    (h : ∀ name ∈ names, CodePoint.ofChar '\r' ∉ name) :
    CodePoint.ofChar '\r' ∉ renderExport names options := by
  have fixed : ∀ text ∈ ["export \x7b ", ", ", " \x7d", ";", "\n", ""],
      CodePoint.ofChar '\r' ∉ Text.ofString text := by decide
  intro member
  simp only [renderExport, List.mem_append] at member
  rcases member with (((member | member) | member) | member) | member
  · exact fixed _ (by simp) member
  · rcases Text.mem_join member with member | ⟨name, hn, member⟩
    · exact fixed _ (by simp) member
    · exact h name hn member
  · exact fixed _ (by simp) member
  · split_ifs at member
    · exact fixed ";" (by simp) member
    · exact fixed "" (by simp) member
  · split_ifs at member
    · exact fixed "\n" (by simp) member
    · exact fixed "" (by simp) member

end ExportList
