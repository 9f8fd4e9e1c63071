import ExportList.Proofs.Lines
import ExportList.Proofs.Sequence
import ExportList.Proofs.Utf8

/-!
Reading and writing files of a store.  What is put at a path is found there, and a file to which a
statement was appended reads as before, with the statement's line behind.
-/

set_option autoImplicit false

namespace ExportList.Store

theorem ne_nil_of_file {s : Store} {path : Path} {bytes : Bytes}
    (h : s.get? path = some (.file bytes)) : path ≠ [] := by
  rintro rfl
  cases h

theorem get?_put_self (s : Store) {path : Path} (entry : Entry) (h : path ≠ []) :
    (s.put path entry).get? path = some entry := by
  simp [get?, put, h]

theorem readText_eq_ok_iff {s : Store} {path : Path} {t : Text} :
    s.readText path = .ok t ↔
      ∃ bytes raw, s.get? path = some (.file bytes) ∧ Utf8.decode bytes = .ok raw ∧
        raw.normalizeNewlines = t := by
  unfold readText
  cases h : s.get? path with
  | none => simp
  | some entry =>
    cases entry with
    | directory => simp
    | file bytes => simp [mapError_eq_ok_iff, map_eq_ok_iff]

theorem has_of_readText {s : Store} {path : Path} {t : Text} (h : s.readText path = .ok t) :
    s.has path := by
  obtain ⟨bytes, raw, found, _, _⟩ := readText_eq_ok_iff.mp h
  rw [has, found]
  rfl

/-- A statement that is appended with success is put behind the bytes of the file, on a line. -/
theorem appendStatement_eq_ok {s s' : Store} {path : Path} {t statement : Text}
    (read : s.readText path = .ok t) (h : s.appendStatement path statement = (s', .ok ())) :
    ∃ bytes added, s.get? path = some (.file bytes) ∧
      Utf8.encode? (statementLine t statement) = some added ∧
      s' = s.put path (.file (bytes ++ added)) := by
  obtain ⟨bytes, raw, found, _, _⟩ := readText_eq_ok_iff.mp read
  have opened : s.openBytes path = .ok bytes := by
    rw [openBytes, found]
  rw [appendStatement, if_pos (has_of_readText read), read] at h
  simp only [appendText, opened, writeAfter] at h
  cases he : Utf8.encode? (statementLine t statement) with
  | none =>
    rw [he] at h
    cases h
  | some added =>
    rw [he] at h
    cases h
    exact ⟨bytes, added, found, rfl, rfl⟩

/-- A file to which a statement was appended reads as before, with the statement's line behind. -/
theorem readText_appendStatement {s s' : Store} {path : Path} {t statement : Text}
    (read : s.readText path = .ok t) (h : s.appendStatement path statement = (s', .ok ()))
    (noReturn : CodePoint.ofChar '\r' ∉ statement)
    (start : statement.head? ≠ some (CodePoint.ofChar '\n'))
    (nonempty : statement.dropTrailing (CodePoint.ofChar '\n') ≠ []) :
    s'.readText path = .ok (t ++ statementLine t statement) := by
  obtain ⟨bytes, added, found, encoded, rfl⟩ := appendStatement_eq_ok read h
  obtain ⟨bytes', raw, found', decoded, rfl⟩ := readText_eq_ok_iff.mp read
  cases found.symm.trans found'
  have whole : Utf8.decode (bytes ++ added) =
      .ok (raw ++ statementLine raw.normalizeNewlines statement) :=
    Utf8.decode_append decoded (Utf8.decode_eq_ok_iff.mpr encoded)
  exact readText_eq_ok_iff.mpr ⟨_, _, get?_put_self s _ (ne_nil_of_file found), whole,
    normalizeNewlines_append_statementLine raw noReturn start nonempty⟩

end ExportList.Store
