import ExportList.Proofs.Effects

/-!
Statements appended to a file one after another.  Reading brings line ends into one form and writing
leaves them alone, so the bytes only ever grow while the text read from them gets one ended line for
each statement.
-/

set_option autoImplicit false

namespace ExportList

/-- A statement that stands on a line of its own: it can be written, and neither its line nor the
one before it is changed when line ends are brought into one form. -/
structure IsLine (statement : Text) : Prop where
  scalar : statement.IsScalar
  noReturn : CodePoint.ofChar '\r' ∉ statement
  start : statement.head? ≠ some (CodePoint.ofChar '\n')
  nonempty : statement.dropTrailing (CodePoint.ofChar '\n') ≠ []

def Text.withLineEnd (t : Text) : Text :=
  if t.isEmpty || t.endsWith (CodePoint.ofChar '\n') then t else t ++ Text.ofString "\n"

/-- A statement with one line feed at its end. -/
def endedLine (statement : Text) : Text :=
  statement.dropTrailing (CodePoint.ofChar '\n') ++ Text.ofString "\n"

theorem append_statementLine (t statement : Text) :
    t ++ statementLine t statement = t.withLineEnd ++ endedLine statement := by
  unfold statementLine Text.withLineEnd endedLine
  split_ifs <;> simp

theorem withLineEnd_append_endedLine (t statement : Text) :
    Text.withLineEnd (t ++ endedLine statement) = t ++ endedLine statement := by
  have last : (t ++ endedLine statement).getLast? = some (CodePoint.ofChar '\n') := by
    rw [endedLine, ← List.append_assoc]
    exact List.getLast?_concat
  rw [Text.withLineEnd, Text.endsWith, last, beq_self_eq_true, Bool.or_true, if_pos rfl]

theorem Text.mem_dropTrailing {mark c : CodePoint} {t : Text} (h : c ∈ t) (hc : c ≠ mark) :
    c ∈ t.dropTrailing mark := by
  have split : c ∈ t.reverse.takeWhile (· = mark) ++ t.reverse.dropWhile (· = mark) := by
    rw [List.takeWhile_append_dropWhile]
    exact List.mem_reverse.mpr h
  rcases List.mem_append.mp split with dropped | kept
  · have isMark := List.all_eq_true.mp List.all_takeWhile c dropped
    exact absurd (of_decide_eq_true isMark) hc
  · exact List.mem_reverse.mpr kept

/-- The line of a statement can be written exactly if the statement can. -/
theorem isScalar_statementLine_iff (existing : Text) {statement : Text} :
    (statementLine existing statement).IsScalar ↔ statement.IsScalar := by
  have feed : Text.IsScalar (Text.ofString "\n") := Text.isScalar_ofString "\n"
  obtain ⟨rest, whole⟩ := statement.exists_dropTrailing_append (CodePoint.ofChar '\n')
  constructor
  · intro h c member
    by_cases isFeed : c = CodePoint.ofChar '\n'
    · rw [isFeed]
      rfl
    · apply h c
      simp [statementLine, Text.mem_dropTrailing member isFeed]
  · intro h
    have kept : (statement.dropTrailing (CodePoint.ofChar '\n')).IsScalar :=
      (Text.isScalar_append.mp (whole ▸ h)).1
    unfold statementLine
    split_ifs
    · exact Text.isScalar_append.mpr ⟨kept, feed⟩
    · exact Text.isScalar_append.mpr ⟨Text.isScalar_append.mpr ⟨feed, kept⟩, feed⟩

namespace Store

/-- The text that stands in a file, its line ends in one form; nothing stands in a file that is not
there. -/
def existingText (s : Store) (path : Path) : Except StoreError Text :=
  if s.has path then s.readText path else .ok []

def appendAll (s : Store) (path : Path) (statements : List Text) : Store :=
  statements.foldl (fun s statement => (s.appendStatement path statement).1) s

theorem openBytes_put_self (s : Store) {path : Path} (bytes : Bytes) (h : path ≠ []) :
    (s.put path (.file bytes)).openBytes path = .ok bytes := by
  rw [openBytes, get?_put_self s _ h]

section Step

variable {s : Store} {path : Path} {bytes : Bytes}

theorem ne_nil_of_openBytes (opened : s.openBytes path = .ok bytes) : path ≠ [] := by
  rintro rfl
  cases opened

/-- What stands in a file that can be opened is what its bytes read as. -/
theorem existingText_of_openBytes (opened : s.openBytes path = .ok bytes) :
    s.existingText path = ((Utf8.decode bytes).map Text.normalizeNewlines).mapError
      .undecodable := by
  unfold openBytes at opened
  unfold existingText has readText
  cases found : s.get? path with
  | none =>
    -- there is no file yet, so it is opened without bytes
    rw [found] at opened
    simp only at opened
    split at opened
    · cases opened
      rfl
    · cases opened
    · cases opened
  | some entry =>
    rw [found] at opened
    cases entry with
    | directory => cases opened
    | file content =>
      cases opened
      rfl

theorem appendStatement_of_openBytes (opened : s.openBytes path = .ok bytes) (statement : Text) :
    s.appendStatement path statement =
      match Utf8.decode bytes with
      | .ok raw => s.writeAfter path bytes (statementLine raw.normalizeNewlines statement)
      | .error fault => (s, .error (.undecodable fault)) := by
  have existing := existingText_of_openBytes opened
  rw [existingText] at existing
  rw [appendStatement, existing]
  cases Utf8.decode bytes with
  | error fault => rfl
  | ok raw => simp only [Except.map, Except.mapError, appendText, opened]

/-- A statement's line is put behind the bytes of the file, and the text gets its line ended and
that of the statement. -/
theorem appendStatement_line {t statement : Text} (opened : s.openBytes path = .ok bytes)
    (text : s.existingText path = .ok t) (line : IsLine statement) :
    ∃ added, s.appendStatement path statement = (s.put path (.file (bytes ++ added)), .ok ()) ∧
      (s.put path (.file (bytes ++ added))).existingText path =
        .ok (t.withLineEnd ++ endedLine statement) := by
  rw [existingText_of_openBytes opened, mapError_eq_ok_iff] at text
  obtain ⟨raw, decoded, rfl⟩ := map_eq_ok_iff.mp text
  have scalar := (isScalar_statementLine_iff raw.normalizeNewlines).mpr line.scalar
  obtain ⟨added, encoded⟩ := Utf8.exists_encode?_iff.mpr scalar
  have whole := Utf8.decode_append decoded (Utf8.decode_eq_ok_iff.mpr encoded)
  have reopened := s.openBytes_put_self (bytes ++ added) (ne_nil_of_openBytes opened)
  refine ⟨added, ?_, ?_⟩
  · simp only [appendStatement_of_openBytes opened, decoded, writeAfter, encoded]
  · rw [existingText_of_openBytes reopened, whole, ← append_statementLine,
      ← normalizeNewlines_append_statementLine raw line.noReturn line.start line.nonempty]
    rfl

end Step

/-- After statements on lines of their own the file can be opened, and its text has a line for
each. -/
theorem appendAll_line {s : Store} {path : Path} {bytes : Bytes} {t : Text} {statements : List Text}
    (opened : s.openBytes path = .ok bytes) (text : s.existingText path = .ok t)
    (lines : ∀ statement ∈ statements, IsLine statement) :
    (∃ last, (s.appendAll path statements).openBytes path = .ok last) ∧
      (s.appendAll path statements).existingText path =
        .ok (if statements.isEmpty then t else t.withLineEnd ++ statements.flatMap endedLine) := by
  induction statements generalizing s bytes t with
  | nil => exact ⟨⟨bytes, opened⟩, text⟩
  | cons statement statements ih =>
    rw [List.forall_mem_cons] at lines
    obtain ⟨added, appended, grown⟩ := appendStatement_line opened text lines.1
    have reopened := s.openBytes_put_self (bytes ++ added) (ne_nil_of_openBytes opened)
    obtain ⟨last, final⟩ := ih reopened grown lines.2
    have step : s.appendAll path (statement :: statements) =
        (s.put path (.file (bytes ++ added))).appendAll path statements := by
      rw [appendAll, List.foldl_cons, appended]
      rfl
    rw [step]
    refine ⟨last, ?_⟩
    rw [final, withLineEnd_append_endedLine]
    cases statements <;> simp

/-- A statement that cannot be written leaves a file that is there as it is. -/
theorem appendStatement_unencodable {s : Store} {path : Path} {content : Bytes} {statement : Text}
    (found : s.get? path = some (.file content)) (h : ¬statement.IsScalar) :
    (∃ e, (s.appendStatement path statement).2 = .error e) ∧
      ∀ p, (s.appendStatement path statement).1.get? p = s.get? p := by
  have opened : s.openBytes path = .ok content := by rw [openBytes, found]
  rw [appendStatement_of_openBytes opened]
  cases Utf8.decode content with
  | error fault => exact ⟨⟨_, rfl⟩, fun _ => rfl⟩
  | ok raw =>
    have none : Utf8.encode? (statementLine raw.normalizeNewlines statement) = none := by
      rw [Option.eq_none_iff_forall_ne_some]
      intro added encoded
      exact h ((isScalar_statementLine_iff _).mp (Utf8.exists_encode?_iff.mp ⟨added, encoded⟩))
    simp only [writeAfter, none]
    refine ⟨⟨_, rfl⟩, fun p => ?_⟩
    by_cases same : p = path
    · rw [same, found, get?_put_self s _ (ne_nil_of_file found)]
    · exact get?_put_of_ne s _ same

/-- Statements on lines of their own, appended to a file that can be opened, whether or not it is
there yet: each call succeeds and puts some bytes behind those of the file, and in the end the text
is the old one, its last line ended, and one ended line for each statement.  If the bytes are no
text, a call fails and changes nothing; if a statement is none, it fails and leaves a file that is
there as it is. -/
theorem appendAll_lines {s : Store} {path : Path} {bytes : Bytes}
    (opened : s.openBytes path = .ok bytes) :
    (∀ raw statements, Utf8.decode bytes = .ok raw → (∀ statement ∈ statements, IsLine statement) →
      (∀ before statement after, statements = before ++ statement :: after → ∃ old added,
        (s.appendAll path before).openBytes path = .ok old ∧
        (s.appendAll path before).appendStatement path statement =
          ((s.appendAll path before).put path (.file (old ++ added)), .ok ())) ∧
      (s.appendAll path statements).existingText path =
        .ok (if statements.isEmpty then raw.normalizeNewlines
          else raw.normalizeNewlines.withLineEnd ++ statements.flatMap endedLine)) ∧
    (∀ fault statement, Utf8.decode bytes = .error fault →
      s.appendStatement path statement = (s, .error (.undecodable fault))) ∧
    ∀ content statement, s.get? path = some (.file content) → ¬statement.IsScalar →
      (∃ e, (s.appendStatement path statement).2 = .error e) ∧
        ∀ p, (s.appendStatement path statement).1.get? p = s.get? p := by
  refine ⟨?_, ?_, fun _ _ => appendStatement_unencodable⟩
  · intro raw statements decoded lines
    have text : s.existingText path = .ok raw.normalizeNewlines := by
      rw [existingText_of_openBytes opened, decoded]
      rfl
    refine ⟨?_, (appendAll_line opened text lines).2⟩
    rintro before statement after rfl
    obtain ⟨early, line, _⟩ := List.forall_mem_append.mp lines |>.imp_right List.forall_mem_cons.mp
    obtain ⟨⟨old, reopened⟩, current⟩ := appendAll_line opened text early
    obtain ⟨added, appended, _⟩ := appendStatement_line reopened current line
    exact ⟨old, added, reopened, appended⟩
  · intro fault statement undecodable
    rw [appendStatement_of_openBytes opened, undecodable]

def withFile (bytes : Bytes) : Store := ⟨[([Text.ofString "a.ts"], .file bytes)]⟩

theorem appendAll_lines_return :
    Utf8.decode [120, 13] = .ok "x\r" ∧
      ((withFile [120, 13]).appendAll ["a.ts"] ["é\n\n", ";"]).existingText ["a.ts"] =
        .ok "x\né\n;\n" ∧
      (∃ fault, (withFile [0xFF]).appendStatement ["a.ts"] ";" =
        (withFile [0xFF], .error (.undecodable fault))) ∧
      ∀ p, ((withFile [120, 13]).appendStatement ["a.ts"] [CodePoint.ofNat 0xD800]).1.get? p =
        (withFile [120, 13]).get? p := by
  have lines : ∀ statement ∈ [Text.ofString "é\n\n", Text.ofString ";"], IsLine statement := by
    simp only [List.forall_mem_cons, List.not_mem_nil, false_imp_iff, implies_true, and_true]
    exact ⟨⟨by decide, by decide, by decide, by decide⟩,
      ⟨by decide, by decide, by decide, by decide⟩⟩
  have opened : ∀ bytes, (withFile bytes).openBytes ["a.ts"] = .ok bytes := fun _ => rfl
  obtain ⟨run, _, unencodable⟩ := appendAll_lines (opened [120, 13])
  obtain ⟨_, undecodable, _⟩ := appendAll_lines (opened [0xFF])
  exact ⟨rfl, (run _ _ rfl lines).2, ⟨_, undecodable _ _ rfl⟩, (unencodable _ _ rfl (by decide)).2⟩

end Store

end ExportList
