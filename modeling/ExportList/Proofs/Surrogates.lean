import ExportList.Proofs.Source
import ExportList.Proofs.Utf8

/-!
Documents without a UTF-8 form.  They are the documents that hold a surrogate, in either dialect,
and the error gives the line and the column of the first one.
-/

set_option autoImplicit false

namespace ExportList

namespace Text

theorem splitAt_cons {mark c : CodePoint} {t piece : Text} {pieces : List Text}
    (h : splitAt mark t = piece :: pieces) :
    splitAt mark (c :: t) = if c = mark then [] :: piece :: pieces else (c :: piece) :: pieces := by
  rw [splitAt, h]

theorem exists_splitAt_eq_cons (mark : CodePoint) (t : Text) :
    ∃ piece pieces, splitAt mark t = piece :: pieces := by
  induction t with
  | nil => exact ⟨[], [], rfl⟩
  | cons c t ih =>
    obtain ⟨piece, pieces, h⟩ := ih
    rw [splitAt_cons h]
    split_ifs
    · exact ⟨_, _, rfl⟩
    · exact ⟨_, _, rfl⟩

abbrev lines (t : Text) : List Text := splitAt (CodePoint.ofChar '\n') t

/-- The position of the last line feed, or minus one if there is none. -/
def lastFeed : Text → Int
  | [] => -1
  | c :: t =>
    if lastFeed t ≠ -1 then lastFeed t + 1
    else if c = CodePoint.ofChar '\n' then 0
    else -1

/-- A surrogate stands at a line and a column of a text, and none stands before it.  Lines are
counted from one and columns from zero. -/
structure HasFirstSurrogate (t : Text) (line column : Nat) (c : CodePoint) : Prop where
  isSurrogate : c.isSurrogate
  line_pos : 0 < line
  inLine : ∃ piece, t.lines[line - 1]? = some piece ∧ piece[column]? = some c ∧
    IsScalar (piece.take column)
  earlier : ∀ piece ∈ t.lines.take (line - 1), IsScalar piece

end Text

theorem firstSurrogate?_eq_none_iff {line column : Nat} {t : Text} :
    firstSurrogate? line column t = none ↔ t.IsScalar := by
  induction t generalizing line column with
  | nil => exact ⟨fun _ _ member => absurd member List.not_mem_nil, fun _ => rfl⟩
  | cons c t ih =>
    rw [firstSurrogate?, Text.isScalar_cons]
    by_cases surrogate : c.isSurrogate
    · simp [surrogate]
    · rw [if_neg surrogate, ← Bool.not_eq_true, and_iff_right surrogate]
      split_ifs
      · exact ih
      · exact ih

private theorem neg_one_le_lastFeed (t : Text) : -1 ≤ t.lastFeed := by
  induction t with
  | nil => exact Int.le_refl _
  | cons c t ih =>
    rw [Text.lastFeed]
    split_ifs <;> omega

private theorem firstSurrogate?_append_from {before : Text} {c : CodePoint} (line column : Nat)
    (rest : Text) (clear : before.IsScalar) (surrogate : c.isSurrogate) :
    ∃ k : Nat, firstSurrogate? line column (before ++ c :: rest) =
        some (line + before.count (CodePoint.ofChar '\n'), k, c) ∧
      (k : Int) = if before.lastFeed = -1 then (column + before.length : Int)
        else before.length - (before.lastFeed + 1) := by
  induction before generalizing line column with
  | nil =>
    rw [List.nil_append, firstSurrogate?, if_pos surrogate]
    exact ⟨column, rfl, by simp [Text.lastFeed]⟩
  | cons d before ih =>
    obtain ⟨plain, clear⟩ := Text.isScalar_cons.mp clear
    have low := neg_one_le_lastFeed before
    rw [List.cons_append, firstSurrogate?, if_neg (by simp [plain]), List.count_cons,
      List.length_cons]
    by_cases feed : d = CodePoint.ofChar '\n'
    · obtain ⟨k, found, place⟩ := ih (line + 1) 0 clear
      have last : Text.lastFeed (d :: before) = Text.lastFeed before + 1 := by
        rw [Text.lastFeed, if_pos feed]
        split_ifs <;> omega
      have isFeed : Text.lastFeed before + 1 ≠ -1 := by omega
      rw [if_pos feed, last, if_neg isFeed]
      refine ⟨k, ?_, ?_⟩
      · rw [found, feed, beq_self_eq_true, if_pos rfl]
        congr 2
        omega
      · split_ifs at place <;> push_cast at place ⊢ <;> omega
    · obtain ⟨k, found, place⟩ := ih line (column + 1) clear
      have last : Text.lastFeed (d :: before) =
          if Text.lastFeed before = -1 then -1 else Text.lastFeed before + 1 := by
        rw [Text.lastFeed, if_neg feed]
        split_ifs <;> omega
      rw [if_neg feed]
      refine ⟨k, ?_, ?_⟩
      · rw [found, if_neg (by simpa using feed), Nat.add_zero]
      · rw [last]
        split_ifs at place ⊢ <;> push_cast at place ⊢ <;> omega

/-- The line of the first surrogate is one more than the line feeds before it, and its column is its
distance from the character behind the last of them. -/
theorem firstSurrogate?_append {before : Text} {c : CodePoint} (rest : Text)
    (clear : before.IsScalar) (surrogate : c.isSurrogate) :
    ∃ column : Nat, firstSurrogate? 1 0 (before ++ c :: rest) =
        some (before.count (CodePoint.ofChar '\n') + 1, column, c) ∧
      (column : Int) = before.length - (before.lastFeed + 1) := by
  obtain ⟨column, found, place⟩ := firstSurrogate?_append_from 1 0 rest clear surrogate
  refine ⟨column, by rw [found, Nat.add_comm], ?_⟩
  rw [place]
  split_ifs with none
  · rw [none]
    omega
  · rfl

/-- The search counts the lines before the one it ends in, and the characters before the surrogate
there. -/
theorem lines_of_firstSurrogate? {line column l k : Nat} {t : Text} {c : CodePoint}
    (h : firstSurrogate? line column t = some (l, k, c)) :
    ∃ earlier before after later, t.lines = earlier ++ (before ++ c :: after) :: later ∧
      c.isSurrogate ∧ (∀ piece ∈ earlier, Text.IsScalar piece) ∧ Text.IsScalar before ∧
      l = line + earlier.length ∧
      k = (if earlier = [] then column else 0) + before.length := by
  induction t generalizing line column with
  | nil => cases h
  | cons d t ih =>
    obtain ⟨piece, pieces, split⟩ := Text.exists_splitAt_eq_cons (CodePoint.ofChar '\n') t
    rw [Text.lines, Text.splitAt_cons split]
    rw [firstSurrogate?] at h
    split_ifs at h with surrogate newline
    · cases h
      have visible : c ≠ CodePoint.ofChar '\n' := by
        rintro rfl
        rw [CodePoint.isSurrogate_ofChar] at surrogate
        cases surrogate
      rw [if_neg visible]
      exact ⟨[], [], piece, pieces, rfl, surrogate, by simp, by simp [Text.IsScalar], rfl, rfl⟩
    · obtain ⟨earlier, before, after, later, lines, isSurrogate, clear, start, rfl, rfl⟩ := ih h
      rw [if_pos newline, ← split]
      refine ⟨[] :: earlier, before, after, later, congrArg _ lines, isSurrogate, ?_, start, ?_, ?_⟩
      · exact List.forall_mem_cons.mpr ⟨by simp [Text.IsScalar], clear⟩
      · rw [List.length_cons]
        omega
      · simp
    · obtain ⟨earlier, before, after, later, lines, isSurrogate, clear, start, rfl, rfl⟩ := ih h
      have plain : d.isSurrogate = false := by simpa using surrogate
      rw [if_neg newline]
      -- the character joins the first line, which is an earlier one or the one with the surrogate
      rw [Text.lines, split] at lines
      cases earlier with
      | nil =>
        obtain ⟨rfl, rfl⟩ := List.cons.inj lines
        refine ⟨[], d :: before, after, _, rfl, isSurrogate, clear,
          Text.isScalar_cons.mpr ⟨plain, start⟩, rfl, ?_⟩
        simp only [if_pos, List.length_cons]
        omega
      | cons first earlier =>
        obtain ⟨rfl, rfl⟩ := List.cons.inj lines
        obtain ⟨first', rest⟩ := List.forall_mem_cons.mp clear
        exact ⟨(d :: _) :: earlier, before, after, later, rfl, isSurrogate,
          List.forall_mem_cons.mpr ⟨Text.isScalar_cons.mpr ⟨plain, first'⟩, rest⟩, start, rfl, rfl⟩

theorem hasFirstSurrogate_of_firstSurrogate? {line column : Nat} {t : Text} {c : CodePoint}
    (h : firstSurrogate? 1 0 t = some (line, column, c)) : t.HasFirstSurrogate line column c := by
  obtain ⟨earlier, before, after, later, lines, isSurrogate, clear, start, rfl, rfl⟩ :=
    lines_of_firstSurrogate? h
  have before_eq : (if earlier = [] then 0 else 0) + before.length = before.length := by simp
  rw [before_eq]
  refine ⟨isSurrogate, by omega, ⟨before ++ c :: after, ?_, ?_, ?_⟩, ?_⟩
  · rw [Nat.add_sub_cancel_left, lines]
    simp
  · simp
  · rwa [List.take_left]
  · rwa [Nat.add_sub_cancel_left, lines, List.take_left]

/-- The error about a code point that has no UTF-8 form. -/
def surrogateError (line column : Nat) (c : CodePoint) (sourceName : Text) : ParseError :=
  { description := "Invalid character " ++ Text.quoted [c] ++ ": surrogates not allowed"
    line := some line, column := some column, sourceName }

/-- A text without surrogates has a UTF-8 form; for any other one the error is about the first of
them. -/
theorem encodeSource_cases (source sourceName : Text) :
    (source.IsScalar ∧ ∃ bytes, Utf8.encode? source = some bytes ∧
      encodeSource source sourceName = .ok bytes) ∨
    (¬source.IsScalar ∧ ∃ line column c, source.HasFirstSurrogate line column c ∧
      encodeSource source sourceName = .error (surrogateError line column c sourceName)) := by
  cases encoded : Utf8.encode? source with
  | some bytes =>
    exact .inl ⟨Utf8.exists_encode?_iff.mp ⟨bytes, encoded⟩, bytes, rfl,
      encodeSource_eq_ok_iff.mpr encoded⟩
  | none =>
    have surrogates : ¬source.IsScalar := by
      rw [← Utf8.exists_encode?_iff, encoded]
      simp
    cases found : firstSurrogate? 1 0 source with
    | none => exact absurd (firstSurrogate?_eq_none_iff.mp found) surrogates
    | some place =>
      obtain ⟨line, column, c⟩ := place
      refine .inr ⟨surrogates, line, column, c, hasFirstSurrogate_of_firstSurrogate? found, ?_⟩
      rw [encodeSource, encoded, found]
      rfl

theorem encodeSource_append {before : Text} {c : CodePoint} (rest sourceName : Text)
    (clear : before.IsScalar) (surrogate : c.isSurrogate) :
    ∃ column : Nat, (column : Int) = before.length - (before.lastFeed + 1) ∧
      encodeSource (before ++ c :: rest) sourceName =
        .error (surrogateError (before.count (CodePoint.ofChar '\n') + 1) column c sourceName) := by
  obtain ⟨column, found, place⟩ := firstSurrogate?_append rest clear surrogate
  have unencodable : Utf8.encode? (before ++ c :: rest) = none := by
    rw [← Option.not_isSome_iff_eq_none, Option.isSome_iff_exists, Utf8.exists_encode?_iff]
    intro scalar
    rw [scalar c (by simp)] at surrogate
    cases surrogate
  refine ⟨column, place, ?_⟩
  rw [encodeSource, unencodable, found]
  rfl

theorem parseScript_eq_unencodable_iff {source sourceName : Text} {e : ParseError} :
    parseScript source sourceName = .error (.unencodable e) ↔
      encodeSource source sourceName = .error e := by
  constructor
  · intro h
    rcases bind_eq_error_iff.mp h with failed | ⟨bytes, _, h⟩
    · obtain ⟨e', failed, same⟩ := mapError_eq_error_iff.mp failed
      cases same
      exact failed
    · cases read : Script.parse (source.scalars?.getD []) with
      | error complaint =>
        rw [read] at h
        cases h
      | ok program =>
        rw [read] at h
        cases h
  · intro failed
    rw [parseScript, failed]
    rfl

theorem parseTree_eq_unencodable_iff {source sourceName : Text} {tree : Concrete.Tree}
    {e : ParseError} :
    parseTree source sourceName tree = .error (.unencodable e) ↔
      encodeSource source sourceName = .error e := by
  constructor
  · intro h
    rcases bind_eq_error_iff.mp h with failed | ⟨bytes, _, h⟩
    · obtain ⟨e', failed, same⟩ := mapError_eq_error_iff.mp failed
      cases same
      exact failed
    · cases fault : tree.firstFault? with
      | some node =>
        rw [fault] at h
        cases h
      | none =>
        rw [fault] at h
        rcases bind_eq_error_iff.mp h with undecodable | ⟨program, _, h⟩
        · obtain ⟨_, _, same⟩ := mapError_eq_error_iff.mp undecodable
          cases same
        · cases h
  · intro failed
    rw [parseTree, failed]
    rfl

theorem Document.parse_eq_unencodable_iff {trees : TreeSource} {d : Document} {e : ParseError} :
    d.parse trees = .error (.unencodable e) ↔ encodeSource d.source d.sourceName = .error e := by
  rw [Document.parse]
  cases d.dialect with
  | javascript => exact parseScript_eq_unencodable_iff
  | typescript => exact parseTree_eq_unencodable_iff

/-- A document is refused for an invalid character exactly if it holds a surrogate, in both dialects
and whatever its tree would be.  The error gives line and column of the first surrogate and shows
it. Without surrogates a document has a UTF-8 form and a digest. -/
theorem parse_unencodable_iff_surrogate (trees : TreeSource) (d : Document) :
    ((∃ e, d.parse trees = .error (.unencodable e)) ↔ ∃ c ∈ d.source, c.isSurrogate) ∧
    (∀ e, d.parse trees = .error (.unencodable e) →
      ∃ line column c, d.source.HasFirstSurrogate line column c ∧
        e = surrogateError line column c d.sourceName) ∧
    ((∀ c ∈ d.source, ¬c.isSurrogate) →
      ∃ bytes, encodeSource d.source d.sourceName = .ok bytes ∧
        hashSource? d.source = some (Sha256.hexDigest bytes)) := by
  have clear : d.source.IsScalar ↔ ¬∃ c ∈ d.source, c.isSurrogate := by simp [Text.IsScalar]
  have clear' : (∀ c ∈ d.source, ¬c.isSurrogate) ↔ d.source.IsScalar := by simp [Text.IsScalar]
  simp only [Document.parse_eq_unencodable_iff, clear']
  rcases encodeSource_cases d.source d.sourceName with
    ⟨scalar, bytes, encoded, done⟩ | ⟨surrogates, line, column, c, first, failed⟩
  · have none : ∀ e, encodeSource d.source d.sourceName ≠ .error e := by simp [done]
    refine ⟨?_, fun e failed => absurd failed (none e), fun _ => ⟨bytes, done, ?_⟩⟩
    · exact ⟨fun ⟨e, failed⟩ => absurd failed (none e), fun some => absurd some (clear.mp scalar)⟩
    · rw [hashSource?, encoded]
      rfl
  · refine ⟨⟨fun _ => not_not.mp (clear.not.mp surrogates), fun _ => ⟨_, failed⟩⟩, ?_, ?_⟩
    · intro e failed'
      exact ⟨line, column, c, first, (Except.error.inj (failed.symm.trans failed')).symm⟩
    · exact fun scalar => absurd scalar surrogates

/-- Two lines, with a surrogate right behind the line break and one behind it. -/
def brokenLines (dialect : Dialect) : Document :=
  { source := Text.ofString "let a\n" ++
    [CodePoint.ofNat 0xD800, CodePoint.ofChar 'x', CodePoint.ofNat 0xDC00]
    sourceName := "a.ts"
    dialect }

theorem parse_unencodable_brokenLines :
    ∀ dialect, ∃ e, (brokenLines dialect).parse grammarTrees = .error (.unencodable e) ∧
      (∃ line column c, (brokenLines dialect).source.HasFirstSurrogate line column c ∧
        e = surrogateError line column c "a.ts") ∧
      e.message = "Invalid character '\\ud800': surrogates not allowed (line 2, column 0)" := by
  intro dialect
  obtain ⟨refused, located, _⟩ := parse_unencodable_iff_surrogate grammarTrees (brokenLines dialect)
  obtain ⟨e, failed⟩ := refused.mpr ⟨CodePoint.ofNat 0xD800, by simp [brokenLines], by decide⟩
  have first : encodeSource (brokenLines dialect).source "a.ts" =
      .error (surrogateError 2 0 (CodePoint.ofNat 0xD800) "a.ts") := rfl
  refine ⟨e, failed, located e failed, ?_⟩
  cases first.symm.trans (Document.parse_eq_unencodable_iff.mp failed)
  decide +kernel

end ExportList
