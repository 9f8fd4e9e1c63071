import ExportList.Proofs.Sequence
import ExportList.Script.Scanner

/-!
Tokens of a document that another text is put behind.  A text that begins on a new line cannot
change a token before it: what the scanner reads of the document on its own, it reads of the longer
one too.
-/

set_option autoImplicit false

namespace ExportList.Script

variable {tail rest : List Char} {c a : Cursor}

/-- What follows begins on a new line: it begins with a line feed, or what is left ends with one. -/
def Sealed (tail rest : List Char) : Prop := tail.head? = some '\n' ∨ rest.getLast? = some '\n'

theorem getLast?_append_of_ne_nil (read : List Char) (some : rest ≠ []) :
    (read ++ rest).getLast? = rest.getLast? := by
  rw [List.getLast?_append, List.getLast?_eq_some_getLast some]
  rfl

theorem Sealed.head {tail : List Char} (h : Sealed tail []) : tail.head? = some '\n' := by
  rcases h with h | h
  · exact h
  · cases h

theorem Sealed.of_suffix (read : List Char) (h : Sealed tail (read ++ rest)) (some : rest ≠ []) :
    Sealed tail rest := by
  rcases h with h | h
  · exact .inl h
  · rw [getLast?_append_of_ne_nil read some] at h
    exact .inr h

theorem Sealed.of_cons {d : Char} (h : Sealed tail (d :: rest)) (other : d ≠ '\n') :
    Sealed tail rest := by
  cases rest with
  | nil =>
    rcases h with h | h
    · exact .inl h
    · cases h
      exact absurd rfl other
  | cons d' rest => exact .of_suffix [d] h (by simp)

namespace Cursor

def followed (c : Cursor) (tail : List Char) : Cursor := { c with rest := c.rest ++ tail }

/-- One position leads to another on reading characters of which the last is no line feed. -/
def Leads (c a : Cursor) : Prop :=
  ∃ read, c.rest = read ++ a.rest ∧ a.index = c.index + read.length ∧ read.getLast? ≠ some '\n'

/-- One position leads to another on reading some characters. -/
def Reaches (c a : Cursor) : Prop :=
  ∃ read, c.rest = read ++ a.rest ∧ a.index = c.index + read.length

theorem Leads.reaches (h : c.Leads a) : c.Reaches a := by
  obtain ⟨read, left, index, _⟩ := h
  exact ⟨read, left, index⟩

theorem Reaches.trans {b : Cursor} (first : c.Reaches b) (second : b.Reaches a) : c.Reaches a := by
  obtain ⟨read, left, index⟩ := first
  obtain ⟨more, left', index'⟩ := second
  refine ⟨read ++ more, by rw [left, left', List.append_assoc], ?_⟩
  rw [index', index, List.length_append, Nat.add_assoc]

theorem Reaches.closed (h : c.Reaches a) (closed : Sealed tail c.rest) (some : a.rest ≠ []) :
    Sealed tail a.rest := by
  obtain ⟨read, left, _⟩ := h
  rw [left] at closed
  exact closed.of_suffix read some

theorem Leads.refl (c : Cursor) : c.Leads c := ⟨[], rfl, rfl, by simp⟩

theorem Leads.trans {b : Cursor} (first : c.Leads b) (second : b.Leads a) : c.Leads a := by
  obtain ⟨read, left, index, last⟩ := first
  obtain ⟨more, left', index', last'⟩ := second
  refine ⟨read ++ more, by rw [left, left', List.append_assoc], ?_, ?_⟩
  · rw [index', index, List.length_append, Nat.add_assoc]
  · by_cases none : more = []
    · rw [none, List.append_nil]
      exact last
    · rw [getLast?_append_of_ne_nil read none]
      exact last'

/-- What is read last decides. -/
theorem Reaches.leads {b : Cursor} (first : c.Reaches b) (second : b.Leads a)
    (some : a.index ≠ b.index) : c.Leads a := by
  obtain ⟨read, left, index⟩ := first
  obtain ⟨more, left', index', last'⟩ := second
  refine ⟨read ++ more, by rw [left, left', List.append_assoc], ?_, ?_⟩
  · rw [index', index, List.length_append, Nat.add_assoc]
  · have some : more ≠ [] := by
      rintro rfl
      exact some index'
    rw [getLast?_append_of_ne_nil read some]
    exact last'

theorem Leads.length_le (h : c.Leads a) : a.rest.length ≤ c.rest.length := by
  obtain ⟨read, left, _⟩ := h
  simp [left]

theorem Leads.closed (h : c.Leads a) (closed : Sealed tail c.rest) : Sealed tail a.rest := by
  obtain ⟨read, left, _, last⟩ := h
  by_cases none : a.rest = []
  · rw [left, none, List.append_nil] at closed
    rcases closed with closed | closed
    · exact .inl closed
    · exact absurd closed last
  · rw [left] at closed
    exact closed.of_suffix read none

theorem Leads.advance_one {d : Char} (left : c.rest = d :: rest) (other : d ≠ '\n') :
    c.Leads (c.advance 1) := by
  refine ⟨[d], ?_, rfl, ?_⟩
  · simp [advance, left]
  · simpa using other

theorem advance_followed {n : Nat} (h : n ≤ c.rest.length) :
    (c.followed tail).advance n = (c.advance n).followed tail := by
  simp [advance, followed, List.drop_append_of_le_length h]

variable (tail) in
theorem followed_of_cons {d : Char} (left : c.rest = d :: rest) :
    (c.followed tail).rest = d :: (rest ++ tail) ∧ (c.followed tail).peek = c.peek ∧
      (c.followed tail).advance 1 = (c.advance 1).followed tail :=
  ⟨by simp [followed, left], by simp [peek, followed, left], advance_followed (by simp [left])⟩

/-- A condition that holds neither of the end nor of a line feed has the same answer. -/
theorem peek_followed (is : Char → Bool) (closed : Sealed tail c.rest) (feed : is '\n' = false)
    (null : is '\x00' = false) : is (c.followed tail).peek = is c.peek := by
  cases left : c.rest with
  | nil =>
    rw [left] at closed
    obtain ⟨more, rfl⟩ := List.head?_eq_some_iff.mp closed.head
    simp [peek, followed, left, feed, null]
  | cons d rest => simp [peek, followed, left]

theorem peek_followed_eq (d : Char) (closed : Sealed tail c.rest) (feed : d ≠ '\n')
    (null : d ≠ '\x00') : (c.followed tail).peek = d ↔ c.peek = d := by
  have same := peek_followed (fun d' => decide (d' = d)) closed (decide_eq_false feed.symm)
    (decide_eq_false null.symm)
  exact decide_eq_decide.mp same

theorem ne_feed_of_peek {d : Char} (left : c.rest = d :: rest) (notEnd : ¬isLineEnd c.peek = true) :
    d ≠ '\n' := by
  rintro rfl
  simp [peek, left, isLineEnd] at notEnd

theorem exists_rest_of_peek {is : Char → Bool} (h : is c.peek = true) (null : is '\x00' = false) :
    ∃ d rest, c.rest = d :: rest ∧ is d = true := by
  cases left : c.rest with
  | nil => simp [peek, left, null] at h
  | cons d rest => exact ⟨d, rest, rfl, by simpa [peek, left] using h⟩

variable (tail) in
/-- A character that satisfies a condition is read, on the longer document as well. -/
theorem step_of_peek (is : Char → Bool) (h : is c.peek = true) (null : is '\x00' = false)
    (feed : is '\n' = false) :
    c.Leads (c.advance 1) ∧ (c.followed tail).advance 1 = (c.advance 1).followed tail := by
  obtain ⟨d, rest, left, member⟩ := exists_rest_of_peek h null
  have other : d ≠ '\n' := by
    rintro rfl
    rw [feed] at member
    cases member
  exact ⟨.advance_one left other, advance_followed (by simp [left])⟩

variable (tail) in
theorem step_of_peek_eq {d : Char} (h : c.peek = d) (null : d ≠ '\x00') (feed : d ≠ '\n') :
    c.Leads (c.advance 1) ∧ (c.followed tail).advance 1 = (c.advance 1).followed tail :=
  step_of_peek tail (fun d' => decide (d' = d)) (decide_eq_true h) (decide_eq_false null.symm)
    (decide_eq_false feed.symm)

theorem begins_followed (text : List Char) (closed : Sealed tail c.rest) (other : '\n' ∉ text) :
    (c.followed tail).begins text = c.begins text := by
  have same : ∀ rest, Sealed tail rest → text.isPrefixOf (rest ++ tail) = text.isPrefixOf rest := by
    induction text with
    | nil => simp
    | cons d text ih =>
      intro rest closed
      have notFeed : d ≠ '\n' := fun same => other (by simp [same])
      have other : '\n' ∉ text := fun member => other (List.mem_cons_of_mem d member)
      cases rest with
      | nil =>
        obtain ⟨more, rfl⟩ := List.head?_eq_some_iff.mp closed.head
        simp [List.isPrefixOf, notFeed]
      | cons d' rest =>
        simp only [List.cons_append, List.isPrefixOf_cons_cons]
        by_cases same : d = d'
        · rw [ih other rest (closed.of_cons fun feed => notFeed (by rw [same, feed]))]
        · rw [beq_false_of_ne same, Bool.false_and, Bool.false_and]
  exact same c.rest closed

end Cursor

open Cursor

/-- What a scanner finds before it comes to what follows, it also finds in the longer document. -/
def Carries {α : Type} (tail : List Char) (scan : Cursor → Scan (α × Cursor)) (c : Cursor) : Prop :=
  ∀ ⦃x a⦄, scan c = .ok (x, a) → scan (c.followed tail) = .ok (x, a.followed tail) ∧ c.Leads a

theorem takeClass_followed (is : Char → Bool) (closed : Sealed tail c.rest)
    (feed : is '\n' = false) :
    takeClass is (c.followed tail) =
        ((takeClass is c).1, (takeClass is c).2.followed tail) ∧
      c.Leads (takeClass is c).2 := by
  have same : ∀ rest, Sealed tail rest → (rest ++ tail).takeWhile is = rest.takeWhile is := by
    intro rest
    induction rest with
    | nil =>
      intro closed
      obtain ⟨more, rfl⟩ := List.head?_eq_some_iff.mp closed.head
      simp [feed]
    | cons d rest ih =>
      intro closed
      rw [List.cons_append, List.takeWhile_cons, List.takeWhile_cons]
      split
      · rename_i member
        rw [ih (closed.of_cons fun same => by simp [same, feed] at member)]
      · rfl
  have short := (List.takeWhile_prefix (l := c.rest) is).length_le
  constructor
  · simp only [takeClass]
    rw [← advance_followed short]
    simp only [followed, same c.rest closed]
  · refine ⟨c.rest.takeWhile is, ?_, rfl, fun last => ?_⟩
    · obtain ⟨more, split⟩ := List.takeWhile_prefix (l := c.rest) is
      simp only [takeClass, advance]
      generalize c.rest.takeWhile is = taken at split
      simp [← split]
    · have member := List.all_takeWhile (l := c.rest) (p := is)
      rw [List.all_eq_true] at member
      have := member _ (List.mem_of_getLast? last)
      rw [feed] at this
      cases this

theorem ne_feed_of_hexValue? {d : Char} {n : Nat} (h : hexValue? d = some n) : d ≠ '\n' := by
  rintro rfl
  cases h

theorem scanHex_followed (count value : Nat) (closed : Sealed tail c.rest) :
    scanHex count value (c.followed tail) =
        ((scanHex count value c).1, (scanHex count value c).2.followed tail) ∧
      c.Leads (scanHex count value c).2 := by
  induction count generalizing value c with
  | zero => exact ⟨rfl, .refl c⟩
  | succ count ih =>
    cases left : c.rest with
    | nil =>
      rw [left] at closed
      obtain ⟨more, rfl⟩ := List.head?_eq_some_iff.mp closed.head
      have none : hexValue? '\n' = none := rfl
      simp [scanHex, followed, left, none, Leads.refl]
    | cons d rest =>
      cases digit : hexValue? d with
      | none => simp [scanHex, followed, left, digit, Leads.refl]
      | some n =>
        have step := Leads.advance_one left (ne_feed_of_hexValue? digit)
        have next := ih (value * 16 + n) (step.closed closed)
        rw [← advance_followed (by simp [left])] at next
        simp only [scanHex, left, digit, show (c.followed tail).rest = d :: (rest ++ tail) by
          simp [followed, left]]
        exact ⟨next.1, step.trans next.2⟩

variable (tail) in
theorem scanBracedDigits_followed (index line lineStart value : Nat) (rest : List Char) {n : Nat}
    {after : Cursor} (h : scanBracedDigits index line lineStart value rest = (n, '}', after)) :
    scanBracedDigits index line lineStart value (rest ++ tail) = (n, '}', after.followed tail) ∧
      Cursor.Leads ⟨rest, index, line, lineStart⟩ after := by
  induction rest generalizing index value with
  | nil => cases h
  | cons d rest ih =>
    rw [List.cons_append, scanBracedDigits]
    rw [scanBracedDigits] at h
    cases digit : hexValue? d with
    | some m =>
      simp only [digit] at h ⊢
      obtain ⟨read, leads⟩ := ih (index + 1) (value * 16 + m) h
      exact ⟨read, .trans (Leads.advance_one rfl (ne_feed_of_hexValue? digit)) leads⟩
    | none =>
      simp only [digit] at h ⊢
      cases h
      exact ⟨rfl, Leads.advance_one rfl (by decide)⟩

theorem scanBracedEscape_carries (closed : Sealed tail c.rest) :
    Carries tail scanBracedEscape c := by
  intro point after h
  have brace := peek_followed_eq '}' closed (by decide) (by decide)
  rcases digits : scanBracedDigits c.index c.line c.lineStart 0 c.rest with ⟨value, stop, stopped⟩
  simp only [scanBracedEscape, digits] at h
  split at h
  · cases h
  · rename_i other
    split at h
    · cases h
    · rename_i valid
      cases h
      simp only [Bool.or_eq_true, decide_eq_true_eq, not_or, Decidable.not_not] at valid
      rw [valid.2] at digits
      obtain ⟨read, leads⟩ :=
        scanBracedDigits_followed tail c.index c.line c.lineStart 0 c.rest digits
      refine ⟨?_, leads⟩
      simp only [scanBracedEscape, brace, other, if_false]
      simp only [followed, read, valid.1, decide_false, ne_eq, not_true_eq_false, Bool.or_self,
        Bool.false_eq_true, if_false]

/-- A number in braces, from the opening brace on. -/
theorem scanBracedEscape_of_brace (closed : Sealed tail c.rest) (isBrace : c.peek = '{') :
    Carries tail (fun c => scanBracedEscape (c.advance 1)) c := by
  intro point after h
  obtain ⟨step, moved⟩ := step_of_peek_eq tail isBrace (by decide) (by decide)
  obtain ⟨read, leads⟩ := scanBracedEscape_carries (step.closed closed) h
  simp only [moved]
  exact ⟨read, step.trans leads⟩

/-- Either there are enough digits, in both documents, or there are not. -/
theorem scanHex_cases (count : Nat) (closed : Sealed tail c.rest) :
    (∃ value a, scanHex count 0 c = (some value, a) ∧
        scanHex count 0 (c.followed tail) = (some value, a.followed tail) ∧ c.Leads a) ∨
      ∃ a, scanHex count 0 c = (none, a) ∧
        scanHex count 0 (c.followed tail) = (none, a.followed tail) := by
  obtain ⟨read, leads⟩ := scanHex_followed count 0 closed
  rcases digits : scanHex count 0 c with ⟨none | value, a⟩
  · rw [digits] at read
    exact .inr ⟨a, rfl, read⟩
  · rw [digits] at read leads
    exact .inl ⟨value, a, rfl, read, leads⟩

theorem scanNameEscape_carries (isAllowed : Nat → Bool) (closed : Sealed tail c.rest) :
    Carries tail (scanNameEscape isAllowed) c := by
  intro point after h
  have letter := peek_followed_eq 'u' closed (by decide) (by decide)
  unfold scanNameEscape at h ⊢
  by_cases isLetter : c.peek = 'u'
  · obtain ⟨step, moved⟩ := step_of_peek_eq tail isLetter (by decide) (by decide)
    have closed := step.closed closed
    have brace := peek_followed_eq '{' closed (by decide) (by decide)
    simp only [moved, ne_eq, letter, isLetter, not_true_eq_false, if_false, brace] at h ⊢
    split_ifs at h ⊢ with isBrace
    · obtain ⟨read, leads⟩ := scanBracedEscape_of_brace closed isBrace h
      exact ⟨read, step.trans leads⟩
    · obtain ⟨value, stopped, digits, digits', leads⟩ | ⟨stopped, digits, _⟩ :=
        scanHex_cases 4 closed
      · simp only [digits, digits'] at h ⊢
        split_ifs at h ⊢
        cases h
        exact ⟨rfl, step.trans leads⟩
      · simp only [digits] at h
        cases h
  · rw [if_pos isLetter] at h
    cases h

theorem scanNameRest_of_stop (fuel : Nat) (name : Text)
    (stop : ∀ d rest, c.rest = d :: rest → d ≠ '\\' ∧ isNamePart d.toNat = false) :
    scanNameRest fuel name c = .ok (name.reverse, c) := by
  cases fuel with
  | zero => rfl
  | succ fuel =>
    cases left : c.rest with
    | nil => simp only [scanNameRest, left]
    | cons d rest =>
      obtain ⟨plain, other⟩ := stop d rest left
      simp [scanNameRest, left, plain, other]

theorem scanNameRest_of_nil (fuel : Nat) (name : Text) (left : c.rest = [])
    (closed : Sealed tail c.rest) :
    scanNameRest fuel name (c.followed tail) = .ok (name.reverse, c.followed tail) := by
  apply scanNameRest_of_stop
  rw [left] at closed
  obtain ⟨more, rfl⟩ := List.head?_eq_some_iff.mp closed.head
  intro d rest next
  simp only [followed, left, List.nil_append, List.cons.injEq] at next
  rw [← next.1]
  decide

theorem scanNameRest_carries {fuel fuel' : Nat} {name : Text} (closed : Sealed tail c.rest)
    (enough : c.rest.length ≤ fuel) (le : fuel ≤ fuel') {x : Text}
    (h : scanNameRest fuel name c = .ok (x, a)) :
    scanNameRest fuel' name (c.followed tail) = .ok (x, a.followed tail) ∧ c.Leads a := by
  induction fuel generalizing fuel' name c with
  | zero =>
    -- There is fuel for every character, so the document ends here.
    cases h
    exact ⟨scanNameRest_of_nil _ _ (List.eq_nil_of_length_eq_zero (Nat.le_zero.mp enough)) closed,
      .refl _⟩
  | succ fuel ih =>
    obtain ⟨fuel', rfl⟩ : ∃ n, fuel' = n + 1 := ⟨fuel' - 1, by omega⟩
    have le := Nat.le_of_succ_le_succ le
    cases left : c.rest with
    | nil =>
      simp only [scanNameRest, left] at h
      cases h
      exact ⟨scanNameRest_of_nil _ _ left closed, .refl _⟩
    | cons d rest =>
      obtain ⟨left', _, moved⟩ := followed_of_cons tail left
      have short : (c.advance 1).rest.length ≤ fuel := by
        simp only [advance, left] at enough ⊢
        simpa using enough
      simp only [scanNameRest, left] at h
      simp only [scanNameRest, left', moved]
      split_ifs at h ⊢ with escape part
      · obtain ⟨⟨point, after⟩, escaped, h⟩ := bind_eq_ok_iff.mp h
        have step := Leads.advance_one left (by rw [escape]; decide)
        obtain ⟨read, leads⟩ := scanNameEscape_carries isNamePart (step.closed closed) escaped
        have before := step.trans leads
        have enough' : after.rest.length ≤ fuel := Nat.le_trans leads.length_le short
        obtain ⟨rest_read, rest_leads⟩ := ih (before.closed closed) enough' le h
        exact ⟨bind_eq_ok_iff.mpr ⟨_, read, rest_read⟩, before.trans rest_leads⟩
      · have step : c.Leads (c.advance 1) := Leads.advance_one left (by rintro rfl; cases part)
        obtain ⟨read, leads⟩ := ih (step.closed closed) short le h
        exact ⟨read, step.trans leads⟩
      · cases h
        exact ⟨rfl, .refl _⟩

theorem scanName_carries (closed : Sealed tail c.rest) (some : c.rest ≠ [])
    (plain : c.peek ≠ '\n') :
    Carries tail scanName c := by
  intro name after h
  obtain ⟨d, rest, left⟩ := List.exists_cons_of_ne_nil some
  obtain ⟨_, same, moved⟩ := followed_of_cons tail left
  have step : c.Leads (c.advance 1) := Leads.advance_one left (by simpa [peek, left] using plain)
  have longer : c.rest.length ≤ (c.followed tail).rest.length := by simp [followed]
  unfold scanName at h ⊢
  simp only [same, moved] at h ⊢
  split_ifs at h ⊢ with escape
  · obtain ⟨⟨point, stopped⟩, escaped, h⟩ := bind_eq_ok_iff.mp h
    obtain ⟨read, leads⟩ := scanNameEscape_carries isNameStart (step.closed closed) escaped
    have before := step.trans leads
    obtain ⟨rest_read, rest_leads⟩ :=
      scanNameRest_carries (before.closed closed) before.length_le longer h
    exact ⟨bind_eq_ok_iff.mpr ⟨_, read, rest_read⟩, before.trans rest_leads⟩
  · obtain ⟨read, leads⟩ := scanNameRest_carries (step.closed closed) step.length_le longer h
    exact ⟨read, step.trans leads⟩

theorem scanWord_carries (closed : Sealed tail c.rest) (some : c.rest ≠ [])
    (plain : c.peek ≠ '\n') :
    Carries tail scanWord c := by
  intro lexeme after h
  unfold scanWord at h ⊢
  obtain ⟨⟨name, stopped⟩, named, h⟩ := bind_eq_ok_iff.mp h
  obtain ⟨read, leads⟩ := scanName_carries closed some plain named
  rw [read, bind_eq_ok_iff]
  simp only at h
  split at h
  · rename_i word
    obtain ⟨rfl, rfl⟩ := Prod.mk.inj (Except.ok.inj h)
    exact ⟨⟨_, rfl, by simp only [word]; rfl⟩, leads⟩
  · rename_i other
    split at h
    · rename_i isPlain
      obtain ⟨rfl, rfl⟩ := Prod.mk.inj (Except.ok.inj h)
      refine ⟨⟨_, rfl, ?_⟩, leads⟩
      simp only
      have isPlain' : (c.followed tail).index + name.length =
          (stopped.followed tail).index := isPlain
      rw [if_pos isPlain']
      rfl
    · cases h

theorem not_mem_feed_longMarks : ∀ mark ∈ longMarks, '\n' ∉ mark := by decide

theorem markLength?_followed (closed : Sealed tail c.rest) :
    markLength? (c.followed tail).rest = markLength? c.rest := by
  have long : (longMarks.find? fun mark => mark.isPrefixOf (c.followed tail).rest) =
      longMarks.find? fun mark => mark.isPrefixOf c.rest := by
    have other := not_mem_feed_longMarks
    generalize longMarks = marks at other
    induction marks with
    | nil => rfl
    | cons mark marks ih =>
      have same := begins_followed _ closed (other mark List.mem_cons_self)
      rw [List.find?_cons, List.find?_cons, ih fun mark member => other mark (.tail _ member)]
      simp only [begins] at same
      rw [same]
  unfold markLength?
  rw [long]
  split
  · rfl
  · cases left : c.rest with
    | nil =>
      rw [left] at closed
      obtain ⟨more, rfl⟩ := List.head?_eq_some_iff.mp closed.head
      simp [followed, left, shortMarks]
    | cons d rest => simp [followed, left]

theorem exists_of_markLength? {n : Nat} (h : markLength? rest = some n) :
    ∃ mark more, rest = mark ++ more ∧ mark.length = n ∧ '\n' ∉ mark := by
  unfold markLength? at h
  split at h
  · rename_i mark found
    cases h
    have isMark := List.find?_some found
    obtain ⟨more, split⟩ := List.isPrefixOf_iff_prefix.mp isMark
    exact ⟨mark, more, split.symm, rfl,
      not_mem_feed_longMarks mark (List.mem_of_find?_eq_some found)⟩
  · cases rest with
    | nil => cases h
    | cons d rest =>
      simp only at h
      split at h
      · rename_i short
        cases h
        refine ⟨[d], rest, rfl, rfl, fun feed => ?_⟩
        rw [← List.mem_singleton.mp feed] at short
        exact absurd short (by decide)
      · cases h

theorem scanMark_carries (closed : Sealed tail c.rest) : Carries tail scanMark c := by
  intro lexeme after h
  unfold scanMark at h ⊢
  rw [markLength?_followed closed]
  split at h
  · rename_i n length
    cases h
    obtain ⟨mark, more, split, rfl, other⟩ := exists_of_markLength? length
    have le : mark.length ≤ c.rest.length := by simp [split]
    refine ⟨?_, mark, by simp [advance, split], rfl, fun last => other (List.mem_of_getLast? last)⟩
    rw [advance_followed le]
    simp [followed, List.take_append_of_le_length le]
  · cases h

theorem scanRadix_carries (base : Nat) (isMember : Char → Bool) (noDigit : Bool)
    (feed : isMember '\n' = false) (closed : Sealed tail c.rest) :
    Carries tail (scanRadix base isMember noDigit) c := by
  intro lexeme after h
  obtain ⟨taken, leads⟩ := takeClass_followed isMember closed feed
  rcases digits : takeClass isMember c with ⟨read, stopped⟩
  rw [digits] at taken leads
  have closed := leads.closed closed
  have letter := peek_followed (fun d => isNameStart d.toNat) closed (by decide) (by decide)
  have digit := peek_followed isDigit closed rfl rfl
  unfold scanRadix at h ⊢
  simp only [digits, taken, letter, digit] at h ⊢
  split at h
  · cases h
  · rename_i some
    split at h
    · cases h
    · rename_i stop
      cases h
      rw [if_neg some, if_neg stop]
      exact ⟨rfl, leads⟩

theorem scanLegacyOctal_carries (closed : Sealed tail c.rest) : Carries tail scanLegacyOctal c := by
  intro lexeme after h
  obtain ⟨taken, leads⟩ := takeClass_followed isOctalDigit closed rfl
  rcases digits : takeClass isOctalDigit c with ⟨read, stopped⟩
  rw [digits] at taken leads
  have closed := leads.closed closed
  have letter := peek_followed (fun d => isNameStart d.toNat) closed (by decide) (by decide)
  have digit := peek_followed isDigit closed rfl rfl
  unfold scanLegacyOctal at h ⊢
  simp only [digits, taken, letter, digit] at h ⊢
  split at h
  · cases h
  · rename_i stop
    cases h
    rw [if_neg stop]
    exact ⟨rfl, leads⟩

theorem isLegacyOctal_append (closed : Sealed tail rest) :
    isLegacyOctal (rest ++ tail) = isLegacyOctal rest := by
  induction rest with
  | nil =>
    obtain ⟨more, rfl⟩ := List.head?_eq_some_iff.mp closed.head
    rfl
  | cons d rest ih =>
    rw [List.cons_append, isLegacyOctal, isLegacyOctal]
    split
    · rfl
    · split
      · rename_i octal
        exact ih (closed.of_cons (by rintro rfl; cases octal))
      · rfl

theorem skipSign_followed (closed : Sealed tail c.rest) :
    skipSign (c.followed tail) = (skipSign c).followed tail ∧ c.Leads (skipSign c) := by
  have sign := peek_followed (fun d => decide (d = '+') || decide (d = '-')) closed rfl rfl
  unfold skipSign
  rw [sign]
  split
  · rename_i isSign
    obtain ⟨step, moved⟩ :=
      step_of_peek tail (fun d => decide (d = '+') || decide (d = '-')) isSign rfl rfl
    exact ⟨moved, step⟩
  · exact ⟨rfl, .refl c⟩

theorem scanExponent_carries (closed : Sealed tail c.rest) : Carries tail scanExponent c := by
  intro exponent after h
  have letter := peek_followed (fun d => decide (d = 'e') || decide (d = 'E')) closed rfl rfl
  unfold scanExponent at h ⊢
  rw [letter]
  split at h
  · rename_i isLetter
    obtain ⟨step, moved⟩ :=
      step_of_peek tail (fun d => decide (d = 'e') || decide (d = 'E')) isLetter rfl rfl
    have closed := step.closed closed
    have minus := peek_followed_eq '-' closed (by decide) (by decide)
    obtain ⟨signed, leads⟩ := skipSign_followed closed
    obtain ⟨taken, leads'⟩ := takeClass_followed isDigit (leads.closed closed) rfl
    rcases digits : takeClass isDigit (skipSign (c.advance 1)) with ⟨read, stopped⟩
    rw [digits] at taken leads'
    rw [if_pos isLetter]
    simp only [moved, minus, signed, taken, digits] at h ⊢
    split at h
    · cases h
    · rename_i some
      cases h
      rw [if_neg some]
      exact ⟨rfl, step.trans (leads.trans leads')⟩
  · rename_i other
    cases h
    rw [if_neg other]
    exact ⟨rfl, .refl _⟩

theorem takeFraction_followed (closed : Sealed tail c.rest) :
    takeFraction (c.followed tail) = ((takeFraction c).1, (takeFraction c).2.followed tail) ∧
      c.Leads (takeFraction c).2 := by
  have point := peek_followed_eq '.' closed (by decide) (by decide)
  unfold takeFraction
  by_cases isPoint : c.peek = '.'
  · obtain ⟨step, moved⟩ := step_of_peek_eq tail isPoint (by decide) (by decide)
    obtain ⟨taken, leads⟩ := takeClass_followed isDigit (step.closed closed) rfl
    rw [if_pos isPoint, if_pos (point.mpr isPoint), moved]
    exact ⟨taken, step.trans leads⟩
  · rw [if_neg isPoint, if_neg (mt point.mp isPoint)]
    exact ⟨rfl, .refl c⟩

theorem scanDecimal_carries (closed : Sealed tail c.rest) : Carries tail scanDecimal c := by
  intro lexeme after h
  obtain ⟨taken, leads⟩ := takeClass_followed isDigit closed rfl
  rcases whole : takeClass isDigit c with ⟨digits, stopped⟩
  rw [whole] at taken leads
  obtain ⟨taken', leads'⟩ := takeFraction_followed (leads.closed closed)
  rcases fraction : takeFraction stopped with ⟨digits', stopped'⟩
  rw [fraction] at taken' leads'
  have leads := leads.trans leads'
  unfold scanDecimal at h ⊢
  simp only [whole, fraction, taken, taken'] at h ⊢
  obtain ⟨⟨exponent, stopped''⟩, scanned, h⟩ := bind_eq_ok_iff.mp h
  obtain ⟨read, leads''⟩ := scanExponent_carries (leads.closed closed) scanned
  have leads := leads.trans leads''
  have letter := peek_followed (fun d => isNameStart d.toNat) (leads.closed closed) (by decide)
    (by decide)
  rw [read, bind_eq_ok_iff]
  simp only at h
  split at h
  · cases h
  · rename_i stop
    cases h
    refine ⟨⟨_, rfl, ?_⟩, leads⟩
    simp only
    rw [letter, if_neg stop]
    rfl

/-- A number from its zero on, where a mark of the base stands behind the zero. -/
theorem scanRadix_of_mark (base : Nat) {isMember : Char → Bool} (noDigit : Bool)
    (zero : c.peek = '0') (mark : Char → Bool) (feed : isMember '\n' = false)
    (markFeed : mark '\n' = false) (markNull : mark '\x00' = false)
    (marked : mark c.peekSecond = true) (closed : Sealed tail c.rest) :
    Carries tail (fun c => scanRadix base isMember noDigit (c.advance 2)) c := by
  intro lexeme after h
  obtain ⟨step, moved⟩ := step_of_peek_eq tail zero (by decide) (by decide)
  have isMark : mark (c.advance 1).peek = true := by
    simpa [peekSecond, peek, advance] using marked
  obtain ⟨step', moved'⟩ := step_of_peek tail mark isMark markNull markFeed
  have two : ∀ c : Cursor, c.advance 2 = (c.advance 1).advance 1 := by simp [advance]
  simp only [two, moved, moved'] at h ⊢
  obtain ⟨read, leads⟩ :=
    scanRadix_carries base isMember noDigit feed (step'.closed (step.closed closed)) h
  exact ⟨read, step.trans (step'.trans leads)⟩

theorem scanNumber_carries (closed : Sealed tail c.rest) : Carries tail scanNumber c := by
  intro lexeme after h
  have zero := peek_followed_eq '0' closed (by decide) (by decide)
  unfold scanNumber at h ⊢
  by_cases isZero : c.peek = '0'
  · obtain ⟨step, moved⟩ := step_of_peek_eq tail isZero (by decide) (by decide)
    have closed' := step.closed closed
    -- The mark of the base stands behind the zero.
    have base : ∀ is : Char → Bool, is '\n' = false → is '\x00' = false →
        is (c.followed tail).peekSecond = is c.peekSecond := by
      intro is feed null
      have same := peek_followed is closed' feed null
      rw [← moved] at same
      simpa [peekSecond, peek, advance] using same
    have octal : isLegacyOctal ((c.followed tail).rest.drop 1) = isLegacyOctal (c.rest.drop 1) := by
      have same := isLegacyOctal_append closed'
      rw [show (c.advance 1).rest ++ tail = ((c.advance 1).followed tail).rest from rfl, ← moved]
        at same
      exact same
    have x := base (fun d => decide (d = 'x') || decide (d = 'X')) rfl rfl
    have b := base (fun d => decide (d = 'b') || decide (d = 'B')) rfl rfl
    have o := base (fun d => decide (d = 'o') || decide (d = 'O')) rfl rfl
    simp only [ne_eq, zero, isZero, not_true_eq_false, if_false, x, b, o,
      base isOctalDigit rfl rfl, octal] at h ⊢
    split_ifs at h ⊢ with hex binary octal legacy
    · exact scanRadix_of_mark _ _ isZero (fun d => decide (d = 'x') || decide (d = 'X')) rfl rfl rfl
        hex closed h
    · exact scanRadix_of_mark _ _ isZero (fun d => decide (d = 'b') || decide (d = 'B')) rfl rfl rfl
        binary closed h
    · exact scanRadix_of_mark _ _ isZero (fun d => decide (d = 'o') || decide (d = 'O')) rfl rfl rfl
        octal closed h
    · obtain ⟨read, leads⟩ := scanLegacyOctal_carries closed' h
      rw [moved]
      exact ⟨read, step.trans leads⟩
    · exact scanDecimal_carries closed h
  · rw [if_pos isZero] at h
    rw [if_pos (mt zero.mp isZero)]
    exact scanDecimal_carries closed h

variable (tail) in
theorem skipLineEnd_of_two {d d' : Char} (left : c.rest = d :: d' :: rest) :
    skipLineEnd (c.followed tail) = (skipLineEnd c).followed tail ∧ c.Reaches (skipLineEnd c) := by
  have same : (c.followed tail).begins ['\r', '\n'] = c.begins ['\r', '\n'] := by
    simp [begins, followed, left, List.isPrefixOf]
  unfold skipLineEnd
  rw [same]
  split
  · exact ⟨by simp [breakLine, followed, left], [d, d'], by simp [breakLine, left], rfl⟩
  · exact ⟨by simp [breakLine, followed, left], [d], by simp [breakLine, left], rfl⟩

theorem skipLineEnd_of_one {d : Char} (left : c.rest = [d]) : skipLineEnd c = c.breakLine 1 := by
  have single : c.begins ['\r', '\n'] = false := by simp [begins, left, List.isPrefixOf]
  simp [skipLineEnd, single]

variable (tail) in
theorem skipLineEnd_followed (isEnd : isLineEnd c.peek = true) (some : (skipLineEnd c).rest ≠ []) :
    skipLineEnd (c.followed tail) = (skipLineEnd c).followed tail ∧ c.Reaches (skipLineEnd c) := by
  obtain ⟨d, rest, left, _⟩ := exists_rest_of_peek isEnd rfl
  cases rest with
  -- A carriage return at the very end would be joined by the line feed that follows.
  | nil => simp [skipLineEnd_of_one left, breakLine, left] at some
  | cons d' rest => exact skipLineEnd_of_two tail left

theorem scanOctalEscape_followed (first : Char) (closed : Sealed tail c.rest) :
    scanOctalEscape first (c.followed tail) =
        ((scanOctalEscape first c).1, (scanOctalEscape first c).2.1,
          (scanOctalEscape first c).2.2.followed tail) ∧
      c.Leads (scanOctalEscape first c).2.2 := by
  have digit := peek_followed isOctalDigit closed rfl rfl
  unfold scanOctalEscape
  simp only [digit]
  split
  · rename_i isDigit
    obtain ⟨d, rest, left, _⟩ := exists_rest_of_peek isDigit rfl
    obtain ⟨step, moved⟩ := step_of_peek tail isOctalDigit isDigit rfl rfl
    have same : (c.followed tail).peek = c.peek := by simp [peek, followed, left]
    have digit' := peek_followed isOctalDigit (step.closed closed) rfl rfl
    simp only [moved, same, digit']
    split
    · rename_i isDigit'
      rw [Bool.and_eq_true] at isDigit'
      obtain ⟨d, rest, left, _⟩ := exists_rest_of_peek isDigit'.2 rfl
      obtain ⟨step', moved'⟩ := step_of_peek tail isOctalDigit isDigit'.2 rfl rfl
      have same : ((c.advance 1).followed tail).peek = (c.advance 1).peek := by
        simp [peek, followed, left]
      rw [moved', same]
      exact ⟨rfl, step.trans step'⟩
    · exact ⟨rfl, step⟩
  · exact ⟨rfl, .refl c⟩

theorem scanStringEscape_carries (closed : Sealed tail c.rest) {added : Text} {octal : Bool}
    (h : scanStringEscape c = .ok (added, octal, a)) (some : a.rest ≠ []) :
    scanStringEscape (c.followed tail) = .ok (added, octal, a.followed tail) ∧ c.Reaches a := by
  cases left : c.rest with
  | nil =>
    have null : c.peek = '\x00' := by simp [peek, left]
    rw [scanStringEscape, null] at h
    cases h
    simp [advance, left] at some
  | cons d rest =>
    obtain ⟨_, same, moved⟩ := followed_of_cons tail left
    unfold scanStringEscape at h ⊢
    simp only [same, moved] at h ⊢
    by_cases isEnd : isLineEnd c.peek = true
    · rw [if_pos isEnd] at h ⊢
      cases h
      obtain ⟨same, reaches⟩ := skipLineEnd_followed tail isEnd some
      exact ⟨by rw [same], reaches⟩
    · have step := Leads.advance_one left (ne_feed_of_peek left isEnd)
      have closed := step.closed closed
      have brace := peek_followed_eq '{' closed (by decide) (by decide)
      rw [if_neg isEnd] at h ⊢
      by_cases unicode : c.peek = 'u'
      · simp only [unicode, if_true, brace] at h ⊢
        split_ifs at h ⊢ with isBrace
        · obtain ⟨⟨point, after⟩, escaped, h⟩ := bind_eq_ok_iff.mp h
          obtain ⟨read, leads⟩ := scanBracedEscape_of_brace closed isBrace escaped
          cases h
          exact ⟨bind_eq_ok_iff.mpr ⟨_, read, rfl⟩, (step.trans leads).reaches⟩
        · obtain ⟨value, stopped, digits, digits', leads⟩ | ⟨stopped, digits, _⟩ :=
            scanHex_cases 4 closed
          · simp only [digits, digits'] at h ⊢
            cases h
            exact ⟨rfl, (step.trans leads).reaches⟩
          · simp only [digits] at h
            cases h
      rw [if_neg unicode] at h ⊢
      by_cases hex : c.peek = 'x'
      · rw [if_pos hex] at h ⊢
        obtain ⟨value, stopped, digits, digits', leads⟩ | ⟨stopped, digits, _⟩ :=
          scanHex_cases 2 closed
        · simp only [digits, digits'] at h ⊢
          cases h
          exact ⟨rfl, (step.trans leads).reaches⟩
        · simp only [digits] at h
          cases h
      rw [if_neg hex] at h ⊢
      cases simple : simpleEscape? c.peek with
      | some point =>
        simp only [simple] at h ⊢
        cases h
        exact ⟨rfl, step.reaches⟩
      | none =>
        simp only [simple] at h ⊢
        split_ifs at h ⊢ with high isDigit
        · obtain ⟨read, leads⟩ := scanOctalEscape_followed c.peek closed
          cases h
          rw [read]
          exact ⟨rfl, (step.trans leads).reaches⟩
        · cases h
          exact ⟨rfl, step.reaches⟩

theorem ne_nil_of_scanStringRest {start fuel : Nat} {quote : Char} {value : Text} {octal : Bool}
    {lexeme : Lexeme} (h : scanStringRest start quote fuel value octal c = .ok (lexeme, a)) :
    c.rest ≠ [] := by
  intro left
  cases fuel with
  | zero => cases h
  | succ fuel =>
    simp only [scanStringRest, left] at h
    cases h

theorem scanStringRest_carries {start fuel fuel' : Nat} {quote : Char} {value : Text} {octal : Bool}
    {lexeme : Lexeme} (plain : quote ≠ '\n') (closed : Sealed tail c.rest) (le : fuel ≤ fuel')
    (h : scanStringRest start quote fuel value octal c = .ok (lexeme, a)) :
    scanStringRest start quote fuel' value octal (c.followed tail) = .ok (lexeme, a.followed tail) ∧
      c.Leads a ∧ c.index < a.index := by
  induction fuel generalizing fuel' value octal c with
  | zero => cases h
  | succ fuel ih =>
    obtain ⟨fuel', rfl⟩ : ∃ n, fuel' = n + 1 := ⟨fuel' - 1, by omega⟩
    have le := Nat.le_of_succ_le_succ le
    obtain ⟨d, rest, left⟩ := List.exists_cons_of_ne_nil (ne_nil_of_scanStringRest h)
    obtain ⟨left', _, moved⟩ := followed_of_cons tail left
    simp only [scanStringRest, left] at h
    simp only [scanStringRest, left', moved]
    split_ifs at h ⊢ with isQuote escape isEnd
    · cases h
      exact ⟨rfl, .advance_one left (isQuote ▸ plain), by simp [advance]⟩
    · obtain ⟨⟨added, isOctal, after⟩, escaped, h⟩ := bind_eq_ok_iff.mp h
      have step : c.Leads (c.advance 1) := Leads.advance_one left (by rw [escape]; decide)
      have some := ne_nil_of_scanStringRest h
      obtain ⟨read, reaches⟩ := scanStringEscape_carries (step.closed closed) escaped some
      have reaches := step.reaches.trans reaches
      obtain ⟨rest_read, leads, later⟩ := ih (reaches.closed closed some) le h
      refine ⟨bind_eq_ok_iff.mpr ⟨_, read, rest_read⟩, reaches.leads leads (by omega), ?_⟩
      obtain ⟨_, _, index⟩ := reaches
      omega
    · have step : c.Leads (c.advance 1) := Leads.advance_one left (by rintro rfl; exact isEnd rfl)
      obtain ⟨read, leads, later⟩ := ih (step.closed closed) le h
      exact ⟨read, step.trans leads, by simp only [advance] at later; omega⟩

theorem scanString_carries (closed : Sealed tail c.rest) (isQuote : c.peek = '\'' ∨ c.peek = '"') :
    Carries tail scanString c := by
  intro lexeme after h
  have plain : c.peek ≠ '\n' := by
    rcases isQuote with same | same
    all_goals
      rw [same]
      decide
  have null : c.peek ≠ '\x00' := by
    rcases isQuote with same | same
    all_goals
      rw [same]
      decide
  obtain ⟨step, moved⟩ := step_of_peek_eq tail rfl null plain
  have same : (c.followed tail).peek = c.peek := (peek_followed_eq c.peek closed plain null).mpr rfl
  have longer : c.rest.length + 1 ≤ (c.followed tail).rest.length + 1 := by simp [followed]
  unfold scanString at h ⊢
  obtain ⟨read, leads, _⟩ := scanStringRest_carries plain (step.closed closed) longer h
  rw [moved, same]
  exact ⟨read, step.trans leads⟩

theorem scanTemplateEscape_carries (closed : Sealed tail c.rest) {added : Text}
    (h : scanTemplateEscape c = .ok (added, a)) (some : a.rest ≠ []) :
    scanTemplateEscape (c.followed tail) = .ok (added, a.followed tail) ∧ c.Reaches a := by
  cases left : c.rest with
  | nil =>
    have null : c.peek = '\x00' := by simp [peek, left]
    rw [scanTemplateEscape, null] at h
    cases h
    simp [advance, left] at some
  | cons d rest =>
    obtain ⟨_, same, moved⟩ := followed_of_cons tail left
    unfold scanTemplateEscape at h ⊢
    simp only [same, moved] at h ⊢
    by_cases isEnd : isLineEnd c.peek = true
    · rw [if_pos isEnd] at h ⊢
      cases h
      obtain ⟨same, reaches⟩ := skipLineEnd_followed tail isEnd some
      exact ⟨by rw [same], reaches⟩
    · have step := Leads.advance_one left (ne_feed_of_peek left isEnd)
      have closed := step.closed closed
      have brace := peek_followed_eq '{' closed (by decide) (by decide)
      have digit := peek_followed isDigit closed rfl rfl
      rw [if_neg isEnd] at h ⊢
      by_cases unicode : c.peek = 'u'
      · simp only [unicode, if_true, brace] at h ⊢
        split_ifs at h ⊢ with isBrace
        · obtain ⟨⟨point, after⟩, escaped, h⟩ := bind_eq_ok_iff.mp h
          obtain ⟨read, leads⟩ := scanBracedEscape_of_brace closed isBrace escaped
          cases h
          exact ⟨bind_eq_ok_iff.mpr ⟨_, read, rfl⟩, (step.trans leads).reaches⟩
        · obtain ⟨value, stopped, digits, digits', leads⟩ | ⟨stopped, digits, digits'⟩ :=
            scanHex_cases 4 closed
          · simp only [digits, digits'] at h ⊢
            cases h
            exact ⟨rfl, (step.trans leads).reaches⟩
          · simp only [digits, digits'] at h ⊢
            cases h
            exact ⟨rfl, step.reaches⟩
      rw [if_neg unicode] at h ⊢
      by_cases hex : c.peek = 'x'
      · rw [if_pos hex] at h ⊢
        obtain ⟨value, stopped, digits, digits', leads⟩ | ⟨stopped, digits, _⟩ :=
          scanHex_cases 2 closed
        · simp only [digits, digits'] at h ⊢
          cases h
          exact ⟨rfl, (step.trans leads).reaches⟩
        · simp only [digits] at h
          cases h
      rw [if_neg hex] at h ⊢
      cases simple : simpleEscape? c.peek with
      | some point =>
        simp only [simple] at h ⊢
        cases h
        exact ⟨rfl, step.reaches⟩
      | none =>
        simp only [simple, digit] at h ⊢
        split_ifs at h ⊢ with zero more octal
        all_goals
          cases h
          exact ⟨rfl, step.reaches⟩

theorem ne_nil_of_scanTemplateRest {fuel : Nat} {cooked : Text} {x : Text × Bool × Cursor}
    (h : scanTemplateRest fuel cooked c = .ok x) : c.rest ≠ [] := by
  intro left
  cases fuel with
  | zero => cases h
  | succ fuel =>
    simp only [scanTemplateRest, left] at h
    cases h

theorem scanTemplateRest_carries {fuel fuel' : Nat} {cooked cooked' : Text} {isTail : Bool}
    (closed : Sealed tail c.rest) (le : fuel ≤ fuel')
    (h : scanTemplateRest fuel cooked c = .ok (cooked', isTail, a)) :
    scanTemplateRest fuel' cooked (c.followed tail) = .ok (cooked', isTail, a.followed tail) ∧
      c.Leads a ∧ c.index < a.index := by
  induction fuel generalizing fuel' cooked c with
  | zero => cases h
  | succ fuel ih =>
    obtain ⟨fuel', rfl⟩ : ∃ n, fuel' = n + 1 := ⟨fuel' - 1, by omega⟩
    have le := Nat.le_of_succ_le_succ le
    obtain ⟨d, rest, left⟩ := List.exists_cons_of_ne_nil (ne_nil_of_scanTemplateRest h)
    obtain ⟨left', _, moved⟩ := followed_of_cons tail left
    have hole : (c.followed tail).begins ['$', '{'] = c.begins ['$', '{'] :=
      begins_followed _ closed (by decide)
    simp only [scanTemplateRest, left] at h
    simp only [scanTemplateRest, left', moved, hole]
    split_ifs at h ⊢ with isTick isHole escape isEnd
    · cases h
      exact ⟨rfl, .advance_one left (by rw [isTick]; decide), by simp [advance]⟩
    · cases h
      obtain ⟨more, split⟩ := List.isPrefixOf_iff_prefix.mp isHole
      rw [advance_followed (by simp [← split])]
      exact ⟨rfl, ⟨['$', '{'], by simp [advance, ← split], rfl, by decide⟩, by simp [advance]⟩
    · obtain ⟨⟨added, after⟩, escaped, h⟩ := bind_eq_ok_iff.mp h
      have step : c.Leads (c.advance 1) := Leads.advance_one left (by rw [escape]; decide)
      have some := ne_nil_of_scanTemplateRest h
      obtain ⟨read, reaches⟩ := scanTemplateEscape_carries (step.closed closed) escaped some
      have reaches := step.reaches.trans reaches
      obtain ⟨rest_read, leads, later⟩ := ih (reaches.closed closed some) le h
      refine ⟨bind_eq_ok_iff.mpr ⟨_, read, rest_read⟩, reaches.leads leads (by omega), ?_⟩
      obtain ⟨_, _, index⟩ := reaches
      omega
    · have some := ne_nil_of_scanTemplateRest h
      have isEnd' : isLineEnd c.peek = true := by simpa [peek, left] using isEnd
      obtain ⟨same, reaches⟩ := skipLineEnd_followed tail isEnd' some
      obtain ⟨read, leads, later⟩ := ih (reaches.closed closed some) le h
      rw [same]
      refine ⟨read, reaches.leads leads (by omega), ?_⟩
      obtain ⟨_, _, index⟩ := reaches
      omega
    · have step : c.Leads (c.advance 1) := Leads.advance_one left (by rintro rfl; exact isEnd rfl)
      obtain ⟨read, leads, later⟩ := ih (step.closed closed) le h
      exact ⟨read, step.trans leads, by simp only [advance] at later; omega⟩

theorem scanTemplate_carries (closed : Sealed tail c.rest) (opens : c.peek = '`' ∨ c.peek = '}') :
    Carries tail scanTemplate c := by
  intro lexeme after h
  have plain : c.peek ≠ '\n' := by
    rcases opens with same | same
    all_goals
      rw [same]
      decide
  have null : c.peek ≠ '\x00' := by
    rcases opens with same | same
    all_goals
      rw [same]
      decide
  obtain ⟨step, moved⟩ := step_of_peek_eq tail rfl null plain
  have same : (c.followed tail).peek = c.peek := (peek_followed_eq c.peek closed plain null).mpr rfl
  have longer : c.rest.length + 1 ≤ (c.followed tail).rest.length + 1 := by simp [followed]
  unfold scanTemplate at h ⊢
  obtain ⟨⟨cooked, isTail, stopped⟩, scanned, h⟩ := bind_eq_ok_iff.mp h
  obtain ⟨read, leads, _⟩ := scanTemplateRest_carries (step.closed closed) longer scanned
  have leads := step.trans leads
  cases h
  rw [moved, read, same]
  refine ⟨?_, leads⟩
  -- The characters between the ends of the part lie in the document.
  obtain ⟨d, rest, left⟩ := List.exists_cons_of_ne_nil (l := c.rest) (by
    intro none
    simp [peek, none] at null)
  have within : after.index - c.index - (if isTail then 2 else 3) ≤ rest.length := by
    obtain ⟨characters, split, index, _⟩ := leads
    have := congrArg List.length split
    simp only [left, List.length_cons, List.length_append] at this
    split <;> omega
  have inside : ((c.followed tail).rest.drop 1).take
      (after.index - c.index - (if isTail then 2 else 3)) =
        (c.rest.drop 1).take (after.index - c.index - (if isTail then 2 else 3)) := by
    simp [followed, left, List.take_append_of_le_length within]
  change Except.ok _ = Except.ok _
  simp only [followed] at inside ⊢
  rw [inside]

variable (tail) in
theorem scanPatternBody_followed {line lineStart size index n : Nat} {escaped inSet : Bool}
    (h : scanPatternBody line lineStart escaped inSet size index rest = .ok (n, a)) :
    scanPatternBody line lineStart escaped inSet size index (rest ++ tail) =
        .ok (n, a.followed tail) ∧
      Cursor.Leads ⟨rest, index, line, lineStart⟩ a ∧ n + index + 1 = size + a.index := by
  induction rest generalizing escaped inSet size index with
  | nil => cases h
  | cons d rest ih =>
    -- One more character of the body is read.
    have next : ∀ {escaped inSet : Bool}, d ≠ '\n' →
        scanPatternBody line lineStart escaped inSet (size + 1) (index + 1) rest = .ok (n, a) →
        scanPatternBody line lineStart escaped inSet (size + 1) (index + 1) (rest ++ tail) =
            .ok (n, a.followed tail) ∧
          Cursor.Leads ⟨d :: rest, index, line, lineStart⟩ a ∧ n + index + 1 = size + a.index := by
      intro escaped inSet other h
      obtain ⟨read, leads, length⟩ := ih h
      exact ⟨read, (Leads.advance_one rfl other).trans leads, by omega⟩
    rw [List.cons_append]
    unfold scanPatternBody at h ⊢
    by_cases isEnd : isLineEnd d = true
    · rw [if_pos isEnd] at h
      cases h
    · have other : d ≠ '\n' := by
        rintro rfl
        exact isEnd rfl
      rw [if_neg isEnd] at h ⊢
      split_ifs at h ⊢
      · exact next other h
      · exact next other h
      · exact next other h
      · cases h
        exact ⟨rfl, .advance_one rfl other, by simp only; omega⟩
      · exact next other h

theorem scanFlags_carries (closed : Sealed tail c.rest) : Carries tail scanFlags c := by
  intro flags after h
  obtain ⟨taken, leads⟩ :=
    takeClass_followed (fun d => isNamePart d.toNat && decide (d ≠ '\\')) closed (by decide)
  rcases members : takeClass (fun d => isNamePart d.toNat && decide (d ≠ '\\')) c
    with ⟨read, stopped⟩
  rw [members] at taken leads
  have escape := peek_followed_eq '\\' (leads.closed closed) (by decide) (by decide)
  unfold scanFlags at h ⊢
  simp only [members, taken, ne_eq, escape] at h ⊢
  split at h
  · rename_i plain
    cases h
    rw [if_pos plain]
    exact ⟨rfl, leads⟩
  · split at h
    · split at h
      · cases h
      · cases h
    · cases h

variable (tail) in
/-- A token that is read in the document is the same in the longer one. -/
theorem token_followed (leads : c.Leads a) (lexeme : Lexeme) :
    (c.followed tail).token (a.followed tail) lexeme = c.token a lexeme := by
  obtain ⟨read, left, index, _⟩ := leads
  have within : a.index - c.index ≤ c.rest.length := by
    rw [left, List.length_append]
    omega
  simp [token, followed, List.take_append_of_le_length within]

theorem scanPattern_carries (closed : Sealed tail c.rest) (slash : c.peek = '/') :
    Carries tail scanPattern c := by
  intro token after h
  obtain ⟨step, moved⟩ := step_of_peek_eq tail slash (by decide) (by decide)
  unfold scanPattern at h ⊢
  obtain ⟨⟨size, stopped⟩, scanned, h⟩ := bind_eq_ok_iff.mp h
  obtain ⟨read, leads, length⟩ := scanPatternBody_followed tail scanned
  have leads : c.Leads stopped := step.trans leads
  obtain ⟨⟨flags, stopped'⟩, flagged, h⟩ := bind_eq_ok_iff.mp h
  obtain ⟨read', leads'⟩ := scanFlags_carries (leads.closed closed) flagged
  have whole := leads.trans leads'
  have rest : (c.followed tail).rest.drop 1 = c.rest.drop 1 ++ tail := congrArg Cursor.rest moved
  have within : size ≤ (c.rest.drop 1).length := by
    obtain ⟨characters, left, index, _⟩ := leads
    have total := congrArg List.length left
    rw [List.length_append] at total
    rw [List.length_drop]
    omega
  simp only at h
  split at h
  · rename_i accepted
    cases h
    refine ⟨?_, whole⟩
    have body : (c.rest.drop 1 ++ tail).take size = (c.rest.drop 1).take size :=
      List.take_append_of_le_length within
    rw [rest]
    refine bind_eq_ok_iff.mpr ⟨(size, stopped.followed tail), read, ?_⟩
    refine bind_eq_ok_iff.mpr ⟨(flags, after.followed tail), read', ?_⟩
    simp only [body]
    rw [if_pos accepted, token_followed tail whole]
    rfl
  · cases h

theorem token_of_scanPattern {token : Token} (h : scanPattern c = .ok (token, a)) :
    token.isEnd = false ∧ token.line = a.line := by
  obtain ⟨⟨size, stopped⟩, _, h⟩ := bind_eq_ok_iff.mp h
  obtain ⟨⟨flags, stopped'⟩, _, h⟩ := bind_eq_ok_iff.mp h
  simp only at h
  split at h
  · cases h
    exact ⟨rfl, rfl⟩
  · cases h

variable {statement : List Char} {start : Nat} {b : Cursor}

/-- Two positions after blanks and comments.  Either the second is the first with what follows it,
and a new line is still to come or has begun since `start`; or the first is at the end and the
second at the statement that follows, on a new line. -/
def Abreast (tail statement : List Char) (start : Nat) (a b : Cursor) : Prop :=
  (b = a.followed tail ∧ start ≤ a.line ∧ (Sealed tail a.rest ∨ a.rest = [] ∧ start < a.line)) ∨
    (a.rest = [] ∧ b.rest = statement ∧ start < b.line)

theorem line_skipLineEnd (c : Cursor) : (skipLineEnd c).line = c.line + 1 := by
  unfold skipLineEnd
  split
  · rfl
  · rfl

/-- What is put behind a document: a word, or a line feed and a word. -/
structure Follows (tail statement : List Char) : Prop where
  feed : tail = statement ∨ tail = '\n' :: statement
  word : statement.head? = some 'e'

theorem skipLineEnd_abreast (follows : Follows tail statement) (isEnd : isLineEnd c.peek = true)
    (le : start ≤ c.line) (closed : Sealed tail c.rest) :
    Abreast tail statement start (skipLineEnd c) (skipLineEnd (c.followed tail)) ∧
      (skipLineEnd c).rest.length < c.rest.length := by
  obtain ⟨d, rest, left, _⟩ := exists_rest_of_peek isEnd rfl
  have later : start < (skipLineEnd c).line := by
    rw [line_skipLineEnd]
    omega
  cases rest with
  | nil =>
    have none : (skipLineEnd c).rest = [] := by simp [skipLineEnd_of_one left, breakLine, left]
    refine ⟨?_, by simp [none, left]⟩
    by_cases both : (c.followed tail).begins ['\r', '\n'] = true
    · -- The line feed that follows belongs to the same line end.
      obtain ⟨more, split⟩ := List.isPrefixOf_iff_prefix.mp both
      simp only [followed, left, List.cons_append, List.nil_append, List.cons.injEq] at split
      have same : skipLineEnd (c.followed tail) = (c.followed tail).breakLine 2 := by
        rw [skipLineEnd, if_pos both]
      refine .inr ⟨none, ?_, by rw [line_skipLineEnd]; exact Nat.lt_succ_of_le le⟩
      rw [same]
      rcases follows.feed with same' | same'
      · have word := follows.word
        rw [← same', ← split.2] at word
        cases word
      · simp [breakLine, followed, left, same']
    · refine .inl ⟨?_, by omega, .inr ⟨none, later⟩⟩
      rw [skipLineEnd, if_neg both, skipLineEnd_of_one left]
      simp [breakLine, followed, left]
  | cons d' rest =>
    obtain ⟨same, reaches⟩ := skipLineEnd_of_two tail left
    refine ⟨.inl ⟨same, by omega, ?_⟩, ?_⟩
    · by_cases none : (skipLineEnd c).rest = []
      · exact .inr ⟨none, later⟩
      · exact .inl (reaches.closed closed none)
    · unfold skipLineEnd
      split
      · simp only [breakLine, left, List.length_drop, List.length_cons]
        omega
      · simp only [breakLine, left, List.length_drop, List.length_cons]
        omega

theorem skipLineComment_abreast (follows : Follows tail statement) {line : Nat}
    (lineStart index : Nat) (le : start ≤ line) (closed : Sealed tail rest) :
    Abreast tail statement start (skipLineComment line lineStart index rest)
        (skipLineComment line lineStart index (rest ++ tail)) ∧
      (skipLineComment line lineStart index rest).rest.length ≤ rest.length := by
  induction rest generalizing index with
  | nil =>
    refine ⟨.inr ⟨rfl, ?_⟩, by simp [skipLineComment]⟩
    have feed : tail = '\n' :: statement := by
      rcases follows.feed with same | same
      · have head := closed.head
        rw [same, follows.word] at head
        cases head
      · exact same
    obtain ⟨more, rfl⟩ := List.head?_eq_some_iff.mp follows.word
    simp [feed, skipLineComment, isLineEnd, skipLineEnd, begins, breakLine, List.isPrefixOf]
    omega
  | cons d rest ih =>
    rw [List.cons_append, skipLineComment, skipLineComment]
    split
    · rename_i isEnd
      let here : Cursor := ⟨d :: rest, index, line, lineStart⟩
      have isEnd' : isLineEnd here.peek = true := isEnd
      obtain ⟨abreast, shorter⟩ := skipLineEnd_abreast follows isEnd' le closed
      exact ⟨abreast, Nat.le_of_lt shorter⟩
    · rename_i notEnd
      have closed := closed.of_cons (by rintro rfl; exact notEnd rfl)
      obtain ⟨abreast, shorter⟩ := ih (index + 1) closed
      exact ⟨abreast, Nat.le_succ_of_le shorter⟩

theorem ne_nil_of_skipBlockComment {line lineStart index : Nat}
    (h : skipBlockComment line lineStart index rest = .ok a) : rest ≠ [] := by
  rintro rfl
  cases h

variable (tail) in
theorem skipBlockComment_carries {line lineStart index : Nat}
    (h : skipBlockComment line lineStart index rest = .ok a) :
    skipBlockComment line lineStart index (rest ++ tail) = .ok (a.followed tail) ∧
      Cursor.Leads ⟨rest, index, line, lineStart⟩ a ∧ index < a.index ∧ line ≤ a.line := by
  fun_induction skipBlockComment line lineStart index rest with
  | case1 => cases h
  | case2 line lineStart index rest =>
    cases h
    exact ⟨rfl, ⟨['*', '/'], rfl, rfl, by decide⟩, by simp, Nat.le_refl _⟩
  | case3 lineStart line index rest ih =>
    obtain ⟨read, leads, later, below⟩ := ih h
    have reaches : Cursor.Reaches ⟨'\r' :: '\n' :: rest, index, line, lineStart⟩
        ⟨rest, index + 2, line + 1, index + 2⟩ := ⟨['\r', '\n'], rfl, rfl⟩
    exact ⟨read, reaches.leads leads (Nat.ne_of_gt later), by omega, by omega⟩
  | case4 line lineStart index d rest notClose notReturn isEnd ih =>
    obtain ⟨read, leads, later, below⟩ := ih h
    obtain ⟨d', rest, rfl⟩ := List.exists_cons_of_ne_nil (ne_nil_of_skipBlockComment h)
    have reaches : Cursor.Reaches ⟨d :: d' :: rest, index, line, lineStart⟩
        ⟨d' :: rest, index + 1, line + 1, index + 1⟩ := ⟨[d], rfl, rfl⟩
    refine ⟨?_, reaches.leads leads (Nat.ne_of_gt later), by omega, by omega⟩
    rw [List.cons_append, List.cons_append, skipBlockComment, if_pos isEnd]
    · exact read
    · rintro more rfl same
      cases same
      exact notClose rest rfl rfl
    · rintro more rfl same
      cases same
      exact notReturn rest rfl rfl
  | case5 line lineStart index d rest notClose notReturn notEnd ih =>
    obtain ⟨read, leads, later, below⟩ := ih h
    obtain ⟨d', rest, rfl⟩ := List.exists_cons_of_ne_nil (ne_nil_of_skipBlockComment h)
    have reaches : Cursor.Reaches ⟨d :: d' :: rest, index, line, lineStart⟩
        ⟨d' :: rest, index + 1, line, lineStart⟩ := ⟨[d], rfl, rfl⟩
    refine ⟨?_, reaches.leads leads (Nat.ne_of_gt later), by omega, below⟩
    rw [List.cons_append, List.cons_append, skipBlockComment, if_neg notEnd]
    · exact read
    · rintro more rfl same
      cases same
      exact notClose rest rfl rfl
    · rintro more rfl same
      cases same
      exact notReturn rest rfl rfl

/-- Nothing is skipped before a word. -/
theorem skipTriviaFrom_of_word {isModule isLineStart : Bool} {fuel : Nat}
    (word : c.rest.head? = some 'e') :
    skipTriviaFrom isModule (fuel + 1) isLineStart c = .ok c := by
  obtain ⟨rest, left⟩ := List.head?_eq_some_iff.mp word
  simp [skipTriviaFrom, begins, peek, left, List.isPrefixOf, isBlank, isLineEnd]

/-- Where the longer document is once blanks and comments are skipped, given where the document
is. -/
def Arrives (tail statement : List Char) (start : Nat) (a b : Cursor) : Prop :=
  (a.rest ≠ [] ∧ b = a.followed tail ∧ Sealed tail a.rest) ∨
    (a.rest = [] ∧ b.rest = statement ∧ start < b.line)

theorem skipTriviaFrom_of_nil {isModule isLineStart : Bool} {fuel : Nat} (none : c.rest = []) :
    skipTriviaFrom isModule fuel isLineStart c = .ok c := by
  cases fuel with
  | zero => rfl
  | succ fuel => simp [skipTriviaFrom, begins, peek, none, isBlank, isLineEnd]

/-- At the end of the document only the line feed that follows is skipped. -/
theorem skipTriviaFrom_of_end (follows : Follows tail statement) {isModule isLineStart : Bool}
    {fuel : Nat} (abreast : Abreast tail statement start c b) (none : c.rest = []) :
    ∃ b', skipTriviaFrom isModule (fuel + 2) isLineStart b = .ok b' ∧
      b'.rest = statement ∧ start < b'.line := by
  rcases abreast with ⟨rfl, le, closed⟩ | ⟨_, here, later⟩
  · have here : (c.followed tail).rest = tail := by simp [followed, none]
    rcases follows.feed with same | same
    · have later : start < c.line := by
        rcases closed with closed | ⟨_, later⟩
        · rw [none] at closed
          have head := closed.head
          rw [same, follows.word] at head
          cases head
        · exact later
      have word : (c.followed tail).rest.head? = some 'e' := by rw [here, same, follows.word]
      exact ⟨_, skipTriviaFrom_of_word word, by rw [here, same], later⟩
    · obtain ⟨more, rfl⟩ := List.head?_eq_some_iff.mp follows.word
      have left : (c.followed tail).rest = '\n' :: 'e' :: more := by rw [here, same]
      have past : skipLineEnd (c.followed tail) =
          ⟨'e' :: more, c.index + 1, c.line + 1, c.index + 1⟩ := by
        simp [skipLineEnd, begins, breakLine, followed, none, same]
      refine ⟨skipLineEnd (c.followed tail),
        ?_, by rw [past], by rw [past]; exact Nat.lt_succ_of_le le⟩
      have word : (skipLineEnd (c.followed tail)).rest.head? = some 'e' := by simp [past]
      rw [skipTriviaFrom]
      simp only [begins, left, List.isPrefixOf, peek]
      simp [isBlank, isLineEnd, skipTriviaFrom_of_word word]
  · have word : b.rest.head? = some 'e' := by rw [here, follows.word]
    exact ⟨b, skipTriviaFrom_of_word word, here, later⟩

variable (tail) in
theorem advance_of_begins {text : List Char} (h : c.begins text = true) (other : '\n' ∉ text) :
    c.Leads (c.advance text.length) ∧
      (c.followed tail).rest.drop text.length = c.rest.drop text.length ++ tail ∧
      c.rest.length = text.length + (c.rest.drop text.length).length := by
  obtain ⟨more, split⟩ := List.isPrefixOf_iff_prefix.mp h
  refine ⟨⟨text, ?_, rfl, fun last => other (List.mem_of_getLast? last)⟩, ?_, ?_⟩
  · simp [advance, ← split]
  · simp [followed, ← split]
  · simp [← split]

/-- A line comment that a mark begins. -/
theorem lineComment_abreast (follows : Follows tail statement) {text : List Char}
    (h : c.begins text = true) (other : '\n' ∉ text) (low : start ≤ c.line)
    (closed : Sealed tail c.rest) :
    Abreast tail statement start
        (skipLineComment c.line c.lineStart (c.index + text.length) (c.rest.drop text.length))
        (skipLineComment c.line c.lineStart (c.index + text.length)
          ((c.followed tail).rest.drop text.length)) ∧
      (skipLineComment c.line c.lineStart (c.index + text.length)
        (c.rest.drop text.length)).rest.length + text.length ≤ c.rest.length := by
  obtain ⟨leads, moved, length⟩ := advance_of_begins tail h other
  have closed : Sealed tail (c.rest.drop text.length) := leads.closed closed
  rw [moved]
  obtain ⟨abreast, shorter⟩ :=
    skipLineComment_abreast follows c.lineStart (c.index + text.length) low closed
  exact ⟨abreast, by omega⟩

theorem skipTriviaFrom_abreast (follows : Follows tail statement)
    {isModule isLineStart isLineStart' : Bool} {fuel fuel' : Nat}
    (abreast : Abreast tail statement start c b) (same : c.rest ≠ [] → isLineStart' = isLineStart)
    (enough : c.rest.length < fuel) (le : fuel + 1 ≤ fuel')
    (h : skipTriviaFrom isModule fuel isLineStart c = .ok a) :
    ∃ b', skipTriviaFrom isModule fuel' isLineStart' b = .ok b' ∧
      Arrives tail statement start a b' := by
  induction fuel generalizing c b isLineStart isLineStart' fuel' with
  | zero => exact absurd enough (Nat.not_lt_zero _)
  | succ fuel ih =>
    obtain ⟨fuel', rfl⟩ : ∃ n, fuel' = n + 2 := ⟨fuel' - 2, by omega⟩
    by_cases none : c.rest = []
    · rw [skipTriviaFrom_of_nil none] at h
      cases h
      -- Only the longer document has something left to skip.
      obtain ⟨b', read, here, later⟩ := skipTriviaFrom_of_end follows abreast none
      exact ⟨b', read, .inr ⟨none, here, later⟩⟩
    · obtain ⟨rfl, low, closed⟩ : b = c.followed tail ∧ start ≤ c.line ∧ Sealed tail c.rest := by
        rcases abreast with ⟨rfl, low, closed | ⟨none', _⟩⟩ | ⟨none', _⟩
        · exact ⟨rfl, low, closed⟩
        · exact absurd none' none
        · exact absurd none' none
      cases same none
      have slashes := begins_followed ['/', '/'] closed (by decide)
      have block := begins_followed ['/', '*'] closed (by decide)
      have arrow := begins_followed ['-', '-', '>'] closed (by decide)
      have markup := begins_followed ['<', '!', '-', '-'] closed (by decide)
      have peeked : (c.followed tail).peek = c.peek := by
        obtain ⟨d, rest, left⟩ := List.exists_cons_of_ne_nil none
        simp [peek, followed, left]
      rw [skipTriviaFrom] at h ⊢
      simp only [slashes, block, arrow, markup, peeked] at h ⊢
      split_ifs at h ⊢ with isSlashes isBlock isArrow isMarkup blank isEnd
      · obtain ⟨abreast, shorter⟩ := lineComment_abreast follows isSlashes (by decide) low closed
        exact ih abreast (fun _ => rfl) (by simp at shorter ⊢; omega) (by omega) h
      · obtain ⟨after, skipped, h⟩ := bind_eq_ok_iff.mp h
        obtain ⟨leads, moved, length⟩ := advance_of_begins tail isBlock (by decide)
        obtain ⟨read, leads', later, below⟩ := skipBlockComment_carries tail skipped
        have closed := leads'.closed (leads.closed closed)
        have abreast : Abreast tail statement start after (after.followed tail) :=
          .inl ⟨rfl, by omega, .inl closed⟩
        have shorter := leads'.length_le
        obtain ⟨b', read', arrives⟩ := ih abreast (fun _ => rfl) (by simp at length shorter; omega)
          (show fuel + 1 ≤ fuel' + 1 by omega) h
        refine ⟨b', bind_eq_ok_iff.mpr ⟨after.followed tail, ?_, read'⟩, arrives⟩
        have moved : (c.followed tail).rest.drop 2 = c.rest.drop 2 ++ tail := moved
        rw [moved]
        exact read
      · obtain ⟨_, begins⟩ := Bool.and_eq_true_iff.mp isArrow
        obtain ⟨abreast, shorter⟩ := lineComment_abreast follows begins (by decide) low closed
        exact ih abreast (fun _ => rfl) (by simp at shorter ⊢; omega) (by omega) h
      · obtain ⟨_, begins⟩ := Bool.and_eq_true_iff.mp isMarkup
        obtain ⟨abreast, shorter⟩ := lineComment_abreast follows begins (by decide) low closed
        exact ih abreast (fun _ => rfl) (by simp at shorter ⊢; omega) (by omega) h
      · obtain ⟨leads, moved⟩ := step_of_peek tail isBlank blank (by decide) (by decide)
        have abreast : Abreast tail statement start (c.advance 1) ((c.followed tail).advance 1) :=
          .inl ⟨moved, low, .inl (leads.closed closed)⟩
        have size := List.length_pos_iff.mpr none
        exact ih abreast (fun _ => rfl) (by simp [advance]; omega) (by omega) h
      · obtain ⟨abreast, shorter⟩ := skipLineEnd_abreast follows isEnd low closed
        exact ih abreast (fun _ => rfl) (by omega) (by omega) h
      · cases h
        exact ⟨_, rfl, .inl ⟨none, rfl, closed⟩⟩

theorem skipTrivia_abreast (follows : Follows tail statement) {isModule : Bool}
    (closed : Sealed tail c.rest) (h : skipTrivia isModule c = .ok a) :
    ∃ b, skipTrivia isModule (c.followed tail) = .ok b ∧ Arrives tail statement c.line a b := by
  have abreast : Abreast tail statement c.line c (c.followed tail) :=
    .inl ⟨rfl, Nat.le_refl _, .inl closed⟩
  have some : 0 < tail.length := by
    have word := follows.word
    rcases follows.feed with same | same
    · obtain ⟨more, rfl⟩ := List.head?_eq_some_iff.mp word
      simp [same]
    · simp [same]
  refine skipTriviaFrom_abreast follows abreast (fun _ => rfl) (Nat.lt_succ_self _) ?_ h
  simp only [followed, List.length_append]
  omega

theorem scanWord_ne_end {lexeme : Lexeme} (h : scanWord c = .ok (lexeme, a)) :
    lexeme ≠ .endOfInput := by
  obtain ⟨⟨name, stopped⟩, _, h⟩ := bind_eq_ok_iff.mp h
  have some : classify name ≠ .endOfInput := by
    unfold classify
    split_ifs <;> simp
  simp only at h
  split at h
  · rename_i same
    obtain ⟨rfl, _⟩ := Prod.mk.inj (Except.ok.inj h)
    exact some
  · split at h
    · obtain ⟨rfl, _⟩ := Prod.mk.inj (Except.ok.inj h)
      exact some
    · cases h

theorem scanDecimal_ne_end {lexeme : Lexeme} (h : scanDecimal c = .ok (lexeme, a)) :
    lexeme ≠ .endOfInput := by
  obtain ⟨⟨exponent, stopped⟩, _, h⟩ := bind_eq_ok_iff.mp h
  simp only at h
  split at h
  · cases h
  · cases h
    simp

theorem scanRadix_ne_end {base : Nat} {isMember : Char → Bool} {noDigit : Bool} {lexeme : Lexeme}
    (h : scanRadix base isMember noDigit c = .ok (lexeme, a)) : lexeme ≠ .endOfInput := by
  simp only [scanRadix] at h
  split_ifs at h
  cases h
  simp

theorem scanNumber_ne_end {lexeme : Lexeme} (h : scanNumber c = .ok (lexeme, a)) :
    lexeme ≠ .endOfInput := by
  simp only [scanNumber] at h
  split_ifs at h
  · exact scanDecimal_ne_end h
  · exact scanRadix_ne_end h
  · exact scanRadix_ne_end h
  · exact scanRadix_ne_end h
  · simp only [scanLegacyOctal] at h
    split_ifs at h
    cases h
    simp
  · exact scanDecimal_ne_end h

theorem scanStringRest_ne_end {start fuel : Nat} {quote : Char} {value : Text} {octal : Bool}
    {lexeme : Lexeme} (h : scanStringRest start quote fuel value octal c = .ok (lexeme, a)) :
    lexeme ≠ .endOfInput := by
  fun_induction scanStringRest start quote fuel value octal c with
  | case1 => cases h
  | case2 => cases h
  | case3 =>
    cases h
    simp
  | case4 _ _ _ _ _ _ _ ih =>
    obtain ⟨⟨added, isOctal, after⟩, _, h⟩ := bind_eq_ok_iff.mp h
    exact ih added isOctal after h
  | case5 => cases h
  | case6 _ _ _ _ _ _ _ _ _ _ ih => exact ih h

theorem scanMark_ne_end {lexeme : Lexeme} (h : scanMark c = .ok (lexeme, a)) :
    lexeme ≠ .endOfInput := by
  unfold scanMark at h
  split at h
  · cases h
    simp
  · cases h

theorem scanTemplate_ne_end {lexeme : Lexeme} (h : scanTemplate c = .ok (lexeme, a)) :
    lexeme ≠ .endOfInput := by
  obtain ⟨⟨cooked, isTail, stopped⟩, _, h⟩ := bind_eq_ok_iff.mp h
  cases h
  simp

theorem scanNameRest_of_plain {fuel : Nat} {name more : List Char} {stop : Char} {before : Text}
    (here : c.rest = name ++ stop :: more)
    (plain : ∀ d ∈ name, d ≠ '\\' ∧ isNamePart d.toNat = true) (escape : stop ≠ '\\')
    (other : isNamePart stop.toNat = false) (enough : name.length ≤ fuel) :
    scanNameRest fuel before c =
      .ok (before.reverse ++ Text.ofChars name, c.advance name.length) := by
  induction name generalizing fuel before c with
  | nil =>
    have same : c.advance 0 = c := by simp [advance]
    cases fuel with
    | zero => simp [scanNameRest, Text.ofChars, same]
    | succ fuel =>
      have here : c.rest = stop :: more := here
      simp [scanNameRest, here, escape, other, Text.ofChars, same]
  | cons d name ih =>
    obtain ⟨fuel, rfl⟩ : ∃ n, fuel = n + 1 := ⟨fuel - 1, by simp at enough; omega⟩
    obtain ⟨notEscape, isPart⟩ := plain d List.mem_cons_self
    have here' : (c.advance 1).rest = name ++ stop :: more := by simp [advance, here]
    have enough' : name.length ≤ fuel := Nat.le_of_succ_le_succ enough
    have rest := @ih (c.advance 1) fuel (↑d :: before) here'
      (fun d h => plain d (.tail _ h)) enough'
    have here : c.rest = d :: (name ++ stop :: more) := here
    rw [scanNameRest]
    simp only [here, notEscape, if_false, isPart, if_true, rest]
    simp [Text.ofChars, advance, Nat.add_assoc, Nat.add_comm 1]

/-- A name that is written without escapes is read up to the character that ends it. -/
theorem scanName_of_plain {d : Char} {name more : List Char} {stop : Char}
    (here : c.rest = d :: name ++ stop :: more) (notEscape : d ≠ '\\')
    (plain : ∀ d ∈ name, d ≠ '\\' ∧ isNamePart d.toNat = true) (escape : stop ≠ '\\')
    (other : isNamePart stop.toNat = false) :
    scanName c = .ok (Text.ofChars (d :: name), c.advance (name.length + 1)) := by
  have peeked : c.peek = d := by simp [peek, here]
  have here' : (c.advance 1).rest = name ++ stop :: more := by simp [advance, here]
  have enough : name.length ≤ c.rest.length := by simp [here]; omega
  have rest := @scanNameRest_of_plain _ _ _ _ _ [↑d] here' plain escape other enough
  simp only [scanName, peeked, notEscape, if_false, rest]
  simp [Text.ofChars, advance, Nat.add_assoc, Nat.add_comm 1]

def exportWord : List Char := ['e', 'x', 'p', 'o', 'r', 't']

namespace Scanner

variable {s t u : Scanner}

def followed (s : Scanner) (tail : List Char) : Scanner :=
  { s with cursor := s.cursor.followed tail }

theorem scanLexeme_ne_feed {lexeme : Lexeme} (h : s.scanLexeme = .ok (lexeme, a)) :
    s.cursor.peek ≠ '\n' := by
  intro feed
  obtain ⟨rest, left⟩ : ∃ rest, s.cursor.rest = '\n' :: rest := by
    cases left : s.cursor.rest with
    | nil => simp [peek, left] at feed
    | cons d rest => exact ⟨rest, by simpa [peek, left] using feed⟩
  have none : markLength? ('\n' :: rest) = none := by
    simp [markLength?, longMarks, shortMarks]
  have isStart : isNameStart 10 = false := by decide
  have isDigit : isDigit '\n' = false := by decide
  simp [scanLexeme, left, isStart, isDigit, scanMark, none] at h

theorem scanLexeme_followed (closed : Sealed tail s.cursor.rest) (some : s.cursor.rest ≠ [])
    (feed : s.cursor.peek ≠ '\n') {lexeme : Lexeme} (h : s.scanLexeme = .ok (lexeme, a)) :
    (s.followed tail).scanLexeme = .ok (lexeme, a.followed tail) ∧ s.cursor.Leads a ∧
      lexeme ≠ .endOfInput := by
  obtain ⟨d, rest, left⟩ := List.exists_cons_of_ne_nil some
  have peeked : s.cursor.peek = d := by simp [peek, left]
  have left' : (s.followed tail).cursor.rest = d :: (rest ++ tail) := by
    simp [Scanner.followed, Cursor.followed, left]
  have second : isDigit (s.followed tail).cursor.peekSecond = isDigit s.cursor.peekSecond := by
    have step := Leads.advance_one left (by rw [← peeked]; exact feed)
    have same := peek_followed isDigit (step.closed closed) rfl rfl
    simpa [peekSecond, peek, Cursor.advance, Cursor.followed, left, left'] using same
  have braces : (s.followed tail).braces = s.braces := rfl
  unfold scanLexeme at h ⊢
  simp only [left, left', second, braces] at h ⊢
  split_ifs at h ⊢ with isStart isQuote isDot isDigit isDigit' opens
  · obtain ⟨read, leads⟩ := scanWord_carries closed some feed h
    exact ⟨read, leads, scanWord_ne_end h⟩
  · have isQuote : s.cursor.peek = '\'' ∨ s.cursor.peek = '"' := by simpa [peeked] using isQuote
    obtain ⟨read, leads⟩ := scanString_carries closed isQuote h
    exact ⟨read, leads, scanStringRest_ne_end h⟩
  · obtain ⟨read, leads⟩ := scanNumber_carries closed h
    exact ⟨read, leads, scanNumber_ne_end h⟩
  · obtain ⟨read, leads⟩ := scanMark_carries closed h
    exact ⟨read, leads, scanMark_ne_end h⟩
  · obtain ⟨read, leads⟩ := scanNumber_carries closed h
    exact ⟨read, leads, scanNumber_ne_end h⟩
  · have opens : s.cursor.peek = '`' ∨ s.cursor.peek = '}' := by
      rw [peeked]
      simp only [Bool.or_eq_true, Bool.and_eq_true, decide_eq_true_eq] at opens
      exact opens.imp_right And.left
    obtain ⟨read, leads⟩ := scanTemplate_carries closed opens h
    exact ⟨read, leads, scanTemplate_ne_end h⟩
  · obtain ⟨read, leads⟩ := scanMark_carries closed h
    exact ⟨read, leads, scanMark_ne_end h⟩

theorem scanLexeme_exportWord {after : List Char}
    (here : s.cursor.rest = exportWord ++ ' ' :: after) :
    s.scanLexeme = .ok (.keyword "export", s.cursor.advance 6) := by
  have plain : ∀ d ∈ ['x', 'p', 'o', 'r', 't'], d ≠ '\\' ∧ isNamePart d.toNat = true := by
    simp only [List.forall_mem_cons, List.not_mem_nil, false_imp_iff, implies_true, and_true]
    decide
  have named : scanName s.cursor = .ok (Text.ofChars exportWord, s.cursor.advance 6) :=
    scanName_of_plain here (by decide) plain (by decide) (by decide)
  have isStart : isNameStart 'e'.toNat = true := by decide
  have lexeme : classify (Text.ofChars exportWord) = .keyword "export" := by decide
  have word : s.scanLexeme = scanWord s.cursor := by
    simp only [scanLexeme, here, exportWord, List.cons_append, isStart, if_true]
  rw [word]
  refine bind_eq_ok_iff.mpr ⟨_, named, ?_⟩
  simp only [lexeme]
  exact if_pos rfl

/-- The token that comes next in a document and in the longer one. -/
theorem next_followed {after : List Char} (follows : Follows tail (exportWord ++ ' ' :: after))
    (closed : Sealed tail s.cursor.rest) {next : Token} (skipped : s.skip = .ok t)
    (lexed : t.lex = .ok (next, u)) :
    (next.isEnd = false ∧ next.line = u.cursor.line ∧ Sealed tail u.cursor.rest ∧
        (s.followed tail).skip = .ok (t.followed tail) ∧
        (t.followed tail).lex = .ok (next, u.followed tail)) ∨
      (next.isEnd = true ∧ ∃ t' next' u', (s.followed tail).skip = .ok t' ∧
        t'.lex = .ok (next', u') ∧ next'.lexeme = .keyword "export" ∧ s.cursor.line < next'.line ∧
        u'.cursor.rest = ' ' :: after ∧ u.braces = s.braces ∧ u'.braces = s.braces) := by
  obtain ⟨c, trivia, rfl⟩ : ∃ c, skipTrivia s.isModule s.cursor = .ok c ∧
      t = { s with cursor := c } := by
    obtain ⟨c, trivia, h⟩ := bind_eq_ok_iff.mp skipped
    cases h
    exact ⟨c, trivia, rfl⟩
  obtain ⟨⟨lexeme, stopped⟩, scanned, h⟩ := bind_eq_ok_iff.mp lexed
  cases h
  obtain ⟨b, trivia', arrives⟩ := skipTrivia_abreast follows closed trivia
  have skipped' : (s.followed tail).skip = .ok { s with cursor := b } :=
    bind_eq_ok_iff.mpr ⟨b, trivia', rfl⟩
  rcases arrives with ⟨some, rfl, closed⟩ | ⟨none, here, later⟩
  · left
    obtain ⟨read, leads, proper⟩ :=
      scanLexeme_followed closed some (scanLexeme_ne_feed scanned) scanned
    refine ⟨?_, rfl, leads.closed closed, skipped', bind_eq_ok_iff.mpr ⟨_, read, ?_⟩⟩
    · cases lexeme <;> first | rfl | exact absurd rfl proper
    · have same := token_followed tail leads lexeme
      simp only [Scanner.followed, same]
      rfl
  · right
    have isEnd : lexeme = .endOfInput := by
      simp only [scanLexeme, none] at scanned
      cases scanned
      rfl
    subst isEnd
    refine ⟨rfl, _, _, _, skipped', bind_eq_ok_iff.mpr ⟨_, scanLexeme_exportWord here, rfl⟩,
      rfl, later, ?_, rfl, rfl⟩
    simp [Cursor.advance, here, exportWord]

end Scanner

end ExportList.Script
