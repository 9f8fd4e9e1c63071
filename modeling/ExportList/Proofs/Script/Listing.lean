import ExportList.Proofs.Script.Module

/-!
An export list of plain names is read whole, wherever a module can go on with an item.
-/

set_option autoImplicit false

namespace ExportList.Script

/-- What is known of the next token, the text behind it, the open braces, what the surrounding code
allows and the bound on the number of tokens. -/
structure Scene where
  token : Token → Prop
  rest : List Char
  braces : List Bool
  context : Context
  size : Nat

structure Scene.Holds (v : Scene) (s : State) : Prop where
  token : v.token s.lookahead
  rest : s.scanner.cursor.rest = v.rest
  braces : s.scanner.braces = v.braces
  context : s.context = v.context
  size : s.size = v.size

variable {α β : Type}

/-- A parser that gives a good result in one scene and leaves another one. -/
def Runs (v : Scene) (p : Parse α) (good : α → Prop) (w : Scene) : Prop :=
  ∀ ⦃s : State⦄, v.Holds s → ∃ r, p s = .ok r ∧ good r.1 ∧ w.Holds r.2

/-- A scanner at some text reads a token and leaves another text. -/
def Lexes (rest : List Char) (braces : List Bool) (token : Token → Prop) (rest' : List Char)
    (braces' : List Bool) : Prop :=
  ∀ (s : Scanner) (strict : Bool), s.cursor.rest = rest → s.braces = braces →
    ∃ t next u, s.skip = .ok t ∧ t.lex = .ok (next, u) ∧ token (reserveInStrict strict next) ∧
      u.cursor.rest = rest' ∧ u.braces = braces'

section Rules

variable {v w z : Scene} {p : Parse α} {k : α → Parse β} {good : α → Prop} {fine : β → Prop}

theorem Runs.bind (hp : Runs v p good w) (hk : ∀ a, good a → Runs w (k a) fine z) :
    Runs v (p >>= k) fine z := by
  intro s holds
  obtain ⟨⟨a, t⟩, ok, goodA, holds⟩ := hp holds
  rw [bind_run k ok]
  exact hk a goodA holds

theorem Runs.pure {a : α} (h : good a) : Runs v (pure a) good v :=
  fun s holds => ⟨(a, s), rfl, h, holds⟩

theorem Runs.finish {start : Marker} {tag : Text} {fields : Fields} :
    Runs v (finish start tag fields) (fun _ => True) v :=
  fun _ holds => ⟨_, rfl, trivial, holds⟩

theorem Runs.mark {k : Marker → Parse β} (h : ∀ a, Runs v (k a) fine w) :
    Runs v (mark >>= k) fine w :=
  fun _ holds => h _ holds

theorem Runs.atLineBreak {k : Bool → Parse β} (h : ∀ a, Runs v (k a) fine w) :
    Runs v (atLineBreak >>= k) fine w :=
  fun _ holds => h _ holds

theorem Runs.look {k : Token → Parse β} (h : ∀ t, v.token t → Runs v (k t) fine w) :
    Runs v (look >>= k) fine w :=
  fun _ holds => h _ holds.token holds

theorem Runs.sees {is : Token → Bool} {k : Bool → Parse β} (a : Bool)
    (known : ∀ t, v.token t → is t = a) (h : Runs v (k a) fine w) :
    Runs v (sees is >>= k) fine w := by
  intro s holds
  have asked : Script.sees is s = .ok (a, s) := by
    rw [← known _ holds.token]
    rfl
  rw [bind_run k asked]
  exact h holds

theorem Runs.context {k : Context → Parse β} (h : Runs v (k v.context) fine w) :
    Runs v (context >>= k) fine w := by
  intro s holds
  have asked : Script.context s = .ok (v.context, s) := by
    rw [← holds.context]
    rfl
  rw [bind_run k asked]
  exact h holds

theorem Runs.tokenBound {k : Nat → Parse β} (h : Runs v (k v.size) fine w) :
    Runs v (tokenBound >>= k) fine w := by
  intro s holds
  have asked : Script.tokenBound s = .ok (v.size, s) := by
    rw [← holds.size]
    rfl
  rw [bind_run k asked]
  exact h holds

theorem Runs.modifyContext {f : Context → Context} {k : Unit → Parse β}
    (h : Runs { v with context := f v.context } (k ()) fine w) :
    Runs v (modifyContext f >>= k) fine w :=
  fun _ holds => h { holds with context := congrArg f holds.context }

theorem Runs.advance {token : Token → Prop} {rest : List Char} {braces : List Bool}
    {k : Token → Parse β} (lexes : Lexes v.rest v.braces token rest braces)
    (h : ∀ t, v.token t → Runs { v with token, rest, braces } (k t) fine w) :
    Runs v (advance >>= k) fine w := by
  intro s holds
  obtain ⟨t, next, u, skip, lex, isToken, left, left'⟩ :=
    lexes s.scanner s.context.strict holds.rest holds.braces
  obtain ⟨s', read, holds'⟩ : ∃ s', Script.advance s = .ok (s.lookahead, s') ∧
      Scene.Holds { v with token, rest, braces } s' :=
    ⟨_, bind_eq_ok_iff.mpr ⟨_, skip, bind_eq_ok_iff.mpr ⟨_, lex, rfl⟩⟩, isToken, left, left',
      holds.context, holds.size⟩
  rw [bind_run k read]
  exact h _ holds.token holds'

end Rules

/-- The code points of blanks, of line ends and of what comments begin with. -/
def triviaPoints : List Nat :=
  [0x20, 0x09, 0x0B, 0x0C, 0xA0, 0x1680, 0x180E, 0x2000, 0x2001, 0x2002, 0x2003, 0x2004,
    0x2005, 0x2006, 0x2007, 0x2008, 0x2009, 0x200A, 0x202F, 0x205F, 0x3000, 0xFEFF, 0x0A, 0x0D,
    0x2028, 0x2029, 0x2F, 0x2D, 0x3C]

theorem notMem_triviaPoints_of_isNameStart {n : Nat} (h : isNameStart n = true) :
    n ∉ triviaPoints := by
  have none : ∀ n ∈ triviaPoints, isNameStart n = false := by decide +kernel
  intro mem
  rw [none n mem] at h
  cases h

namespace Cursor

variable {c : Cursor} {d : Char} {gap more : List Char}

theorem skipTriviaFrom_of_solid {isModule isLineStart : Bool} {fuel : Nat}
    (here : c.rest = d :: more) (solid : d.toNat ∉ triviaPoints) :
    skipTriviaFrom isModule fuel isLineStart c = .ok c := by
  simp only [triviaPoints, List.mem_cons, List.not_mem_nil, or_false, not_or] at solid
  have apart : ∀ b : Char, d.toNat ≠ b.toNat → d ≠ b := fun b ne eq => ne (congrArg Char.toNat eq)
  have slash : d ≠ '/' := apart '/' (by simp only [Char.reduceToNat]; omega)
  have dash : d ≠ '-' := apart '-' (by simp only [Char.reduceToNat]; omega)
  have less : d ≠ '<' := apart '<' (by simp only [Char.reduceToNat]; omega)
  have blank : isBlank d = false := by
    simp only [isBlank, Bool.or_eq_false_iff, beq_eq_false_iff_ne, Bool.and_eq_false_iff,
      decide_eq_false_iff_not]
    omega
  have lineEnd : isLineEnd d = false := by
    simp only [isLineEnd, Bool.or_eq_false_iff, beq_eq_false_iff_ne]
    omega
  cases fuel with
  | zero => rfl
  | succ fuel =>
    simp [skipTriviaFrom, begins, peek, here, List.isPrefixOf, slash.symm, dash.symm, less.symm,
      blank, lineEnd]

/-- At most one space before the next token. -/
theorem skipTrivia_of_solid {isModule : Bool} (here : c.rest = gap ++ d :: more)
    (space : gap = [] ∨ gap = [' ']) (solid : d.toNat ∉ triviaPoints) :
    skipTrivia isModule c = .ok (c.advance gap.length) := by
  rcases space with rfl | rfl
  · have same : c.advance 0 = c := by simp [advance]
    rw [List.length_nil, same]
    exact skipTriviaFrom_of_solid here solid
  · have here' : (c.advance 1).rest = d :: more := by simp [advance, here]
    have blank : isBlank ' ' = true := by decide
    have here : c.rest = ' ' :: d :: more := here
    rw [skipTrivia, skipTriviaFrom]
    simp [begins, peek, here, List.isPrefixOf, blank, skipTriviaFrom_of_solid here' solid]

end Cursor

section Lexing

variable {gap more : List Char} {braces : List Bool}

theorem lexes_of_lexeme {d : Char} {token : Token → Prop} {rest : List Char} {braces' : List Bool}
    (space : gap = [] ∨ gap = [' ']) (solid : d.toNat ∉ triviaPoints)
    (h : ∀ s : Scanner, s.cursor.rest = d :: more → s.braces = braces → ∃ lexeme after,
      s.scanLexeme = .ok (lexeme, after) ∧ after.rest = rest ∧
      Scanner.bracesAfter braces lexeme = braces' ∧
      ∀ strict t, t.lexeme = lexeme → token (reserveInStrict strict t)) :
    Lexes (gap ++ d :: more) braces token rest braces' := by
  intro s strict here same
  have skip : s.skip = .ok { s with cursor := s.cursor.advance gap.length } :=
    bind_eq_ok_iff.mpr ⟨_, Cursor.skipTrivia_of_solid here space solid, rfl⟩
  obtain ⟨lexeme, after, scanned, left, left', isToken⟩ :=
    h { s with cursor := s.cursor.advance gap.length } (by simp [Cursor.advance, here]) same
  refine ⟨_, _, _, skip, bind_eq_ok_iff.mpr ⟨_, scanned, rfl⟩, isToken strict _ rfl, left, ?_⟩
  simpa [same] using left'

def IsMark (text : Text) (t : Token) : Prop := t.lexeme = .mark text

theorem reserveInStrict_mark {strict : Bool} {text : Text} {t : Token} (h : t.lexeme = .mark text) :
    IsMark text (reserveInStrict strict t) := by
  unfold reserveInStrict IsMark
  rw [h]
  exact h

theorem no_gap : ([] : List Char) = [] ∨ ([] : List Char) = [' '] := .inl rfl

theorem one_gap : [' '] = [] ∨ [' '] = [' '] := .inr rfl

theorem lexes_mark {d : Char} (space : gap = [] ∨ gap = [' ']) (solid : d.toNat ∉ triviaPoints)
    (isMark : ∀ s : Scanner, s.cursor.rest = d :: more → s.braces = braces →
      s.scanLexeme = .ok (.mark [↑d], s.cursor.advance 1)) :
    Lexes (gap ++ d :: more) braces (IsMark [↑d]) more (Scanner.bracesAfter braces (.mark [↑d])) :=
  lexes_of_lexeme space solid fun s here same =>
    ⟨_, _, isMark s here same, by simp [Cursor.advance, here], rfl,
      fun _ _ h => reserveInStrict_mark h⟩

theorem scanLexeme_mark {s : Scanner} {d : Char} (isMark : d ∈ ['{', '}', ',', ';'])
    (here : s.cursor.rest = d :: more) (inner : d = '}' → s.braces.head? ≠ some true) :
    s.scanLexeme = .ok (.mark [↑d], s.cursor.advance 1) := by
  have other : isNameStart d.toNat = false ∧ isDigit d = false ∧ d ≠ '\'' ∧ d ≠ '"' ∧ d ≠ '.' ∧
      d ≠ '`' := by
    simp only [List.mem_cons, List.not_mem_nil, or_false] at isMark
    rcases isMark with rfl | rfl | rfl | rfl <;> decide
  obtain ⟨notName, notDigit, notQuote, notQuote', notDot, notTick⟩ := other
  have length : markLength? (d :: more) = some 1 := by
    simp only [List.mem_cons, List.not_mem_nil, or_false] at isMark
    rcases isMark with rfl | rfl | rfl | rfl <;>
      simp [markLength?, longMarks, shortMarks, List.isPrefixOf]
  have notTemplate : (d = '}' && s.braces.head? = some true) = false := by
    simp only [Bool.and_eq_false_iff, decide_eq_false_iff_not]
    exact Decidable.or_iff_not_imp_left.mpr fun isClose => inner (Decidable.not_not.mp isClose)
  simp [Scanner.scanLexeme, here, notName, notDigit, notQuote, notQuote', notDot, notTick,
    notTemplate, scanMark, length, Text.ofChars]

theorem lexes_openBrace (space : gap = [] ∨ gap = [' ']) :
    Lexes (gap ++ '{' :: more) braces (IsMark openBrace) more (false :: braces) :=
  lexes_mark space (by decide) fun _ here _ => scanLexeme_mark (by decide) here nofun

theorem lexes_closeBrace (space : gap = [] ∨ gap = [' ']) :
    Lexes (gap ++ '}' :: more) (false :: braces) (IsMark closeBrace) more braces :=
  lexes_mark space (by decide) fun s here same =>
    scanLexeme_mark (by decide) here fun _ => by simp [same]

theorem lexes_comma : Lexes (',' :: more) braces (IsMark ",") more braces :=
  lexes_mark no_gap (by decide) fun _ here _ => scanLexeme_mark (by decide) here nofun

theorem lexes_semicolon : Lexes (';' :: more) braces (IsMark ";") more braces :=
  lexes_mark no_gap (by decide) fun _ here _ => scanLexeme_mark (by decide) here nofun

def IsLast (t : Token) : Prop := t.isEnd = true

theorem lexes_end : Lexes ['\n'] braces IsLast [] braces := by
  intro s strict here same
  have skip : skipTrivia s.isModule s.cursor = .ok (s.cursor.breakLine 1) := by
    have feed : skipLineEnd s.cursor = s.cursor.breakLine 1 := by
      simp [skipLineEnd, Cursor.begins, here, List.isPrefixOf]
    have none : (s.cursor.breakLine 1).rest = [] := by simp [Cursor.breakLine, here]
    have blank : isBlank '\n' = false := by decide
    have lineEnd : isLineEnd '\n' = true := by decide
    rw [skipTrivia, skipTriviaFrom]
    simp [Cursor.begins, Cursor.peek, here, List.isPrefixOf, blank, lineEnd, feed,
      skipTriviaFrom_of_nil none]
  have none : (s.cursor.breakLine 1).rest = [] := by simp [Cursor.breakLine, here]
  have scanned : Scanner.scanLexeme { s with cursor := s.cursor.breakLine 1 } =
      .ok (.endOfInput, s.cursor.breakLine 1) := by
    simp only [Scanner.scanLexeme, none]
  refine ⟨_, _, _, bind_eq_ok_iff.mpr ⟨_, skip, rfl⟩, bind_eq_ok_iff.mpr ⟨_, scanned, rfl⟩,
    ?_, none, same⟩
  exact isEnd_reserveInStrict _ _

/-- Whether code points form a name that needs no escape. -/
def isPlainName : List Nat → Bool
  | [] => false
  | n :: rest => isNameStart n && n ≠ 0x5C && rest.all fun n => isNamePart n && n ≠ 0x5C

/-- A token that an export list can name. -/
structure IsListable (t : Token) : Prop where
  isName : t.isName = true
  notDefault : t.isKeyword "default" = false

theorem isListable_classify {name : Text} (other : name ≠ Text.ofString "default")
    {strict : Bool} {t : Token} (h : t.lexeme = classify name) :
    IsListable (reserveInStrict strict t) := by
  have ofKeyword : ∀ {t : Token}, t.lexeme = .keyword name → IsListable t := fun is =>
    ⟨by simp [Token.isName, is], by simp [Token.isKeyword, is, other]⟩
  unfold classify at h
  split_ifs at h with isKeyword isNull isTrue isFalse
  · rw [reserveInStrict_keyword h]
    exact ofKeyword h
  · rw [show reserveInStrict strict t = t by simp [reserveInStrict, h]]
    exact ⟨by simp [Token.isName, h], by simp [Token.isKeyword, h]⟩
  · rw [show reserveInStrict strict t = t by simp [reserveInStrict, h]]
    exact ⟨by simp [Token.isName, h], by simp [Token.isKeyword, h]⟩
  · rw [show reserveInStrict strict t = t by simp [reserveInStrict, h]]
    exact ⟨by simp [Token.isName, h], by simp [Token.isKeyword, h]⟩
  · unfold reserveInStrict
    simp only [h]
    split
    · exact ofKeyword rfl
    · exact ⟨by simp [Token.isName, h], by simp [Token.isKeyword, h]⟩

theorem lexes_name {name : List Char} {stop : Char} (space : gap = [] ∨ gap = [' '])
    (plain : isPlainName (name.map Char.toNat) = true)
    (other : Text.ofChars name ≠ Text.ofString "default")
    (stops : stop ≠ '\\' ∧ isNamePart stop.toNat = false) :
    Lexes (gap ++ (name ++ stop :: more)) braces IsListable (stop :: more) braces := by
  obtain _ | ⟨d, name⟩ := name
  · cases plain
  simp only [isPlainName, List.map_cons, Bool.and_eq_true, decide_eq_true_eq, List.all_map,
    List.all_eq_true, Function.comp_apply] at plain
  obtain ⟨⟨isStart, notEscape⟩, isPart⟩ := plain
  have apart : ∀ b : Char, b.toNat ≠ 0x5C → b ≠ '\\' := fun b ne eq => ne (congrArg Char.toNat eq)
  refine lexes_of_lexeme space (notMem_triviaPoints_of_isNameStart isStart) fun s here same => ?_
  have named : scanName s.cursor =
      .ok (Text.ofChars (d :: name), s.cursor.advance (name.length + 1)) :=
    scanName_of_plain here (apart d notEscape)
      (fun b mem => ⟨apart b (isPart b mem).2, (isPart b mem).1⟩)
      stops.1 stops.2
  have word : s.scanLexeme = scanWord s.cursor := by
    simp only [Scanner.scanLexeme, here, isStart, if_true]
  have isPlain : s.cursor.index + (Text.ofChars (d :: name)).length =
      (s.cursor.advance (name.length + 1)).index := by simp [Text.ofChars, Cursor.advance]
  refine ⟨classify (Text.ofChars (d :: name)), s.cursor.advance (name.length + 1), ?_, ?_, ?_,
    fun strict t is => isListable_classify other is⟩
  · rw [word]
    refine bind_eq_ok_iff.mpr ⟨_, named, ?_⟩
    dsimp only
    cases classify (Text.ofChars (d :: name)) with
    | identifier => rfl
    | _ => exact if_pos isPlain
  · simp [Cursor.advance, here]
  · unfold classify
    split_ifs <;> rfl

end Lexing

/-- What stands behind a name of an export list: the names after it, the brace and what comes
then. -/
def afterName : (names : List (List Char)) → (tail : List Char) → List Char
  | [], tail => ' ' :: '}' :: tail
  | name :: names, tail => ',' :: ' ' :: (name ++ afterName names tail)

/-- A name that an export list can hold. -/
def Listable (name : List Char) : Prop :=
  isPlainName (name.map Char.toNat) = true ∧ Text.ofChars name ≠ Text.ofString "default"

section Parsing

variable {v : Scene} {names : List (List Char)} {tail : List Char} {braces : List Bool}

theorem lexes_listed {gap name : List Char} (space : gap = [] ∨ gap = [' '])
    (listable : Listable name) :
    Lexes (gap ++ (name ++ afterName names tail)) braces IsListable
      (afterName names tail) braces := by
  cases names with
  | nil => exact lexes_name space listable.1 listable.2 (by decide)
  | cons => exact lexes_name space listable.1 listable.2 (by decide)

theorem IsMark.isWord {text word : Text} {t : Token} (h : IsMark text t) :
    t.isWord word = false := by
  simp [Token.isWord, show t.lexeme = _ from h]

theorem IsMark.isKeyword {text word : Text} {t : Token} (h : IsMark text t) :
    t.isKeyword word = false := by
  simp [Token.isKeyword, show t.lexeme = _ from h]

theorem IsMark.isMark {text : Text} (other : Text) {t : Token} (h : IsMark text t) :
    t.isMark other = decide (text = other) := by
  simp [Token.isMark, show t.lexeme = _ from h]

theorem IsListable.isMark {text : Text} {t : Token} (h : IsListable t) : t.isMark text = false := by
  have isName := h.isName
  unfold Token.isName at isName
  unfold Token.isMark
  split
  · rename_i same
    rw [same] at isName
    cases isName
  · rfl

theorem expect_runs {text : Text} {rest : List Char} {token : Token → Prop} {braces : List Bool}
    (here : ∀ t, v.token t → IsMark text t) (lexes : Lexes v.rest v.braces token rest braces) :
    Runs v (expect text) (fun _ => True) { v with token, rest, braces } := by
  refine .advance lexes fun t is => ?_
  rw [(here t is).isMark, decide_eq_true rfl, if_pos rfl]
  exact .pure trivial

theorem anyName_runs {rest : List Char} {token : Token → Prop} {braces : List Bool}
    (here : ∀ t, v.token t → IsListable t) (lexes : Lexes v.rest v.braces token rest braces) :
    Runs v anyName (fun _ => True) { v with token, rest, braces } := by
  refine .mark fun start => .advance lexes fun t is => ?_
  rw [(here t is).isName, if_pos rfl]
  exact .finish

theorem exportSpecifier_runs {text : Text} {rest : List Char} {braces : List Bool}
    (here : ∀ t, v.token t → IsListable t)
    (lexes : Lexes v.rest v.braces (IsMark text) rest braces) :
    Runs v exportSpecifier (fun _ => True) { v with token := IsMark text, rest, braces } :=
  .mark fun _ => .bind (anyName_runs here lexes) fun _ _ =>
    .sees false (fun _ is => is.isWord) .finish

theorem exportEntry_runs {text : Text} {rest : List Char} {braces : List Bool} {w : Scene}
    (here : ∀ t, v.token t → IsListable t) (lexes : Lexes v.rest v.braces (IsMark text) rest braces)
    (separated :
      Runs { v with token := IsMark text, rest, braces } listSeparator (fun _ => True) w) :
    Runs v exportEntry (fun entry => entry.2 = false) w :=
  .sees false (fun t is => (here t is).notDefault) <|
    .bind (exportSpecifier_runs here lexes) fun _ _ => .bind separated fun _ _ => .pure rfl

/-- The names of a list are read up to its closing brace. -/
theorem entries_run {fuel : Nat} (here : ∀ t, v.token t → IsListable t)
    (left : v.rest = afterName names tail) (inner : v.braces = false :: braces)
    (listable : ∀ name ∈ names, Listable name) (enough : names.length + 2 ≤ fuel) :
    Runs v (collectUntil (fun t => !!t.isMark closeBrace) exportEntry fuel)
      (fun entries => ∀ entry ∈ entries, entry.2 = false)
      { v with token := IsMark closeBrace, rest := tail, braces } := by
  -- A name is followed by a comma and the next one, or by the closing brace.
  induction names generalizing v fuel with
  | nil =>
    obtain ⟨fuel, rfl⟩ : ∃ n, fuel = n + 2 := ⟨fuel - 2, by simp at enough; omega⟩
    have lexes : Lexes v.rest v.braces (IsMark closeBrace) tail braces := by
      rw [left, inner]
      exact lexes_closeBrace one_gap
    refine .sees false (fun t is => by rw [(here t is).isMark]; rfl) ?_
    refine .bind (exportEntry_runs here lexes
      (.sees true (fun _ is => by rw [is.isMark]; decide) (.pure trivial)))
      fun first notDefault => ?_
    refine .bind (.sees true (fun _ is => by rw [is.isMark]; decide) (.pure rfl))
      fun others none => ?_
    subst none
    exact .pure (List.forall_mem_cons.mpr ⟨notDefault, nofun⟩)
  | cons name names ih =>
    obtain ⟨fuel, rfl⟩ : ∃ n, fuel = n + 1 := ⟨fuel - 1, by omega⟩
    have lexes : Lexes v.rest v.braces (IsMark ",") (' ' :: (name ++ afterName names tail))
        v.braces := by
      rw [left]
      exact lexes_comma
    have lexes' : Lexes (' ' :: (name ++ afterName names tail)) v.braces IsListable
        (afterName names tail) v.braces :=
      lexes_listed one_gap (listable name List.mem_cons_self)
    refine .sees false (fun t is => by rw [(here t is).isMark]; rfl) ?_
    refine .bind (exportEntry_runs here lexes (.sees false (fun _ is => by rw [is.isMark]; decide)
      (expect_runs (fun _ => id) lexes'))) fun first notDefault => ?_
    refine .bind (ih (fun _ => id) rfl inner (fun name mem => listable name (.tail _ mem)) ?_)
      fun others notDefault' => ?_
    · simp at enough
      omega
    · exact .pure (List.forall_mem_cons.mpr ⟨notDefault, notDefault'⟩)

/-- What stands behind the closing brace: a semicolon or not, and the end of the line. -/
def closing (semicolon : Bool) : List Char := if semicolon then [';', '\n'] else ['\n']

def IsClosing (semicolon : Bool) : Token → Prop := if semicolon then IsMark ";" else IsLast

def afterClosing (semicolon : Bool) : List Char := if semicolon then ['\n'] else []

theorem lexes_closing (semicolon : Bool) :
    Lexes (closing semicolon) braces (IsClosing semicolon) (afterClosing semicolon) braces := by
  cases semicolon with
  | false => exact lexes_end
  | true => exact lexes_semicolon

theorem IsClosing.isWord {semicolon : Bool} {word : Text} {t : Token} (h : IsClosing semicolon t) :
    t.isWord word = false := by
  cases semicolon with
  | false => exact (dull_word word).isEnd t h
  | true => exact IsMark.isWord h

theorem endStatement_runs {semicolon : Bool} (here : ∀ t, v.token t → IsClosing semicolon t)
    (left : v.rest = afterClosing semicolon) :
    Runs v endStatement (fun _ => True) { v with token := IsLast, rest := [] } := by
  cases semicolon with
  | true =>
    have lexes : Lexes v.rest v.braces IsLast [] v.braces := by
      rw [left]
      exact lexes_end
    exact .sees true (fun t is => by rw [IsMark.isMark _ (here t is)]; decide)
      (.advance lexes fun _ _ => .pure trivial)
  | false =>
    have stays : ∀ ⦃s : State⦄, v.Holds s → Scene.Holds { v with token := IsLast, rest := [] } s :=
      fun s holds => { holds with token := here _ holds.token, rest := holds.rest.trans left }
    refine .sees false (fun t is => (dull_mark _).isEnd t (here t is))
      (.atLineBreak fun isBroken => ?_)
    cases isBroken with
    | true => exact fun s holds => ⟨_, rfl, trivial, stays holds⟩
    | false =>
      refine .look fun t is => ?_
      have isEnd : t.isEnd = true := here t is
      simp only [isEnd, Bool.not_true, Bool.false_and, Bool.false_eq_true, if_false]
      exact fun s holds => ⟨_, rfl, trivial, { stays holds with }⟩

theorem exportOrigin_runs {semicolon : Bool} (here : ∀ t, v.token t → IsClosing semicolon t)
    (left : v.rest = afterClosing semicolon) (start : Marker) (specifiers : List Value) :
    Runs v (exportOrigin start specifiers false) (fun _ => True)
      { v with token := IsLast, rest := [] } :=
  .sees false (fun t is => (here t is).isWord) <|
    .bind (endStatement_runs here left) fun _ _ => .finish

/-- The text of an export list of some names, behind its first word. -/
def listText (first : List Char) (others : List (List Char)) (semicolon : Bool) : List Char :=
  '{' :: ' ' :: (first ++ afterName others (closing semicolon))

theorem namedExports_runs {semicolon : Bool} {first : List Char}
    (here : ∀ t, v.token t → IsMark openBrace t)
    (left : v.rest = ' ' :: (first ++ afterName names (closing semicolon)))
    (inner : v.braces = false :: braces) (listable : ∀ name ∈ first :: names, Listable name)
    (enough : names.length + 2 ≤ v.size) :
    Runs v namedExports (fun r => r.2 = false)
      { v with token := IsClosing semicolon, rest := afterClosing semicolon, braces } := by
  have lexes : Lexes v.rest v.braces IsListable (afterName names (closing semicolon)) v.braces := by
    rw [left]
    exact lexes_listed one_gap (listable first List.mem_cons_self)
  refine .bind (expect_runs here lexes) fun _ _ =>
    .bind (.tokenBound (entries_run (fun _ => id) rfl inner
    (fun name mem => listable name (.tail _ mem)) enough)) fun entries notDefault => ?_
  exact .bind (expect_runs (fun _ => id) (lexes_closing semicolon)) fun _ _ =>
    .pure (List.any_eq_false.mpr fun entry mem => by simp [notDefault entry mem])

theorem exportNames_runs {semicolon : Bool} {first : List Char}
    (here : ∀ t, v.token t → IsMark openBrace t)
    (left : v.rest = ' ' :: (first ++ afterName names (closing semicolon)))
    (inner : v.braces = false :: braces) (listable : ∀ name ∈ first :: names, Listable name)
    (enough : names.length + 2 ≤ v.size) (start : Marker) :
    Runs v (exportNames start) (fun _ => True) { v with token := IsLast, rest := [], braces } := by
  refine .sees false (fun t is => ?_) (.bind (namedExports_runs here left inner listable enough)
    fun ⟨listed, hasDefault⟩ notDefault => ?_)
  · simp [Token.isIdentifier, show t.lexeme = _ from here t is]
  · cases notDefault
    exact exportOrigin_runs (fun _ => id) rfl start listed

theorem expectKeyword_runs {word : Text} {rest : List Char} {token : Token → Prop}
    {braces : List Bool} (here : ∀ t, v.token t → t.isKeyword word = true)
    (lexes : Lexes v.rest v.braces token rest braces) :
    Runs v (expectKeyword word) (fun _ => True) { v with token, rest, braces } := by
  refine .advance lexes fun t is => ?_
  rw [here t is, if_pos rfl]
  exact .pure trivial

theorem exportDeclaration_runs {g : Grammar} {semicolon : Bool} {first : List Char}
    (here : ∀ t, v.token t → t.isKeyword "export" = true)
    (left : v.rest = ' ' :: listText first names semicolon)
    (outside : v.context.inFunctionBody = false) (listable : ∀ name ∈ first :: names, Listable name)
    (enough : names.length + 2 ≤ v.size) :
    Runs v (exportDeclaration g) (fun _ => True) { v with token := IsLast, rest := [] } := by
  have lexes : Lexes v.rest v.braces (IsMark openBrace)
      (' ' :: (first ++ afterName names (closing semicolon))) (false :: v.braces) := by
    rw [left]
    exact lexes_openBrace one_gap
  refine .context ?_
  rw [outside, if_neg nofun]
  refine .mark fun start => .bind (expectKeyword_runs here lexes) fun _ _ => .look fun t is => ?_
  have notDefault : t.isKeyword "default" = false := IsMark.isKeyword is
  have notAll : t.isMark "*" = false := by
    rw [IsMark.isMark _ is]
    decide
  simp only [notDefault, notAll, show t.lexeme = _ from is, Bool.false_eq_true, if_false]
  have plain : ∀ {v : Scene}, (∀ t, v.token t → IsMark openBrace t) →
      Runs v atAsyncFunction (fun isAsync => isAsync = false) v := fun here =>
    .sees false (fun t is => (here t is).isWord) (.pure rfl)
  refine .bind (plain fun _ => id) fun isAsync no => ?_
  subst no
  exact exportNames_runs
    (v := { v with token := IsMark openBrace, rest := _, braces := false :: v.braces })
    (fun _ => id) rfl rfl listable enough start

/-- A module can go on with an export list of plain names. -/
theorem item_runs {g : Grammar} {semicolon : Bool} {first : List Char}
    (here : ∀ t, v.token t → t.isKeyword "export" = true)
    (left : v.rest = ' ' :: listText first names semicolon) (isModule : v.context.isModule = true)
    (outside : v.context.inFunctionBody = false) (listable : ∀ name ∈ first :: names, Listable name)
    (enough : names.length + 2 ≤ v.size) :
    Runs v (item g) (fun _ => True)
      { v with
        token := IsLast
        rest := []
        context := { v.context with isAssignmentTarget := true, isBindingElement := true } } := by
  refine .modifyContext (.look fun t is => .context ?_)
  simp only [here t is, isModule, if_true]
  exact exportDeclaration_runs here left outside listable enough

end Parsing

end ExportList.Script
