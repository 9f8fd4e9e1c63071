import ExportList.Statement
import ExportList.Proofs.Sequence

/-!
Reading export statements back.  Names without commas are told apart by the commas between them, and
the last code points of a statement tell its options, so that a statement is rendered from one list
of names and one choice of options only.
-/

set_option autoImplicit false

namespace ExportList

namespace Text

/-- The parts of a text between the occurrences of two code points in a row, found from the left. -/
def splitAtPair (first second : CodePoint) : Text → List Text
  | [] => [[]]
  | [c] => [[c]]
  | c :: d :: rest =>
    if c = first ∧ d = second then [] :: splitAtPair first second rest
    else (splitAtPair first second (d :: rest)).modifyHead (c :: ·)

section Splitting

variable {first second : CodePoint}

theorem splitAtPair_ne_nil (t : Text) : splitAtPair first second t ≠ [] := by
  fun_induction splitAtPair first second t with
  | case1 => simp
  | case2 c => simp
  | case3 c d rest same ih => simp
  | case4 c d rest other ih => simpa using ih

theorem splitAtPair_cons_of_ne {c : CodePoint} (h : c ≠ first) (t : Text) :
    splitAtPair first second (c :: t) = (splitAtPair first second t).modifyHead (c :: ·) := by
  cases t with
  | nil => rfl
  | cons d rest => rw [splitAtPair, if_neg fun same => h same.1]

/-- A part without the first of the two code points is told from what follows the pair. -/
theorem splitAtPair_append {part : Text} (h : first ∉ part) (rest : Text) :
    splitAtPair first second (part ++ first :: second :: rest) =
      part :: splitAtPair first second rest := by
  induction part with
  | nil => rw [List.nil_append, splitAtPair, if_pos ⟨rfl, rfl⟩]
  | cons c part ih =>
    rw [List.mem_cons, not_or] at h
    rw [List.cons_append, splitAtPair_cons_of_ne (Ne.symm h.1), ih h.2, List.modifyHead_cons]

theorem splitAtPair_of_notMem {part : Text} (h : first ∉ part) :
    splitAtPair first second part = [part] := by
  induction part with
  | nil => rfl
  | cons c part ih =>
    rw [List.mem_cons, not_or] at h
    rw [splitAtPair_cons_of_ne (Ne.symm h.1), ih h.2, List.modifyHead_cons]

theorem join_cons_of_ne_nil (separator part : Text) {parts : List Text} (h : parts ≠ []) :
    join separator (part :: parts) = part ++ separator ++ join separator parts := by
  cases parts with
  | nil => exact absurd rfl h
  | cons next rest => rfl

theorem join_modifyHead (separator : Text) (c : CodePoint) {parts : List Text} (h : parts ≠ []) :
    join separator (parts.modifyHead (c :: ·)) = c :: join separator parts := by
  match parts with
  | [] => exact absurd rfl h
  | [part] => rfl
  | part :: next :: rest => rfl

theorem splitAtPair_join {parts : List Text} (some : parts ≠ [])
    (h : ∀ part ∈ parts, first ∉ part) :
    splitAtPair first second (join [first, second] parts) = parts := by
  induction parts with
  | nil => exact absurd rfl some
  | cons part parts ih =>
    obtain ⟨own, others⟩ := List.forall_mem_cons.mp h
    cases parts with
    | nil => exact splitAtPair_of_notMem own
    | cons next rest =>
      have tail := ih (List.cons_ne_nil _ _) others
      calc splitAtPair first second (join [first, second] (part :: next :: rest))
        _ = splitAtPair first second
            (part ++ first :: second :: join [first, second] (next :: rest)) := by
          rw [join_cons_of_ne_nil _ _ (List.cons_ne_nil _ _), List.append_assoc]
          rfl
        _ = part :: splitAtPair first second (join [first, second] (next :: rest)) :=
          splitAtPair_append own _
        _ = part :: next :: rest := by rw [tail]

theorem join_splitAtPair (t : Text) : join [first, second] (splitAtPair first second t) = t := by
  fun_induction splitAtPair first second t with
  | case1 => rfl
  | case2 c => rfl
  | case3 c d rest same ih =>
    rw [join_cons_of_ne_nil _ _ (splitAtPair_ne_nil rest), ih, same.1, same.2]
    rfl
  | case4 c d rest other ih => rw [join_modifyHead _ _ (splitAtPair_ne_nil _), ih]

end Splitting

/-- A text without a code point at its end, and whether that was there. -/
def chop (last : CodePoint) (t : Text) : Text × Bool :=
  if t.endsWith last then (t.dropLast, true) else (t, false)

theorem endsWith_append_singleton (t : Text) (c last : CodePoint) :
    (t ++ [c]).endsWith last = (c == last) := by
  simp [endsWith]

/-- What was put at the end of a text can be taken off again if the text itself does not end so. -/
theorem chop_append {last : CodePoint} {t : Text} (h : t.endsWith last = false) (put : Bool) :
    (t ++ if put then [last] else []).chop last = (t, put) := by
  cases put with
  | false => simp [chop, h]
  | true => simp [chop, endsWith_append_singleton]

theorem eq_of_chop {last : CodePoint} {t rest : Text} {there : Bool}
    (h : t.chop last = (rest, there)) :
    t = rest ++ if there then [last] else [] := by
  rw [chop] at h
  split_ifs at h with ends
  · cases h
    have own : last ∈ t.getLast? := by simpa [endsWith] using ends
    exact (List.dropLast_append_getLast? _ own).symm
  · cases h
    simp

end Text

/-- The names of a list with commas and blanks between them; nothing lists no name. -/
def listedIn (list : Text) : List Text :=
  if list = [] then [] else list.splitAtPair (CodePoint.ofChar ',') (CodePoint.ofChar ' ')

/-- The names and the options that a statement is rendered from: what is left of it without
terminators, keyword and braces is the list of the names. -/
def readExport? (t : Text) : Option (List Text × RenderOptions) := do
  let (line, trailingNewline) := t.chop (CodePoint.ofChar '\n')
  let (text, semicolon) := line.chop (CodePoint.ofChar ';')
  let behind ← List.dropPrefix? text (Text.ofString "export \x7b ")
  let list ← List.dropSuffix? behind (Text.ofString " \x7d")
  return (listedIn list, { semicolon, trailingNewline })

/-- A name that can be told from others in a list: it is not empty and holds no comma. -/
def IsSeparable (name : Text) : Prop := name ≠ [] ∧ CodePoint.ofChar ',' ∉ name

instance : DecidablePred IsSeparable := fun _ => inferInstanceAs (Decidable (_ ∧ _))

theorem listedIn_join {names : List Text} (h : ∀ name ∈ names, IsSeparable name) :
    listedIn (Text.join ", " names) = names := by
  cases names with
  | nil => rfl
  | cons name names =>
    have list : Text.join ", " (name :: names) ≠ [] := by
      have own := (h name List.mem_cons_self).1
      cases names with
      | nil => exact own
      | cons next rest => simp [Text.join, own]
    rw [listedIn, if_neg list]
    exact Text.splitAtPair_join (List.cons_ne_nil _ _) fun part member => (h part member).2

theorem join_listedIn (list : Text) : Text.join ", " (listedIn list) = list := by
  rw [listedIn]
  split_ifs with empty
  · rw [empty]
    rfl
  · exact Text.join_splitAtPair list

private def unterminated (names : List Text) : Text :=
  "export \x7b " ++ Text.join ", " names ++ " \x7d"

private theorem renderExport_eq (names : List Text) (options : RenderOptions) :
    renderExport names options = unterminated names ++
      (if options.semicolon then [CodePoint.ofChar ';'] else []) ++
      if options.trailingNewline then [CodePoint.ofChar '\n'] else [] := by
  obtain ⟨semicolon, trailingNewline⟩ := options
  cases semicolon <;> cases trailingNewline <;> rfl

private theorem endsWith_unterminated (names : List Text) (last : CodePoint) :
    (unterminated names).endsWith last = (CodePoint.ofChar '\x7d' == last) := by
  have shape : unterminated names =
      Text.ofString "export \x7b " ++ Text.join ", " names ++ [CodePoint.ofChar ' '] ++
        [CodePoint.ofChar '\x7d'] := by
    rw [unterminated, List.append_assoc _ _ [CodePoint.ofChar '\x7d']]
    rfl
  rw [shape, Text.endsWith_append_singleton]

private theorem chop_renderExport (names : List Text) (options : RenderOptions) :
    (renderExport names options).chop (CodePoint.ofChar '\n') =
      (unterminated names ++ if options.semicolon then [CodePoint.ofChar ';'] else [],
        options.trailingNewline) := by
  rw [renderExport_eq]
  apply Text.chop_append
  cases options.semicolon with
  | false =>
    rw [if_neg Bool.false_ne_true, List.append_nil, endsWith_unterminated]
    decide
  | true =>
    rw [if_pos rfl, Text.endsWith_append_singleton]
    decide

/-- Reading a statement gives back what it was rendered from. -/
theorem readExport?_renderExport {names : List Text} (h : ∀ name ∈ names, IsSeparable name)
    (options : RenderOptions) :
    readExport? (renderExport names options) = some (names, options) := by
  have plain : (unterminated names).endsWith (CodePoint.ofChar ';') = false := by
    rw [endsWith_unterminated]
    decide
  have behind : List.dropPrefix? (unterminated names) (Text.ofString "export \x7b ") =
      some (Text.join ", " names ++ Text.ofString " \x7d") := by
    rw [List.dropPrefix?_eq_some_iff]
    exact ⟨_, List.append_assoc _ _ _, BEq.rfl⟩
  have list : List.dropSuffix? (Text.join ", " names ++ Text.ofString " \x7d")
      (Text.ofString " \x7d") =
      some (Text.join ", " names) := by
    rw [List.dropSuffix?_eq_some_iff]
    exact ⟨_, rfl, BEq.rfl⟩
  rw [readExport?, chop_renderExport]
  simp only [Text.chop_append plain, behind, list, Option.bind_eq_bind, Option.bind_some,
    listedIn_join h]
  rfl

/-- Only rendered statements can be read. -/
theorem eq_renderExport_of_readExport? {t : Text} {names : List Text} {options : RenderOptions}
    (h : readExport? t = some (names, options)) : t = renderExport names options := by
  rw [readExport?] at h
  cases whole : t.chop (CodePoint.ofChar '\n') with
  | mk line trailingNewline =>
    cases ended : line.chop (CodePoint.ofChar ';') with
    | mk text semicolon =>
      simp only [whole, ended, Option.bind_eq_bind, Option.bind_eq_some_iff] at h
      obtain ⟨behind, opened, list, closed, same⟩ := h
      obtain ⟨keyword, rfl, isKeyword⟩ := List.dropPrefix?_eq_some_iff.mp opened
      obtain ⟨brace, rfl, isBrace⟩ := List.dropSuffix?_eq_some_iff.mp closed
      cases same
      rw [renderExport_eq, unterminated, join_listedIn, Text.eq_of_chop whole,
        Text.eq_of_chop ended, eq_of_beq isKeyword, eq_of_beq isBrace, ← List.append_assoc]

/-- Statements and what they are rendered from determine each other: a text is read as some
separable names and options exactly if it is the statement rendered from them, and so two statements
are the same only if their names, in order, and their options are. -/
theorem rendering_determines {names : List Text} (separable : ∀ name ∈ names, IsSeparable name)
    (options : RenderOptions) :
    (∀ t, readExport? t = some (names, options) ↔ t = renderExport names options) ∧
    ∀ names' options', (∀ name ∈ names', IsSeparable name) →
      renderExport names' options' = renderExport names options →
        names' = names ∧ options' = options := by
  refine ⟨fun t => ⟨eq_renderExport_of_readExport?, ?_⟩, ?_⟩
  · rintro rfl
    exact readExport?_renderExport separable options
  · intro names' options' separable' same
    have back := readExport?_renderExport separable' options'
    rw [same, readExport?_renderExport separable options] at back
    cases back
    exact ⟨rfl, rfl⟩

/-- Neither signs of the statement in names, nor repeated names, nor their absence are in the
way. -/
theorem rendering_determines_braces :
    (∀ name ∈ ([" \x7d;\n", "a", "a", " "] : List Text), IsSeparable name) ∧
    readExport? "export \x7b  \x7d;\n, a, a,   \x7d\n" =
      some (([" \x7d;\n", "a", "a", " "] : List Text), { trailingNewline := true }) ∧
    readExport? "export \x7b  \x7d;" = some ([], { semicolon := true }) ∧
    ∀ names options, (∀ name ∈ names, IsSeparable name) →
      renderExport names options = "export \x7b  \x7d;" →
        names = [] ∧ options = { semicolon := true } := by
  have separable : ∀ name ∈ ([" \x7d;\n", "a", "a", " "] : List Text), IsSeparable name := by decide
  have empty := rendering_determines (List.forall_mem_nil IsSeparable) { semicolon := true }
  refine ⟨separable, ?_, (empty.1 _).mpr rfl, empty.2⟩
  exact ((rendering_determines separable { trailingNewline := true }).1 _).mpr rfl

end ExportList
