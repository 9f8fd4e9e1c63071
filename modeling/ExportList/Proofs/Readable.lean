import ExportList.Proofs.Effects
import ExportList.Proofs.Script.Declared
import ExportList.Proofs.Script.Program
import ExportList.Proofs.Source
import ExportList.Proofs.Utf8

/-!
A script document stays readable when the missing names are written back to it.  Main statement: if
a document is a module and its missing names need no escapes, then it can be read again with the
export of these names behind it.  Both conditions are needed: what only the script grammar reads,
the module grammar does not read with an export behind it, and a name that was written with an
escape is not written back so.
-/

set_option autoImplicit false

namespace ExportList

theorem CodePoint.toChar?_ofChar (c : Char) : (CodePoint.ofChar c).toChar? = some c := by
  have val : (CodePoint.ofChar c).val = c.toNat := rfl
  rw [CodePoint.toChar?, CodePoint.isSurrogate_ofChar, if_neg Bool.false_ne_true, val,
    Char.ofNat_toNat]

theorem CodePoint.exists_ofChar {c : CodePoint} (h : c.isSurrogate = false) :
    ∃ d : Char, c = CodePoint.ofChar d := by
  have valid : c.val.isValidChar := by
    simp only [CodePoint.isSurrogate, Bool.and_eq_false_iff, decide_eq_false_iff_not] at h
    have lt := c.isLt
    simp only [Nat.isValidChar]
    omega
  refine ⟨Char.ofNatAux c.val valid, Fin.ext ?_⟩
  rfl

theorem Text.scalars?_ofChars (cs : List Char) : (Text.ofChars cs).scalars? = some cs := by
  induction cs with
  | nil => rfl
  | cons c cs ih =>
    rw [Text.scalars?, Text.ofChars] at ih
    simp [Text.scalars?, Text.ofChars, CodePoint.toChar?_ofChar, ih]

theorem Text.ofChars_append (cs ds : List Char) :
    Text.ofChars (cs ++ ds) = Text.ofChars cs ++ Text.ofChars ds :=
  List.map_append

theorem Utf8.exists_ofChars_of_encode? {t : Text} {bytes : Bytes}
    (h : Utf8.encode? t = some bytes) :
    ∃ cs, t = Text.ofChars cs := by
  induction t generalizing bytes with
  | nil => exact ⟨[], rfl⟩
  | cons c t ih =>
    obtain ⟨plain, rest, encoded, _⟩ := encode?_cons_eq_some_iff.mp h
    obtain ⟨d, rfl⟩ := CodePoint.exists_ofChar plain
    obtain ⟨cs, rfl⟩ := ih encoded
    exact ⟨d :: cs, rfl⟩

namespace Script

theorem not_surrogate_of_isNamePart {n : Nat} (h : isNamePart n = true) :
    n < 0xD800 ∨ 0xE000 ≤ n := by
  have apart : ∀ range ∈ nameStartRanges ++ nameContinueRanges,
      range.2 < 0xD800 ∨ 0xE000 ≤ range.1 := by
    decide +kernel
  have within : ∀ ranges, (∀ range ∈ ranges, range ∈ nameStartRanges ++ nameContinueRanges) →
      inRanges ranges n = true → n < 0xD800 ∨ 0xE000 ≤ n := by
    intro ranges sub is
    obtain ⟨range, mem, is⟩ := List.any_eq_true.mp is
    simp only [Bool.and_eq_true, decide_eq_true_eq] at is
    have := apart range (sub range mem)
    omega
  unfold isNamePart at h
  split_ifs at h with small
  · omega
  · rcases Bool.or_eq_true_iff.mp h with is | is
    · exact within _ (fun _ => List.mem_append_left _) is
    · exact within _ (fun _ => List.mem_append_right _) is

theorem isNamePart_of_isNameStart {n : Nat} (h : isNameStart n = true) : isNamePart n = true := by
  unfold isNamePart
  split_ifs with small
  · simp [h]
  · unfold isNameStart at h
    rw [if_neg small] at h
    simp [h]

/-- A name that is written as it is, without escapes. -/
def IsPlain (name : Text) : Prop := isPlainName (name.map Fin.val) = true

theorem IsPlain.exists_chars {name : Text} (h : IsPlain name) :
    ∃ cs, name = Text.ofChars cs ∧ isPlainName (cs.map Char.toNat) = true := by
  have parts : ∀ c ∈ name, isNamePart c.val = true := by
    obtain _ | ⟨c, rest⟩ := name
    · nofun
    simp only [IsPlain, isPlainName, List.map_cons, Bool.and_eq_true, List.all_map,
      List.all_eq_true, Function.comp_apply] at h
    exact List.forall_mem_cons.mpr ⟨isNamePart_of_isNameStart h.1.1, fun d mem => (h.2 d mem).1⟩
  have chars : ∀ t : Text, (∀ c ∈ t, isNamePart c.val = true) → ∃ cs, t = Text.ofChars cs := by
    intro t
    induction t with
    | nil => exact fun _ => ⟨[], rfl⟩
    | cons c t ih =>
      intro parts
      obtain ⟨part, others⟩ := List.forall_mem_cons.mp parts
      have plain : c.isSurrogate = false := by
        have apart := not_surrogate_of_isNamePart part
        simp only [CodePoint.isSurrogate, Bool.and_eq_false_iff, decide_eq_false_iff_not]
        omega
      obtain ⟨d, rfl⟩ := CodePoint.exists_ofChar plain
      obtain ⟨cs, rfl⟩ := ih others
      exact ⟨d :: cs, rfl⟩
  obtain ⟨cs, rfl⟩ := chars name parts
  have same : (Text.ofChars cs).map Fin.val = cs.map Char.toNat := by
    rw [Text.ofChars, List.map_map]
    rfl
  exact ⟨cs, rfl, same ▸ h⟩

/-- A program says which grammar it was read with. -/
theorem sourceType_of_parseAs {isModule : Bool} {source : List Char} {document : Value}
    (ok : parseAs isModule source = .ok document) :
    document.field "sourceType" = .string (if isModule then "module" else "script") := by
  obtain ⟨s, _, ok⟩ := bind_eq_ok_iff.mp ok
  obtain ⟨r, read, done⟩ := bind_eq_ok_iff.mp ok
  cases done
  have body : Yields (programBody (grammar (source.length + 2)) isModule) fun document =>
      document.field "sourceType" = .string (if isModule then "module" else "script") :=
    .bind fun _ => .bind fun _ => .bind fun _ => .bind fun _ => .finish fun _ => by
      simp [node, Value.isNull, Value.string, List.filter]
  have whole : Yields (program (grammar (source.length + 2)) isModule) fun document =>
      document.field "sourceType" = .string (if isModule then "module" else "script") :=
    .ite (fun _ => .bind fun _ => body) fun _ => body
  exact whole s r read

theorem parseAs_true_of_parse {source : List Char} {document : Value}
    (ok : parse source = .ok document) (isModule : document.field "sourceType" = .text "module") :
    parseAs true source = .ok document := by
  unfold parse at ok
  split at ok
  · rename_i program read
    cases ok
    exact read
  · split at ok
    · rename_i program read
      cases ok
      rw [sourceType_of_parseAs read] at isModule
      simp [Value.string] at isModule
    · cases ok

theorem parse_of_parseAs_true {source : List Char} {document : Value}
    (ok : parseAs true source = .ok document) : parse source = .ok document := by
  rw [parse, ok]

/-- A document without text is a program without statements. -/
theorem parseAs_true_nil {document : Value} (ok : parseAs true [] = .ok document) :
    (document.field "body").items = [] := by
  have empty : ∃ program, parseAs true [] = .ok program ∧ (program.field "body").items = [] :=
    ⟨_, rfl, rfl⟩
  obtain ⟨program, read, none⟩ := empty
  cases read.symm.trans ok
  exact none

theorem join_ofChars (first : List Char) (names : List (List Char)) (tail : List Char) :
    Text.join (Text.ofString ", ") ((first :: names).map Text.ofChars) ++
      (Text.ofString " \x7d" ++ Text.ofChars tail) =
      Text.ofChars (first ++ afterName names tail) := by
  induction names generalizing first with
  | nil =>
    rw [Text.ofChars_append]
    rfl
  | cons name names ih =>
    have next := ih name
    simp only [List.map_cons, Text.join, List.append_assoc] at next ⊢
    rw [next, afterName, Text.ofChars_append first]
    rfl

/-- The line of an export of some names, as characters. -/
theorem statementLine_ofChars (existing : Text) (first : List Char) (names : List (List Char))
    (semicolon : Bool) :
    ∃ tail,
      statementLine existing (renderExport ((first :: names).map Text.ofChars) { semicolon }) =
        Text.ofChars tail ∧
      Follows tail (exportWord ++ ' ' :: listText first names semicolon) ∧
      (tail.head? = some '\n' ∨ existing = [] ∨ existing.endsWith (CodePoint.ofChar '\n')) := by
  have line : renderExport ((first :: names).map Text.ofChars) { semicolon } ++ Text.ofString "\n" =
      Text.ofChars (exportWord ++ ' ' :: listText first names semicolon) := by
    have close : Text.ofString (if semicolon then ";" else "") ++ Text.ofString "\n" =
        Text.ofChars (closing semicolon) := by
      cases semicolon <;> rfl
    have joined := join_ofChars first names (closing semicolon)
    rw [← close] at joined
    simp only [renderExport, Bool.false_eq_true, if_false, List.append_assoc]
    rw [show Text.ofString "" ++ Text.ofString "\n" = Text.ofString "\n" from rfl, joined]
    rfl
  rw [statementLine_renderExport _ _ _ rfl, List.append_assoc, line]
  split_ifs with ended
  · refine ⟨_, rfl, ⟨.inl rfl, rfl⟩, .inr ?_⟩
    simpa using ended
  · exact ⟨'\n' :: _, rfl, ⟨.inr rfl, rfl⟩, .inl rfl⟩

end Script

theorem parseScript_ofChars_ok {cs : List Char} {program : Value} (sourceName : Text)
    (read : Script.parse cs = .ok program) :
    ∃ parsed, parseScript (Text.ofChars cs) sourceName = .ok parsed ∧ parsed.program = program := by
  obtain ⟨bytes, encoded⟩ := Utf8.exists_encode?_iff.mpr (Text.isScalar_ofChars cs)
  refine ⟨.ofProgram .javascript sourceName bytes program, ?_, rfl⟩
  refine parseScript_eq_ok_iff.mpr ⟨bytes, program, encoded, ?_, rfl⟩
  rw [Text.scalars?_ofChars, Option.getD_some, read]

theorem exists_chars_of_parseScript {source sourceName : Text} {parsed : Parsed}
    (read : parseScript source sourceName = .ok parsed) :
    ∃ cs, source = Text.ofChars cs ∧ Script.parse cs = .ok parsed.program := by
  obtain ⟨bytes, program, encoded, accepted, rfl⟩ := parseScript_eq_ok_iff.mp read
  obtain ⟨cs, rfl⟩ := Utf8.exists_ofChars_of_encode? encoded
  rw [Text.scalars?_ofChars, Option.getD_some] at accepted
  exact ⟨cs, rfl, accepted⟩

/-- The names that are missing from a module can stand in an export list, if they need no
escapes. -/
theorem exists_listable {cs : List Char} {program : Value} {missing : List Text}
    (read : Script.parseAs true cs = .ok program)
    (names : missingNames (program.field "body").items = .ok missing)
    (plain : ∀ name ∈ missing, Script.IsPlain name) :
    ∃ listed : List (List Char),
      missing = listed.map Text.ofChars ∧ ∀ name ∈ listed, Script.Listable name := by
  have each : ∀ name ∈ missing, ∃ cs, name = Text.ofChars cs ∧ Script.Listable cs := by
    intro name mem
    obtain ⟨cs, rfl, isPlain⟩ := (plain name mem).exists_chars
    refine ⟨cs, rfl, isPlain, ?_⟩
    intro same
    obtain ⟨⟨statement, inside, isExportable, binds⟩, _⟩ := (mem_of_missingNames_ok names).mp mem
    rw [same] at binds
    exact Script.tame_of_parseAs read statement inside isExportable binds
  clear names plain
  induction missing with
  | nil => exact ⟨[], rfl, nofun⟩
  | cons name missing ih =>
    obtain ⟨⟨cs, rfl, listable⟩, others⟩ := List.forall_mem_cons.mp each
    obtain ⟨listed, rfl, areListable⟩ := ih others
    exact ⟨cs :: listed, rfl, List.forall_mem_cons.mpr ⟨listable, areListable⟩⟩

theorem getLast?_of_endsWith_ofChars {cs : List Char}
    (h : (Text.ofChars cs).endsWith (CodePoint.ofChar '\n')) : cs.getLast? = some '\n' := by
  rw [Text.endsWith, Text.ofChars, List.getLast?_map, beq_iff_eq, Option.map_eq_some_iff] at h
  obtain ⟨last, isLast, same⟩ := h
  rw [isLast, CodePoint.ofChar_injective same]

/-- A module whose missing names need no escapes can be read again with their export behind it. -/
theorem parseScript_append_export {source sourceName : Text} {parsed : Parsed} {missing : List Text}
    (semicolon : Bool) (read : parseScript source sourceName = .ok parsed)
    (isModule : parsed.program.field "sourceType" = .text "module")
    (names : missingNames parsed.statements = .ok missing) (some : missing ≠ [])
    (plain : ∀ name ∈ missing, Script.IsPlain name) :
    ∃ parsed', parseScript (source ++ statementLine source (renderExport missing { semicolon }))
      sourceName =
      .ok parsed' := by
  obtain ⟨cs, rfl, accepted⟩ := exists_chars_of_parseScript read
  have read := Script.parseAs_true_of_parse accepted isModule
  obtain ⟨listed, rfl, listable⟩ := exists_listable read names plain
  obtain _ | ⟨first, others⟩ := listed
  · exact absurd rfl some
  have nonempty : cs ≠ [] := by
    rintro rfl
    rw [Parsed.statements, Script.parseAs_true_nil read] at names
    obtain ⟨⟨statement, inside, _⟩, _⟩ := (mem_of_missingNames_ok names).mp List.mem_cons_self
    cases inside
  obtain ⟨tail, line, follows, starts⟩ :=
    Script.statementLine_ofChars (Text.ofChars cs) first others semicolon
  -- A new line is begun, or the document ends with one already.
  have closed : Script.Sealed tail cs := by
    rcases starts with feed | empty | ended
    · exact .inl feed
    · exact absurd (List.map_eq_nil_iff.mp empty) nonempty
    · exact .inr (getLast?_of_endsWith_ofChars ended)
  obtain ⟨program, again⟩ := Script.parseAs_append_list nonempty closed follows listable read
  rw [line, ← Text.ofChars_append]
  obtain ⟨parsed', reread, _⟩ :=
    parseScript_ofChars_ok sourceName (Script.parse_of_parseAs_true again)
  exact ⟨parsed', reread⟩

def halfExported : List Char := "let a, b\nexport \x7b b \x7d".toList

theorem parseScript_append_export_variable :
    ∃ parsed', parseScript (Text.ofChars halfExported ++
      statementLine (Text.ofChars halfExported) (renderExport ["a"] { semicolon := true })) "m.js" =
        .ok parsed' := by
  have evaluated : ((Script.parse halfExported).toOption.map fun program =>
      ((program.field "sourceType").text?, (missingNames (program.field "body").items).toOption)) =
        some (some (Text.ofString "module"), some [Text.ofString "a"]) := by decide +kernel
  obtain ⟨program, accepted, found⟩ := Option.map_eq_some_iff.mp evaluated
  obtain ⟨isModule, names⟩ := Prod.mk.inj found
  obtain ⟨parsed, read, rfl⟩ := parseScript_ofChars_ok "m.js" (toOption_eq_some_iff.mp accepted)
  exact parseScript_append_export true read (Value.text?_eq_some_iff.mp isModule)
    (toOption_eq_some_iff.mp names) (by decide) (by unfold Script.IsPlain; decide)

/-- A variable with an octal number, which only the script grammar has. -/
def octalVariable : List Char := "var a = 017\n".toList

theorem octalVariable_unreadable_with_export :
    (∃ parsed, parseScript (Text.ofChars octalVariable) "a.js" = .ok parsed ∧
      missingNames parsed.statements = .ok ["a"]) ∧
    ∃ e, parseScript (Text.ofChars octalVariable ++
      statementLine (Text.ofChars octalVariable) (renderExport ["a"] {})) "a.js" = .error e := by
  have evaluated : ((Script.parse octalVariable).toOption.map fun program =>
      (missingNames (program.field "body").items).toOption) = some (some [Text.ofString "a"]) := by
    decide +kernel
  obtain ⟨program, accepted, names⟩ := Option.map_eq_some_iff.mp evaluated
  obtain ⟨parsed, read, rfl⟩ := parseScript_ofChars_ok "a.js" (toOption_eq_some_iff.mp accepted)
  refine ⟨⟨parsed, read, toOption_eq_some_iff.mp names⟩, ?_⟩
  have refused : (parseScript (Text.ofChars octalVariable ++
      statementLine (Text.ofChars octalVariable) (renderExport ["a"] {}))
        "a.js").toOption.isNone := by
    decide +kernel
  cases again : parseScript (Text.ofChars octalVariable ++
      statementLine (Text.ofChars octalVariable) (renderExport ["a"] {})) "a.js" with
  | error e => exact ⟨e, rfl⟩
  | ok parsed' =>
    rw [again] at refused
    cases refused

end ExportList
