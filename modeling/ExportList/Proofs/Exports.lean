import ExportList.Proofs.Analysis
import ExportList.Proofs.Document
import ExportList.Script.Pattern

/-!
The names under which a program exports, beside the local names that its export lists mention.  A
list can export a local under another name, and it can pass on names of another module.  So a name
that no list mentions may be taken as the name of an export all the same, and a declaration may be
mentioned although nothing exports it.
-/

set_option autoImplicit false

namespace ExportList

/-- The name under which a specifier exports, written as a name or as a string. -/
def exportName? (specifier : Value) : Option Text :=
  let exposed := specifier.field "exported"
  (exposed.field "name").text?.or (exposed.field "value").text?

/-- The names that a declaration binds, those inside patterns too. -/
def declarationNames (declaration : Value) : List Text :=
  if isVariableDeclaration declaration then
    (declaration.field "declarations").items.flatMap fun declarator =>
      Script.patternNames (declarator.field "id")
  else ((declaration.field "id").field "name").text?.toList

/-- The names under which a statement exports: those of its specifiers and those that the
declaration it holds binds. -/
def exportNamesOf (statement : Value) : List Text :=
  if statement.hasTag "ExportNamedDeclaration" then
    (statement.field "specifiers").items.filterMap exportName? ++
      declarationNames (statement.field "declaration")
  else []

/-- The names under which a program exports, in order and with repetitions. -/
def exportNames (statements : List Value) : List Text := statements.flatMap exportNamesOf

def identifierOf (name : Text) : Value :=
  .object [("type", .string "Identifier"), ("name", .text name)]

def exportNode (names : List Text) : Value :=
  .object
    [("type", .string "ExportNamedDeclaration"), ("declaration", .null),
      ("specifiers", .list (names.map fun name =>
        .object
          [("type", .string "ExportSpecifier"), ("local", identifierOf name),
            ("exported", identifierOf name)])),
      ("source", .null)]

theorem exportNamesOf_exportNode (names : List Text) :
    exportNamesOf (exportNode names) = names := by
  have tagged : (exportNode names).hasTag "ExportNamedDeclaration" = true := by
    simp [exportNode, Value.hasTag, Value.tag, Value.string, Value.isText]
  have bare : declarationNames ((exportNode names).field "declaration") = [] := by
    simp [exportNode, declarationNames, isVariableDeclaration, Value.hasTag, Value.tag,
      Value.isText, Value.text?]
  have each : (((exportNode names).field "specifiers").items).filterMap exportName? = names := by
    simp [exportNode, exportName?, identifierOf, Value.text?, List.filterMap_map, Function.comp_def]
  rw [exportNamesOf, if_pos tagged, bare, each, List.append_nil]

theorem exportNames_append_exportNode (statements : List Value) (names : List Text) :
    exportNames (statements ++ [exportNode names]) = exportNames statements ++ names := by
  simp [exportNames, exportNamesOf_exportNode]

/-- An export list exports something under a name that is not the local of that name. -/
def Renames (statement : Value) (name : Text) : Prop :=
  statement.hasTag "ExportNamedDeclaration" ∧ (statement.field "declaration").isNull ∧
    ∃ specifier ∈ (statement.field "specifiers").items,
      exportName? specifier = some name ∧ ¬IsIdentifier (specifier.field "local") name

/-- A statement that exports a declaration in place exports under a name. -/
def ExportsInPlace (statement : Value) (name : Text) : Prop :=
  ¬(statement.field "declaration").isNull ∧ name ∈ exportNamesOf statement

private theorem declarationNames_of_isNull {declaration : Value} (h : declaration.isNull) :
    declarationNames declaration = [] := by
  cases declaration with
  | null => rfl
  | _ => cases h

/-- A statement that does not list a name exports under it by renaming, or in place. -/
theorem mem_exportNamesOf_iff {statement : Value} {name : Text} (unlisted : ¬Lists statement name) :
    name ∈ exportNamesOf statement ↔ Renames statement name ∨ ExportsInPlace statement name := by
  by_cases bare : (statement.field "declaration").isNull
  · have inPlace : ¬ExportsInPlace statement name := fun h => h.1 bare
    rw [or_iff_left inPlace]
    by_cases tagged : statement.hasTag "ExportNamedDeclaration"
    · rw [exportNamesOf, if_pos tagged, declarationNames_of_isNull bare, List.append_nil,
        List.mem_filterMap]
      constructor
      · rintro ⟨specifier, member, exposed⟩
        refine ⟨tagged, bare, specifier, member, exposed, ?_⟩
        intro same
        exact unlisted ⟨tagged, bare, specifier, member, same⟩
      · rintro ⟨_, _, specifier, member, exposed, _⟩
        exact ⟨specifier, member, exposed⟩
    · rw [exportNamesOf, if_neg tagged]
      constructor
      · intro none
        cases none
      · intro renames
        exact absurd renames.1 tagged
  · have renames : ¬Renames statement name := fun h => bare h.2.1
    rw [or_iff_right renames, ExportsInPlace, and_iff_right bare]

/-- A program has names that are missing, and exports under distinct names.  Then a missing name is
taken exactly if a list gives it to something else or an export in place has it, and with the
missing names exported as well all names stay distinct exactly if none of them is taken. -/
theorem nodup_exportNames_append_missing_iff {statements : List Value} {missing : List Text}
    (names : missingNames statements = .ok missing) (distinct : (exportNames statements).Nodup) :
    (∀ name ∈ missing, name ∈ exportNames statements ↔
      (∃ s ∈ statements, Renames s name) ∨ ∃ s ∈ statements, ExportsInPlace s name) ∧
    ((exportNames (statements ++ [exportNode missing])).Nodup ↔
      ∀ name ∈ missing,
        ¬((∃ s ∈ statements, Renames s name) ∨ ∃ s ∈ statements, ExportsInPlace s name)) := by
  have taken : ∀ name ∈ missing, name ∈ exportNames statements ↔
      (∃ s ∈ statements, Renames s name) ∨ ∃ s ∈ statements, ExportsInPlace s name := by
    intro name member
    have unlisted : ∀ s ∈ statements, ¬Lists s name := by
      intro s hs lists
      exact ((mem_of_missingNames_ok names).mp member).2 ⟨s, hs, lists⟩
    rw [exportNames, List.mem_flatMap, ← exists_or]
    refine exists_congr fun s => ?_
    rw [← and_or_left]
    exact and_congr_right fun hs => mem_exportNamesOf_iff (unlisted s hs)
  refine ⟨taken, ?_⟩
  have apart : (∀ x ∈ exportNames statements, ∀ y ∈ missing, x ≠ y) ↔
      ∀ name ∈ missing, name ∉ exportNames statements :=
    ⟨fun h name member taken => h name taken name member rfl,
      fun h _ taken name member same => h name member (same ▸ taken)⟩
  rw [exportNames_append_exportNode, List.nodup_append, and_iff_right distinct,
    and_iff_right (nodup_of_missingNames_ok names), apart]
  exact forall₂_congr fun name member => not_congr (taken name member)

/-- The program `let a, b; export { b as a }`. -/
def renamedExport : List Value :=
  [.object
      [("type", .string "VariableDeclaration"),
        ("declarations", .list
          [.object [("type", .string "VariableDeclarator"), ("id", identifierOf "a")],
            .object [("type", .string "VariableDeclarator"), ("id", identifierOf "b")]])],
    .object
      [("type", .string "ExportNamedDeclaration"),
        ("specifiers", .list
          [.object
            [("type", .string "ExportSpecifier"), ("exported", identifierOf "a"),
              ("local", identifierOf "b")]])]]

private theorem missingNames_renamedExport : missingNames renamedExport = .ok ["a"] := by rfl

private theorem nodup_renamedExport : (exportNames renamedExport).Nodup := by decide

/-- Of `let a, b; export { b as a }` the name `a` is missing, and exported once more it is the name
of two exports. -/
theorem missing_name_taken :
    ¬∀ (statements : List Value) (missing : List Text), missingNames statements = .ok missing →
      (exportNames statements).Nodup →
        (∀ name ∈ missing, name ∉ exportNames statements) ∧
          (exportNames (statements ++ [exportNode missing])).Nodup := by
  intro h
  have twice := (h renamedExport ["a"] missingNames_renamedExport nodup_renamedExport).2
  revert twice
  decide

theorem nodup_exportNames_append_missing_renamed :
    missingNames renamedExport = .ok ["a"] ∧ (exportNames renamedExport).Nodup ∧
      ¬(exportNames (renamedExport ++ [exportNode ["a"]])).Nodup := by
  refine ⟨missingNames_renamedExport, nodup_renamedExport, ?_⟩
  intro nodup
  obtain ⟨taken, free⟩ :=
    nodup_exportNames_append_missing_iff missingNames_renamedExport nodup_renamedExport
  exact free.mp nodup "a" (by decide) ((taken "a" (by decide)).mp (by decide))

/-- An export list of the program's own locals mentions a name. -/
def ListsOwn (statement : Value) (name : Text) : Prop :=
  Lists statement name ∧ (statement.field "source").isNull

/-- A declared name that is not missing is mentioned by an export list, and it is exported by none
exactly if all lists that mention it pass on the name of another module. -/
theorem lost_iff_listed_elsewhere {statements : List Value} {missing : List Text} {name : Text}
    (names : missingNames statements = .ok missing)
    (bound : ∃ s ∈ statements, isExportableStatement s ∧ Binds s name) :
    (name ∉ missing ↔ ∃ s ∈ statements, Lists s name) ∧
    ((name ∉ missing ∧ ¬∃ s ∈ statements, ListsOwn s name) ↔
      (∃ s ∈ statements, Lists s name) ∧
        ∀ s ∈ statements, Lists s name → ¬(s.field "source").isNull) := by
  have listed : name ∉ missing ↔ ∃ s ∈ statements, Lists s name := by
    rw [mem_of_missingNames_ok names, and_iff_right bound, not_not]
  refine ⟨listed, ?_⟩
  rw [listed]
  refine and_congr_right fun _ => ?_
  constructor
  · intro none s hs lists own
    exact none ⟨s, hs, lists, own⟩
  · rintro elsewhere ⟨s, hs, lists, own⟩
    exact elsewhere s hs lists own

/-- The program `let a; export { a as k } from "m"`. -/
def passedOnExport : List Value :=
  [.object
      [("type", .string "VariableDeclaration"),
        ("declarations", .list
          [.object [("type", .string "VariableDeclarator"), ("id", identifierOf "a")]])],
    .object
      [("type", .string "ExportNamedDeclaration"),
        ("specifiers", .list
          [.object
            [("type", .string "ExportSpecifier"), ("exported", identifierOf "k"),
              ("local", identifierOf "a")]]),
        ("source", .object [("type", .string "Literal"), ("value", .string "m")])]]

private theorem missingNames_passedOnExport : missingNames passedOnExport = .ok [] := by rfl

private theorem binds_passedOnExport :
    ∃ s ∈ passedOnExport, isExportableStatement s ∧ Binds s "a" := by
  refine ⟨_, List.mem_cons_self, by decide, ?_⟩
  exact ⟨_, List.mem_cons_self, by decide, rfl⟩

private theorem not_listsOwn_passedOnExport : ¬∃ s ∈ passedOnExport, ListsOwn s "a" := by
  rintro ⟨s, hs, ⟨tagged, _, _⟩, own⟩
  simp only [passedOnExport, List.mem_cons, List.not_mem_nil, or_false] at hs
  rcases hs with rfl | rfl
  · revert tagged
    decide
  · revert own
    decide

/-- In `let a; export { a as k } from "m"` nothing exports `a`, and still it is not missing. -/
theorem declaration_lost :
    ¬∀ (statements : List Value) (missing : List Text) (name : Text),
      missingNames statements = .ok missing →
        (∃ s ∈ statements, isExportableStatement s ∧ Binds s name) → name ∉ missing →
          ∃ s ∈ statements, ListsOwn s name := by
  intro h
  exact not_listsOwn_passedOnExport
    (h passedOnExport [] "a" missingNames_passedOnExport binds_passedOnExport (by decide))

theorem lost_iff_listed_elsewhere_passedOn :
    missingNames passedOnExport = .ok [] ∧
      (∃ s ∈ passedOnExport, isExportableStatement s ∧ Binds s "a") ∧
        ∀ s ∈ passedOnExport, Lists s "a" → ¬(s.field "source").isNull := by
  refine ⟨missingNames_passedOnExport, binds_passedOnExport, ?_⟩
  have lost := (lost_iff_listed_elsewhere missingNames_passedOnExport binds_passedOnExport).2
  exact (lost.mp ⟨by decide, not_listsOwn_passedOnExport⟩).2

end ExportList
