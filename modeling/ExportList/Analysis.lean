import ExportList.Declaration

/-!
What the top-level statements of a program declare and export: the exportable declarations, the
names that export lists mention, and the names that are still missing from them.
-/

set_option autoImplicit false

namespace ExportList

inductive SourceType where
  | module
  | script
deriving DecidableEq, Repr

def SourceType.text : SourceType → Text
  | .module => "module"
  | .script => "script"

def moduleTags : List Text :=
  ["ImportDeclaration", "TSImportEqualsDeclaration", "ExportNamedDeclaration",
    "ExportDefaultDeclaration", "ExportAllDeclaration", "TSExportAssignment",
    "TSNamespaceExportDeclaration"]

def hasTagAmong (tags : List Text) (statement : Value) : Bool :=
  match statement.tag with
  | .text tag => tags.contains tag
  | _ => false

/-- A program is a module as soon as one statement imports or exports. -/
def sourceType (statements : List Value) : SourceType :=
  if statements.any (hasTagAmong moduleTags) then .module else .script

def isExportableStatement (statement : Value) : Bool := hasTagAmong exportableTags statement

def exportableStatements (statements : List Value) : List Value :=
  statements.filter isExportableStatement

/-- Whether a statement is a list of exported names; a declaration exported in place is not. -/
def isExportList (statement : Value) : Bool :=
  statement.hasTag "ExportNamedDeclaration" && (statement.field "declaration").isNull &&
    !(statement.field "specifiers").items.isEmpty

def exportLists (statements : List Value) : List Value := statements.filter isExportList

def specifierNames (specifier : Value) : Except NameError (List Text) :=
  let inner := specifier.field "local"
  if inner.hasTag "Identifier" then (identifierName inner).map fun name => [name] else .ok []

/-- The local names that an export list mentions, in order. -/
def listedNames (statement : Value) : Except NameError (List Text) :=
  ((statement.field "specifiers").items.mapM specifierNames).map List.flatten

/-- The local names that the export lists mention, each once. -/
def exportedNames (statements : List Value) : Except NameError (List Text) :=
  ((exportLists statements).mapM listedNames).map fun names => names.flatten.eraseDups

def exportableNames (statements : List Value) : Except NameError (List Text) :=
  boundNamesOfAll (exportableStatements statements)

/-- The names that could be exported and that no export list mentions. -/
def missingNames (statements : List Value) : Except NameError (List Text) := do
  let exported ← exportedNames statements
  let names ← exportableNames statements
  return names.filter fun name => !exported.contains name

end ExportList
