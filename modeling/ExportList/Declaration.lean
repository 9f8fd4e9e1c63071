import ExportList.Document

/-!
The names that a declaration binds.  A variable declaration binds one name for each of its
declarators, any other declaration the name of its `id`; a declarator that takes a value apart and a
declaration without a name are errors.
-/

set_option autoImplicit false

namespace ExportList

def exportableTags : List Text :=
  ["FunctionDeclaration", "VariableDeclaration", "ClassDeclaration", "DeclareClass",
    "DeclareFunction", "DeclareInterface", "DeclareTypeAlias", "DeclareOpaqueType",
    "DeclareVariable", "InterfaceDeclaration", "OpaqueType", "TypeAlias", "EnumDeclaration",
    "TSDeclareFunction", "TSInterfaceDeclaration", "TSTypeAliasDeclaration", "TSEnumDeclaration"]

def isExportable (tag : Text) : Bool := exportableTags.contains tag

/-- Where a node starts, as it stands at the end of messages; nothing if it does not say. -/
def locationText (node : Value) : Text :=
  let start := (node.field "loc").field "start"
  match start.field "line", start.field "column" with
  | .null, _ => []
  | _, .null => []
  | line, column => " (line " ++ line.display ++ ", column " ++ column.display ++ ")"

/-- Why a node's names cannot be told. -/
inductive NameError where
  /-- A declarator binds something other than one identifier. -/
  | unsupportedPattern (declarator : Value)
  /-- A declaration has no name. -/
  | missingIdentifier (declaration : Value)
  /-- An identifier has no `name` field. -/
  | nameless
deriving Repr

def NameError.message : NameError → Text
  | .unsupportedPattern declarator =>
    "Unsupported binding pattern: " ++ (declarator.field "id").tag.display ++
      locationText declarator
  | .missingIdentifier declaration =>
    declaration.tag.display ++ " has no identifier." ++ locationText declaration
  | .nameless => "'name'"

def identifierName (identifier : Value) : Except NameError Text :=
  match identifier.field "name" with
  | .text name => .ok name
  | _ => .error .nameless

def declaratorName (declarator : Value) : Except NameError Text :=
  let target := declarator.field "id"
  if target.hasTag "Identifier" then identifierName target
  else .error (.unsupportedPattern declarator)

def isVariableDeclaration (node : Value) : Bool := node.hasTag "VariableDeclaration"

def boundNames (node : Value) : Except NameError (List Text) :=
  if isVariableDeclaration node then (node.field "declarations").items.mapM declaratorName
  else
    match (node.field "id").field "name" with
    | .text name => .ok [name]
    | _ => .error (.missingIdentifier node)

/-- The names bound by several declarations, each once, in the order of their first binding. -/
def boundNamesOfAll (nodes : List Value) : Except NameError (List Text) :=
  (nodes.mapM boundNames).map fun names => names.flatten.eraseDups

end ExportList
