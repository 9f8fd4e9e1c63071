import ExportList.Concrete.Tree
import ExportList.Document
import ExportList.Text.Case

/-!
The program document of a concrete syntax tree.  Only the top-level statements are described, each
by its tag, its place and the parts that decide what it declares or exports; bodies are left out.
-/

set_option autoImplicit false

namespace ExportList.Concrete

/-- The tag of a grammar name: its parts capitalized and joined. -/
def camel (kind : Text) : Text := (Text.splitAt (CodePoint.ofChar '_') kind).flatMap Text.capitalize

def skippedKinds : List Text := ["comment", "hash_bang_line", "html_comment"]

def Tree.isSkipped (t : Tree) : Bool := skippedKinds.contains t.kind

/-- The statements whose documents have more than tag and place. -/
inductive Form where
  | function (generator : Bool)
  | signature
  | classDeclaration (isAbstract : Bool)
  | interface
  | typeAlias
  | enumeration
  | variableList
  | moduleDeclaration
  | ambient
  | expression
  | importStatement
  | importAlias
  | exportStatement
  | other
deriving DecidableEq, Repr

def Form.table : List (Text × Form) :=
  [("function_declaration", .function false),
    ("generator_function_declaration", .function true),
    ("function_signature", .signature),
    ("class_declaration", .classDeclaration false),
    ("abstract_class_declaration", .classDeclaration true),
    ("interface_declaration", .interface),
    ("type_alias_declaration", .typeAlias),
    ("enum_declaration", .enumeration),
    ("lexical_declaration", .variableList),
    ("variable_declaration", .variableList),
    ("module", .moduleDeclaration),
    ("internal_module", .moduleDeclaration),
    ("ambient_declaration", .ambient),
    ("expression_statement", .expression),
    ("import_statement", .importStatement),
    ("import_alias", .importAlias),
    ("export_statement", .exportStatement)]

def Form.ofKind (kind : Text) : Form :=
  ((Form.table.find? fun entry => entry.1 = kind).map Prod.snd).getD .other

def position (line column : Nat) : Value :=
  .object [("line", .nat line), ("column", .nat column)]

def base (source : Bytes) (label : Label) (tag : Text) : Fields :=
  [("type", .text tag),
    ("loc", .object
      [("start", position (label.start.row + 1) (label.start.characterColumn source)),
        ("end", position (label.stop.row + 1) (label.stop.characterColumn source))]),
    ("range", .list [.nat label.start.offset, .nat label.stop.offset])]

/-- The document of a node: tag and place, then its further fields. -/
def document (source : Bytes) (label : Label) (tag : Text) (fields : Fields) : Value :=
  .object (base source label tag ++ fields)

def Tree.text (source : Bytes) (t : Tree) : Except Utf8.Fault Text := Utf8.decode (t.bytes source)

/-- The document of a name; a quoted name is a string. -/
def identifier (source : Bytes) (t : Tree) : Except Utf8.Fault Value := do
  let name ← t.text source
  if t.isKind "string" then
    return document source t.label "StringLiteral" [("value", .text (name.drop 1).dropLast)]
  else
    return document source t.label "Identifier" [("name", .text name)]

def identifier? (source : Bytes) : Option Tree → Except Utf8.Fault Value
  | none => .ok .null
  | some t => identifier source t

def bindingTarget (source : Bytes) : Option Tree → Except Utf8.Fault Value
  | none => .ok .null
  | some t =>
    if t.isKind "identifier" then identifier source t
    else .ok (document source t.label (camel t.kind) [])

def named (source : Bytes) (t : Tree) (tag : Text) (extra : Fields) : Except Utf8.Fault Value := do
  let id ← identifier? source (t.child? "name")
  return document source t.label tag (("id", id) :: extra)

def declarator (source : Bytes) (t : Tree) : Except Utf8.Fault Value := do
  let id ← bindingTarget source (t.child? "name")
  return document source t.label "VariableDeclarator" [("id", id)]

def variableList (source : Bytes) (t : Tree) : Except Utf8.Fault Value := do
  -- The first child is the keyword, unless a comment stands before it.
  let kind ← match t.children with
    | [] => .ok (Text.ofString "var")
    | first :: _ => first.text source
  let declarators ← (t.namedChildren.filter fun child => child.isKind "variable_declarator").mapM
    (declarator source)
  return document source t.label "VariableDeclaration"
    [("kind", .text kind), ("declarations", .list declarators)]

/-- The word `type` for a statement or specifier with that token, else `value`. -/
def exportKind (t : Tree) : Value := .string (if t.tokens.contains "type" then "type" else "value")

def importStatement (source : Bytes) (t : Tree) : Except Utf8.Fault Value :=
  if t.namedChildren.any fun child => child.isKind "import_require_clause" then
    .ok (document source t.label "TSImportEqualsDeclaration" [])
  else do
    let origin ← identifier? source (t.child? "source")
    return document source t.label "ImportDeclaration"
      [("importKind", exportKind t), ("source", origin)]

def exportSpecifier (source : Bytes) (t : Tree) : Except Utf8.Fault Value := do
  let name := t.child? "name"
  -- Without an alias a name is exported under itself.
  let exposed := (t.child? "alias").or name
  let inner ← identifier? source name
  let outer ← identifier? source exposed
  return document source t.label "ExportSpecifier"
    [("local", inner), ("exported", outer), ("exportKind", exportKind t)]

def exportSpecifiers (source : Bytes) (clause : Tree) : Except Utf8.Fault (List Value) :=
  (clause.namedChildren.filter fun child => child.isKind "export_specifier").mapM
    (exportSpecifier source)

/-- The specifier of `export * as name`. -/
def namespaceSpecifier (source : Bytes) (t : Tree) : Except Utf8.Fault Value := do
  let exposed ← identifier? source t.namedChildren.head?
  return document source t.label "ExportNamespaceSpecifier" [("exported", exposed)]

/-- A node together with the document that it has as a statement. -/
structure Built where
  tree : Tree
  document : Except Utf8.Fault Value

def documentOf : Option Built → Except Utf8.Fault Value
  | none => .ok .null
  | some built => built.document

def builtChild? (children : List Built) (role : Text) : Option Built :=
  children.find? fun child => child.tree.label.role = some role

/-- The document of an ambient declaration: that of what it declares, at the place of the whole. -/
def ambient (source : Bytes) (t : Tree) (children : List Built) : Except Utf8.Fault Value :=
  match children.find? fun child => child.tree.label.named && !child.tree.isSkipped with
  | none => .ok (document source t.label "AmbientDeclaration" [])
  | some inner =>
    if t.tokens.contains "global" then
      let id := document source t.label "Identifier" [("name", .string "global")]
      .ok (document source t.label "TSModuleDeclaration"
        [("id", id), ("global", .bool true), ("declare", .bool true)])
    else if t.tokens.contains "module" then
      -- `declare module.exports: T` gives the exports a type and declares no name.
      .ok (document source t.label "AmbientDeclaration" [("declare", .bool true)])
    else do
      match ← inner.document with
      | .object fields =>
        -- The tag stays that of what is declared.
        let place := (base source t.label []).drop 1
        return .object ((Fields.update fields place).set "declare" (.bool true))
      | other => return other

def exportStatement (source : Bytes) (t : Tree) (children : List Built) :
    Except Utf8.Fault Value := do
  let tokens := t.tokens
  let declaration := builtChild? children "declaration"
  let clause := t.namedChildren.find? fun child => child.isKind "export_clause"
  let wildcard := t.namedChildren.find? fun child => child.isKind "namespace_export"
  if tokens.contains "default" then
    let value ← documentOf (declaration.or (builtChild? children "value"))
    return document source t.label "ExportDefaultDeclaration" [("declaration", value)]
  else if tokens.contains "=" then
    return document source t.label "TSExportAssignment" []
  else if tokens.contains "namespace" && clause.isNone && wildcard.isNone then
    let id ← identifier? source (t.namedChildren.find? fun child => child.isKind "identifier")
    return document source t.label "TSNamespaceExportDeclaration" [("id", id)]
  else if tokens.contains "*" && wildcard.isNone then
    let origin ← identifier? source (t.child? "source")
    return document source t.label "ExportAllDeclaration" [("source", origin)]
  else
    let value ← documentOf declaration
    let specifiers ← match wildcard, clause with
      | some wildcard, _ => (namespaceSpecifier source wildcard).map fun specifier => [specifier]
      | none, some clause => exportSpecifiers source clause
      | none, none => .ok []
    let origin ← identifier? source (t.child? "source")
    return document source t.label "ExportNamedDeclaration"
      [("declaration", value), ("specifiers", .list specifiers), ("source", origin),
        ("exportKind", exportKind t)]

/-- The document of an expression statement; a namespace parsed as one is unwrapped. -/
def expressionStatement (source : Bytes) (t : Tree) : Except Utf8.Fault Value :=
  match t.namedChildren with
  | [only] =>
    -- The place is that of the namespace, which a semicolon behind it is no part of.
    if only.isKind "internal_module" then named source only "TSModuleDeclaration" []
    else .ok (document source t.label "ExpressionStatement" [])
  | _ => .ok (document source t.label "ExpressionStatement" [])

/-- The document of a node as a statement, given those of its children. -/
def assemble (source : Bytes) (t : Tree) (children : List Built) : Except Utf8.Fault Value :=
  match Form.ofKind t.kind with
  | .function generator =>
    named source t "FunctionDeclaration"
      [("generator", .bool generator), ("async", .bool (t.tokens.contains "async"))]
  | .signature => named source t "TSDeclareFunction" []
  | .classDeclaration isAbstract =>
    named source t "ClassDeclaration" [("abstract", .bool isAbstract)]
  | .interface => named source t "TSInterfaceDeclaration" []
  | .typeAlias => named source t "TSTypeAliasDeclaration" []
  | .enumeration =>
    named source t "TSEnumDeclaration" [("const", .bool (t.tokens.contains "const"))]
  | .variableList => variableList source t
  | .moduleDeclaration => named source t "TSModuleDeclaration" []
  | .ambient => ambient source t children
  | .expression => expressionStatement source t
  | .importStatement => importStatement source t
  | .importAlias => .ok (document source t.label "TSImportEqualsDeclaration" [])
  | .exportStatement => exportStatement source t children
  | .other => .ok (document source t.label (camel t.kind) [])

mutual

def statement (source : Bytes) : Tree → Except Utf8.Fault Value
  | .node label children => assemble source (.node label children) (statements source children)

def statements (source : Bytes) : List Tree → List Built
  | [] => []
  | t :: rest => ⟨t, statement source t⟩ :: statements source rest

end

def program (source : Bytes) (root : Tree) : Except Utf8.Fault Value := do
  let body ← (root.namedChildren.filter fun child => !child.isSkipped).mapM (statement source)
  return document source root.label "Program" [("body", .list body)]

end ExportList.Concrete
