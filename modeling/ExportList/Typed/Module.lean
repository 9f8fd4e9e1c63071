import ExportList.Typed.Statement

/-!
Imports, exports and whole documents.
-/

set_option autoImplicit false

namespace ExportList.Typed

open Concrete (Point Tree Label)

def moduleName : Parse Tree := do
  if (← look) = .string then stringNode else identifier

/-- The document that something comes from, and the word before it. -/
def fromClause : Parse (List Tree) := do
  let word ← keepWord "from"
  let source ← stringNode
  return [word, inField "source" source]

/-- What is said about how to read another document, if anything. -/
def attributes? (g : Grammar) : Parse Unit := do
  if ((← atWord "with") || (← atWord "assert")) && (← lookSecond).1.isMark "\x7b" then
    advance
    let _ ← object g

/-- Moves over the word for types before a name in a list, if it is one. -/
def keepTypeModifier : Parse (List Tree) := do
  let (second, _) ← lookSecond
  -- Before `as` or a comma the word is itself the name.
  let isName := second = .string || (second.isAnyWord && !second.isWord "as")
  if ((← atWord "type") || (← atWord "typeof")) && isName then
    let start ← here
    let word := if ← atWord "type" then "type" else "typeof"
    advance
    return [tokenNode word start (← behind)]
  else return []

def importSpecifier : Parse Unit := do
  let _ ← keepTypeModifier
  let _ ← moduleName
  if ← acceptWord "as" then
    let _ ← identifier

def namedImports : Parse Unit := do
  expect "\x7b"
  let _ ← inside (commaSeparated "\x7d" importSpecifier)
  expect "\x7d"

def namespaceImport : Parse Unit := do
  expect "*"
  expectWord "as"
  let _ ← identifier

def importedNames : Parse Unit := do
  if ← atMark "*" then namespaceImport else namedImports

def importClause : Parse Unit := do
  if (← look).isAnyWord then
    let _ ← identifier
    if ← accept "," then importedNames
  else importedNames

/-- Whether the word for types comes next and modifies an import. -/
def atImportType : Parse Bool := do
  if (← atWord "type") || (← atWord "typeof") then
    let s := State.behind (← get).after
    match s.next with
    -- `import type from "m"` imports a default that is called `type`.
    | .word "from" => return !((State.behind s.after).next = .string)
    | .word _ => return true
    | .mark text => return text = "\x7b" || text = "*"
    | _ => return false
  else return false

def importRequire : Parse Tree := do
  let start ← here
  let _ ← identifier
  expect "="
  expectWord "require"
  expect "("
  let _ ← stringNode
  expect ")"
  leaf "import_require_clause" start

def importBody : Parse (List Tree) :=
  (do return [← importRequire]) <|>
  (do return [inField "source" (← stringNode)]) <|>
  (do
    importClause
    fromClause)

def importStatement (g : Grammar) : Parse Tree := do
  let start ← here
  expectWord "import"
  let types ← if ← atImportType then keepWord? "type" else pure []
  let children ← importBody
  attributes? g
  let stop ← semicolon false
  return node "import_statement" start stop (types ++ children)

def exportSpecifier : Parse Tree := do
  let start ← here
  let types ← keepTypeModifier
  let name ← moduleName
  let names ←
    if ← acceptWord "as" then
      let exposed ← moduleName
      pure [inField "name" name, inField "alias" exposed]
    else pure [inField "name" name]
  return node "export_specifier" start (← behind) (types ++ names)

def exportClause : Parse Tree := do
  let start ← here
  expect "\x7b"
  let specifiers ← inside (commaSeparated "\x7d" exportSpecifier)
  expect "\x7d"
  return node "export_clause" start (← behind) specifiers

/-- All of another document, perhaps under a name.  Comments before the name belong to it. -/
def exportAll : Parse Tree := do
  let start ← here
  let star ← keepMark "*"
  let before ← keepComments
  if ← acceptWord "as" then
    let after ← keepComments
    let name ← moduleName
    return node "namespace_export" start (← behind) (before ++ after ++ [name])
  else return star

/-- An export list with the document that its names come from, if they do. -/
def exportList (g : Grammar) : Parse (Point × List Tree) := do
  let clause ← exportClause
  let origin ← if ← atWord "from" then fromClause else pure []
  attributes? g
  let stop ← semicolon false
  return (stop, clause :: origin)

def exportedValue (g : Grammar) : Parse (Point × List Tree) := do
  let value ← g.expression
  let stop ← semicolon true
  return (stop, [inField "value" value])

def exportedDeclaration (g : Grammar) : Parse (Point × List Tree) := do
  let inner ← declaration g
  return (inner.label.stop, [inField "declaration" inner])

def defaultExport (g : Grammar) : Parse (Point × List Tree) := do
  let word ← keepWord "default"
  let (stop, children) ← exportedDeclaration g <|> exportedValue g
  return (stop, word :: children)

def exportBody (g : Grammar) : Parse (Point × List Tree) := do
  let second := (← lookSecond).1
  match ← look with
  | .mark "*" =>
    let all ← exportAll
    let origin ← fromClause
    attributes? g
    let stop ← semicolon false
    return (stop, all :: origin)
  | .mark "\x7b" => exportList g
  | .mark "=" =>
    let sign ← keepMark "="
    let _ ← g.expression
    let stop ← semicolon true
    return (stop, [sign])
  | .word "default" => defaultExport g
  | .word "as" =>
    let first ← keepWord "as"
    let word ← keepWord "namespace"
    let name ← identifier
    let stop ← semicolon false
    return (stop, [first, word, name])
  | .word "type" =>
    if second.isMark "\x7b" then
      let word ← keepWord "type"
      let (stop, children) ← exportList g
      return (stop, word :: children)
    else exportedDeclaration g
  | _ => exportedDeclaration g

/-- An export, perhaps with decorators before it. -/
def exportStatement (g : Grammar) : Parse Tree := do
  let start ← here
  decorators g
  let word ← keepWord "export"
  let (stop, children) ← exportBody g
  return node "export_statement" start stop (word :: children)

/-- Moves over comments that begin a line with the marks of another language. -/
def skipMarkupComments : Parse Unit := do
  let step : Unit → Parse (Option Unit) := fun _ => do
    let start := (← get).start
    if "<!--".toList.isPrefixOf start.rest || "-->".toList.isPrefixOf start.rest then
      goOnAt (Cursor.skipWhile (fun c => !(c = '\n' || c.toNat = 0x2028 || c.toNat = 0x2029))
        start.point start.rest)
      return some ()
    else return none
  iterate step (← read).size ()

def wordStatement (g : Grammar) (word : String) : Parse Tree := do
  let second := (← lookSecond).1
  if word = "import" && !second.isMark "(" && !second.isMark "." then
    importStatement g <|> importAlias
  else if word = "import" then expressionStatement g
  else if word = "export" then exportStatement g
  else if word = "declare" && (← atAmbient) then ambientDeclaration g
  else
    match keywordStatement? g word, ← declaration? g with
    | some statement, _ => statement
    | none, some declaration => declaration
    | none, none =>
      if second.isMark ":" then labeledStatement g else expressionStatement g

def statement (g : Grammar) : Parse Tree := do
  match ← look with
  | .mark "\x7b" => blockNode g
  | .mark ";" => emptyStatement
  | .mark "@" => classDeclaration g <|> exportStatement g
  | .word word => wordStatement g word
  | _ => expressionStatement g

/-- A statement, with comments in the marks of another language around it. -/
def commentedStatement (g : Grammar) : Parse Tree := do
  skipMarkupComments
  let result ← statement g
  skipMarkupComments
  return result

def emptyGrammar : Grammar where
  expression := failure
  unary := failure
  annotation := failure
  operandType := failure
  pattern := failure
  target := failure
  element := failure
  statement := failure
  chain := failure

/-- The grammar, with constructs nested at most `depth` deep. -/
def grammar : (depth : Nat) → Grammar
  | 0 => emptyGrammar
  | depth + 1 =>
    let g := grammar depth
    { expression := expression g
      unary := unary g
      annotation := annotation g
      operandType := operandType g
      pattern := pattern g
      target := target g
      element := element g
      statement := commentedStatement g
      chain := chain g }

def statements (g : Grammar) : Parse (List Tree) := do
  skipMarkupComments
  collectWhile (return !((← look) = .finish)) g.statement

/-- Where a document starts: at its first character that is no blank. -/
def documentStart (source : List Char) : Point :=
  (Cursor.skipWhile isBlank (Cursor.start source).point source).point

/-- Where the first line ends if it says what to run the document with. -/
def behindFirstLine (source : List Char) : Cursor :=
  match source with
  | '#' :: '!' :: _ =>
    Cursor.skipWhile (fun c => !endsLine c) (Cursor.start source).point source
  | _ => Cursor.start source

/-- The concrete tree of a document.  A document that does not follow the grammar has a tree that is
one error. -/
def tree (jsx : Bool) (source : List Char) : Tree :=
  let start := documentStart source
  let stop := (Cursor.start source).finish.point
  -- Nothing is nested deeper or repeated more often than there are characters.
  let size := source.length + 2
  match statements (grammar size) { jsx, size } (State.behind (behindFirstLine source)) with
  | some (children, _) => node "program" start stop children
  | none =>
    .node { kind := Text.ofString "program", isError := true, hasError := true, start, stop } []

end ExportList.Typed
