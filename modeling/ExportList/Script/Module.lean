import ExportList.Script.Statement

/-!
Imports, exports and whole programs.
-/

set_option autoImplicit false

namespace ExportList.Script

def moduleName : Parse Value := do
  let start ← mark
  if !(← sees Token.isString) then refuse .unexpected
  else
    let t ← advance
    literalNode start t

def missingFrom {α : Type} : Parse α := do
  let t ← look
  refuse (if t.isBlank then .unexpected else .unexpectedToken t.text)

def fromClause : Parse Value := do
  if !(← atWord "from") then missingFrom
  else
    let _ ← advance
    moduleName

def importSpecifier : Parse Value := do
  let start ← mark
  let isPlain ← sees Token.isIdentifier
  let imported ← if isPlain then variableName none else anyName
  let inner ←
    if ← atWord "as" then
      let _ ← advance
      variableName none
    else if isPlain then pure imported
    -- A reserved word cannot be the local name.
    else unexpected (← advance)
  finish start "ImportSpecifier" [("local", inner), ("imported", imported)]

/-- The comma behind an entry of a list in braces, which the last one can do without. -/
def listSeparator : Parse Unit := do
  if !(← atMark closeBrace) then expect ","

def namedImports : Parse (List Value) := do
  expect openBrace
  let specifiers ← collectWhile (fun t => !t.isMark closeBrace) do
    let specifier ← importSpecifier
    listSeparator
    return specifier
  expect closeBrace
  return specifiers

def defaultImport : Parse Value := do
  let start ← mark
  let inner ← anyName
  finish start "ImportDefaultSpecifier" [("local", inner)]

def namespaceImport : Parse Value := do
  let start ← mark
  expect "*"
  if !(← atWord "as") then refuse .unexpected
  else
    let _ ← advance
    let inner ← anyName
    finish start "ImportNamespaceSpecifier" [("local", inner)]

def importSpecifiers : Parse (List Value) := do
  let t ← look
  if t.isMark openBrace then namedImports
  else if t.isMark "*" then return [← namespaceImport]
  else if t.isName && !t.isKeyword "default" then
    let first ← defaultImport
    if ← atMark "," then
      let _ ← advance
      if ← atMark "*" then return [first, ← namespaceImport]
      else if ← atMark openBrace then return first :: (← namedImports)
      else unexpected (← look)
    else return [first]
  else unexpected (← advance)

def importDeclaration : Parse Value := do
  if (← context).inFunctionBody then refuse .unexpected
  else
    let start ← mark
    expectKeyword "import"
    let (specifiers, origin) ←
      if ← sees Token.isString then pure ([], ← moduleName)
      else
        let specifiers ← importSpecifiers
        pure (specifiers, ← fromClause)
    endStatement
    finish start "ImportDeclaration" [("specifiers", .list specifiers), ("source", origin)]

def exportSpecifier : Parse Value := do
  let start ← mark
  let inner ← anyName
  let exposed ←
    if ← atWord "as" then
      let _ ← advance
      anyName
    else pure inner
  finish start "ExportSpecifier" [("exported", exposed), ("local", inner)]

def defaultValue (g : Grammar) : Parse Value := do
  if ← atMark openBrace then object g
  else if ← atMark "[" then array g
  else g.assignment

def defaultExport (g : Grammar) : Parse Value := do
  if ← atKeyword "function" then functionDeclaration g true
  else if ← atKeyword "class" then classDeclaration g true
  else if ← atWord "async" then
    if ← atAsyncFunction then functionDeclaration g true else g.assignment
  else if ← atWord "from" then refuse (.unexpectedToken "from")
  else
    let value ← defaultValue g
    endStatement
    return value

def exportedDeclaration (g : Grammar) : Parse Value := do
  let t ← look
  if t.isKeyword "let" || t.isKeyword "const" then lexicalDeclaration g
  else if t.isKeyword "var" || t.isKeyword "class" || t.isKeyword "function" then g.item
  else unexpected t

def namedExportNode (start : Marker) (declaration : Value) (specifiers : List Value)
    (origin : Value) : Parse Value :=
  finish start "ExportNamedDeclaration"
    [("declaration", declaration), ("specifiers", .list specifiers), ("source", origin)]

/-- One entry of an export list; gives also whether it begins with the default. -/
def exportEntry : Parse (Value × Bool) := do
  let isDefault ← atKeyword "default"
  let specifier ← exportSpecifier
  listSeparator
  return (specifier, isDefault)

/-- An export list; gives also whether it names the default. -/
def namedExports : Parse (List Value × Bool) := do
  expect openBrace
  let entries ← collectWhile (fun t => !t.isMark closeBrace) exportEntry
  expect closeBrace
  return (entries.map Prod.fst, entries.any Prod.snd)

def bareExport : Parse Value := do
  let start ← mark
  let inner ← anyName
  finish start "ExportDefaultSpecifier" [("local", inner)]

/-- The export list behind a bare name, if there is one. -/
def listAfterBare : Parse (List Value × Bool) := do
  if ← atMark "," then
    let _ ← advance
    namedExports
  else return ([], false)

/-- The end of an export of names, which may come from another module. -/
def exportOrigin (start : Marker) (specifiers : List Value) (hasDefault : Bool) : Parse Value := do
  if ← atWord "from" then
    let origin ← fromClause
    endStatement
    namedExportNode start .null specifiers origin
  -- The default has no name in this module, so it can only be passed on.
  else if hasDefault then missingFrom
  else
    endStatement
    namedExportNode start .null specifiers .null

def exportNames (start : Marker) : Parse Value := do
  if ← sees Token.isIdentifier then
    let bare ← bareExport
    let (listed, hasDefault) ← listAfterBare
    exportOrigin start (bare :: listed) hasDefault
  else
    let (listed, hasDefault) ← namedExports
    exportOrigin start listed hasDefault

def exportDeclaration (g : Grammar) : Parse Value := do
  if (← context).inFunctionBody then refuse .unexpected
  else
    let start ← mark
    expectKeyword "export"
    let t ← look
    if t.isKeyword "default" then
      let _ ← advance
      let value ← defaultExport g
      finish start "ExportDefaultDeclaration" [("declaration", value)]
    else if t.isMark "*" then
      let _ ← advance
      let origin ← fromClause
      endStatement
      finish start "ExportAllDeclaration" [("source", origin)]
    else
      match t.lexeme with
      | .keyword _ => namedExportNode start (← exportedDeclaration g) [] .null
      | _ =>
        if ← atAsyncFunction then
          namedExportNode start (← functionDeclaration g false) [] .null
        else exportNames start

/-- An item of a statement list: a statement or a declaration. -/
def item (g : Grammar) : Parse Value := do
  modifyContext fun c => { c with isAssignmentTarget := true, isBindingElement := true }
  let t ← look
  let isModule := (← context).isModule
  if t.isKeyword "export" then
    if isModule then exportDeclaration g else refuseToken t .unexpected
  else if t.isKeyword "import" then
    if ← atImportCall then expressionStatement g
    else if isModule then importDeclaration
    else refuseToken t .unexpected
  else if t.isKeyword "const" then lexicalDeclaration g
  else if t.isKeyword "function" then functionDeclaration g false
  else if t.isKeyword "class" then classDeclaration g false
  else if t.isKeyword "let" then
    if ← atLexicalDeclaration then lexicalDeclaration g else statement g
  else statement g

/-- The grammar, with constructs nested at most `depth` deep. -/
def grammar : (depth : Nat) → Grammar
  | 0 =>
    { assignment := giveUp, unary := giveUp, power := giveUp, chain := giveUp, member := giveUp,
      statement := giveUp, item := giveUp, pattern := fun _ => giveUp }
  | depth + 1 =>
    let g := grammar depth
    { assignment := assignment g
      unary := unary g
      power := power g
      chain := chain g
      member := member g
      statement := statement g
      item := item g
      pattern := bindingPattern g }

def State.asModule (s : State) : State :=
  { s with
    context := { s.context with strict := true, isModule := true }
    scanner := { s.scanner with isModule := true } }

def programBody (g : Grammar) (isModule : Bool) : Parse Value := do
  let start ← mark
  let opening ← directives g (← tokenBound) none
  let statements ← collectWhile (fun t => !t.isEnd) g.item
  finish start "Program"
    [("sourceType", .string (if isModule then "module" else "script")),
      ("body", .list (opening ++ statements))]

def program (g : Grammar) (isModule : Bool) : Parse Value := do
  if isModule then modify State.asModule
  programBody g isModule

/-- Reads a document as a module or as a script. -/
def parseAs (isModule : Bool) (source : List Char) : Except Complaint Value := do
  let start ← State.start source
  let (result, _) ← program (grammar (source.length + 2)) isModule start
  return result

/-- Reads a document as a module and, if it is none, as a script; the complaint is that about the
module. -/
def parse (source : List Char) : Except Complaint Value :=
  match parseAs true source with
  | .ok program => .ok program
  | .error complaint =>
    match parseAs false source with
    | .ok program => .ok program
    | .error _ => .error complaint

end ExportList.Script
