import ExportList.Script.Expression

/-!
Statements and declarations.
-/

set_option autoImplicit false

namespace ExportList.Script

def block (g : Grammar) : Parse Value := do
  let start ← mark
  expect openBrace
  let statements ← collectWhile (fun t => !t.isMark closeBrace) g.item
  expect closeBrace
  finish start "BlockStatement" [("body", .list statements)]

def declaratorNode (start : Marker) (id init : Value) : Parse Value :=
  finish start "VariableDeclarator" [("id", id), ("init", init)]

def variablesNode (start : Marker) (declarations : List Value) (kind : Text) : Parse Value :=
  finish start "VariableDeclaration" [("declarations", .list declarations), ("kind", .text kind)]

/-- Complains about a variable that strict code cannot have. -/
def checkVariable (id : Value) : Parse Unit := do
  if (← context).strict && isRestrictedTarget id then refuseOnLine .strictVariableName

def initializer (g : Grammar) : Parse Value := do
  expect "="
  isolate g.assignment

/-- The initial value of a constant, which only the variable of a loop can do without. -/
def constantInit (g : Grammar) : Parse Value := do
  if (← atKeyword "in") || (← atWord "of") then return .null
  else if ← atMark "=" then initializer g
  else refuse .missingInitializer

/-- The initial value of a variable of a lexical declaration. -/
def lexicalInit (g : Grammar) (kind : Text) (isRequired : Bool) : Parse Value := do
  if kind = Text.ofString "const" then constantInit g
  else if isRequired || (← atMark "=") then initializer g
  else return .null

def lexicalBinding (g : Grammar) (kind : Text) (inFor : Bool) : Parse Value := do
  let start ← mark
  let (id, _) ← g.pattern (some kind)
  checkVariable id
  let init ← lexicalInit g kind (!inFor && !isIdentifier id)
  declaratorNode start id init

def variableBinding (g : Grammar) (inFor : Bool) : Parse Value := do
  let start ← mark
  let (id, _) ← g.pattern (some "var")
  checkVariable id
  let init ←
    if ← atMark "=" then initializer g
    else if !isIdentifier id && !inFor then
      expect "="
      pure .null
    else pure .null
  declaratorNode start id init

def commaSeparated (item : Parse Value) : Parse (List Value) := do
  let first ← item
  let others ← collectWhile (fun t => t.isMark ",") do
    let _ ← advance
    item
  return first :: others

def lexicalDeclaration (g : Grammar) : Parse Value := do
  let start ← mark
  let kind := (← advance).text
  let declarations ← commaSeparated (lexicalBinding g kind false)
  endStatement
  variablesNode start declarations kind

def variableStatement (g : Grammar) : Parse Value := do
  let start ← mark
  expectKeyword "var"
  let declarations ← commaSeparated (variableBinding g false)
  endStatement
  variablesNode start declarations "var"

/-- Whether the word `let`, which comes next, begins a declaration. -/
def atLexicalDeclaration : Parse Bool := do
  let next ← lookSecond
  return next.isIdentifier || next.isMark "[" || next.isMark openBrace || next.isKeyword "let" ||
    next.isKeyword "yield"

def guarded (g : Grammar) : Parse Value := do
  if (← context).strict && (← atKeyword "function") then refuseOnLine .strictFunctionPlace
  else g.statement

def ifStatement (g : Grammar) : Parse Value := do
  let start ← mark
  expectKeyword "if"
  expect "("
  let test ← expression g
  expect ")"
  let consequent ← guarded g
  let alternate ←
    if ← atKeyword "else" then
      let _ ← advance
      guarded g
    else pure .null
  finish start "IfStatement" [("test", test), ("consequent", consequent), ("alternate", alternate)]

def doStatement (g : Grammar) : Parse Value := do
  let start ← mark
  expectKeyword "do"
  let body ← inLoop g.statement
  expectKeyword "while"
  expect "("
  let test ← expression g
  expect ")"
  if ← atMark ";" then
    let _ ← advance
  finish start "DoWhileStatement" [("body", body), ("test", test)]

def whileStatement (g : Grammar) : Parse Value := do
  let start ← mark
  expectKeyword "while"
  expect "("
  let test ← expression g
  expect ")"
  let body ← inLoop g.statement
  finish start "WhileStatement" [("test", test), ("body", body)]

inductive LoopHead where
  | counting (init : Value)
  | keys (left right : Value)
  | values (left right : Value)

def keysOf (g : Grammar) (left : Value) : Parse LoopHead := do
  let _ ← advance
  return .keys left (← expression g)

def valuesOf (g : Grammar) (left : Value) : Parse LoopHead := do
  let _ ← advance
  return .values left (← g.assignment)

/-- Whether there is one declarator and it has no initial value. -/
def isBareDeclaration (declarations : List Value) : Bool :=
  match declarations with
  | [only] => (only.field "init").isNull
  | _ => false

def varHead (g : Grammar) : Parse LoopHead := do
  let start ← mark
  let _ ← advance
  let declarations ← withAllowIn false (commaSeparated (variableBinding g true))
  let declaration : Parse Value := variablesNode start declarations "var"
  let isInitialized := declarations.any fun d =>
    !(d.field "init").isNull &&
      ((d.field "id").hasTag "ArrayPattern" || (d.field "id").hasTag "ObjectPattern")
  let hasInitializer := declarations.any fun d => !(d.field "init").isNull
  if declarations.length = 1 && (← atKeyword "in") then
    if isInitialized || (hasInitializer && (← context).strict) then
      refuseOnLine (.initializedLoopVariable "for-in")
    else keysOf g (← declaration)
  else if isBareDeclaration declarations && (← atWord "of") then valuesOf g (← declaration)
  else
    let init ← declaration
    expect ";"
    return .counting init

def lexicalHead (g : Grammar) : Parse LoopHead := do
  let start ← mark
  let kind := (← advance).text
  if !(← context).strict && (← look).text = Text.ofString "in" then
    keysOf g (← identifierNode start kind)
  else
    let declarations ← withAllowIn false (commaSeparated (lexicalBinding g kind true))
    let declaration : Parse Value := variablesNode start declarations kind
    if isBareDeclaration declarations && (← atKeyword "in") then keysOf g (← declaration)
    else if isBareDeclaration declarations && (← atWord "of") then valuesOf g (← declaration)
    else
      endStatement
      return .counting (← declaration)

def expressionHead (g : Grammar) : Parse LoopHead := do
  let startToken ← look
  let init ← withAllowIn false (inherit g.assignment)
  let isTarget := (← context).isAssignmentTarget && !init.hasTag "AssignmentExpression"
  if ← atKeyword "in" then
    if !isTarget then refuseOnLine .invalidForInTarget else keysOf g (asPattern init)
  else if ← atWord "of" then
    if !isTarget then refuseOnLine .invalidForOfTarget else valuesOf g (asPattern init)
  else
    let init ←
      if ← atMark "," then
        let others ← collectWhile (fun t => t.isMark ",") do
          let _ ← advance
          isolate g.assignment
        finish (markOf startToken 0) "SequenceExpression" [("expressions", .list (init :: others))]
      else pure init
    expect ";"
    return .counting init

/-- The head of a loop, up to what tells its kind. -/
def loopHead (g : Grammar) : Parse LoopHead := do
  if ← atMark ";" then
    let _ ← advance
    return .counting .null
  else if ← atKeyword "var" then varHead g
  else if (← atKeyword "const") || (← atKeyword "let") then lexicalHead g
  else expressionHead g

def loopFields (g : Grammar) : LoopHead → Parse (Text × Fields)
  | .counting init => do
    let test ← if ← atMark ";" then pure .null else expression g
    expect ";"
    let update ← if ← atMark ")" then pure .null else expression g
    return (Text.ofString "ForStatement", [("init", init), ("test", test), ("update", update)])
  | .keys left right =>
    return (Text.ofString "ForInStatement",
      [("each", .bool false), ("left", left), ("right", right)])
  | .values left right =>
    return (Text.ofString "ForOfStatement", [("left", left), ("right", right)])

def forStatement (g : Grammar) : Parse Value := do
  let start ← mark
  expectKeyword "for"
  expect "("
  let head ← loopHead g
  let (tag, fields) ← loopFields g head
  expect ")"
  let body ← inLoop (isolate g.statement)
  finish start tag (fields ++ ([("body", body)] : Fields))

def jumpLabel : Parse Value := do
  if (← sees Token.isIdentifier) && !(← atLineBreak) then
    let label ← variableName none
    if (← context).labels.contains (nameOf label) then return label
    else refuse (.unknownLabel (nameOf label))
  else return .null

def continueStatement : Parse Value := do
  let start ← mark
  expectKeyword "continue"
  let label ← jumpLabel
  endStatement
  if label.isNull && !(← context).inIteration then refuse .illegalContinue
  else finish start "ContinueStatement" [("label", label)]

def breakStatement : Parse Value := do
  let start ← mark
  expectKeyword "break"
  let label ← jumpLabel
  endStatement
  let c ← context
  if label.isNull && !c.inIteration && !c.inSwitch then refuse .illegalBreak
  else finish start "BreakStatement" [("label", label)]

def returnStatement (g : Grammar) : Parse Value := do
  if !(← context).inFunctionBody then refuseOnLine .illegalReturn
  else
    let start ← mark
    expectKeyword "return"
    let t ← look
    let hasArgument :=
      (!t.isMark ";" && !t.isMark closeBrace && !(← atLineBreak) && !t.isEnd) ||
        t.isString || t.isTemplate
    let argument ← if hasArgument then expression g else pure .null
    endStatement
    finish start "ReturnStatement" [("argument", argument)]

def throwStatement (g : Grammar) : Parse Value := do
  let start ← mark
  expectKeyword "throw"
  if ← atLineBreak then refuse .lineBreakAfterThrow
  else
    let argument ← expression g
    endStatement
    finish start "ThrowStatement" [("argument", argument)]

def withStatement (g : Grammar) : Parse Value := do
  if (← context).strict then refuseOnLine .strictWith
  else
    let start ← mark
    expectKeyword "with"
    expect "("
    let object ← expression g
    expect ")"
    let body ← g.statement
    finish start "WithStatement" [("object", object), ("body", body)]

/-- What the value is compared with in a case of a `switch` statement; nothing in the default. -/
def caseTest (g : Grammar) (isDefault : Bool) : Parse Value := do
  if isDefault then
    let _ ← advance
    return .null
  else
    expectKeyword "case"
    expression g

def caseBody (g : Grammar) : Parse (List Value) := do
  expect ":"
  collectWhile (fun t => !t.isMark closeBrace && !t.isKeyword "default" && !t.isKeyword "case")
    g.item

/-- A case of a `switch` statement; gives also whether it is the default. -/
def switchCase (g : Grammar) : Parse (Value × Bool) := do
  let start ← mark
  let isDefault ← atKeyword "default"
  let test ← caseTest g isDefault
  let consequent ← caseBody g
  let node ← finish start "SwitchCase" [("test", test), ("consequent", .list consequent)]
  return (node, isDefault)

def switchCases (g : Grammar) : (fuel : Nat) → (hasDefault : Bool) → Parse (List Value)
  | 0, _ => giveUp
  | fuel + 1, hasDefault => do
    if ← atMark closeBrace then return []
    else
      let (first, isDefault) ← switchCase g
      if isDefault && hasDefault then refuse .repeatedDefault
      else return first :: (← switchCases g fuel (hasDefault || isDefault))

def switchStatement (g : Grammar) : Parse Value := do
  let start ← mark
  expectKeyword "switch"
  expect "("
  let discriminant ← expression g
  expect ")"
  let before := (← context).inSwitch
  modifyContext fun c => { c with inSwitch := true }
  expect openBrace
  let cases ← switchCases g (← tokenBound) false
  expect closeBrace
  modifyContext fun c => { c with inSwitch := before }
  finish start "SwitchStatement" [("discriminant", discriminant), ("cases", .list cases)]

/-- What a label is put before. -/
def labelledBody (g : Grammar) : Parse Value := do
  let t ← look
  if t.isKeyword "class" then unexpected t
  else if t.isKeyword "function" then
    let declaration ← functionDeclaration g false
    if (← context).strict then refuseToken t .strictFunctionPlace
    else if declaration.field "generator" matches .bool true then refuseToken t .generatorAfterLabel
    else return declaration
  else g.statement

/-- A statement that begins with a name: a labelled one or an expression. -/
def namedStatement (g : Grammar) : Parse Value := do
  let start ← mark
  let expr ← expression g
  if isIdentifier expr && (← atMark ":") then
    let _ ← advance
    let name := nameOf expr
    if (← context).labels.contains name then refuse (.duplicateLabel name)
    else
      modifyContext fun c => { c with labels := name :: c.labels }
      let body ← labelledBody g
      modifyContext fun c => { c with labels := c.labels.erase name }
      finish start "LabeledStatement" [("label", expr), ("body", body)]
  else
    endStatement
    finish start "ExpressionStatement" [("expression", expr)]

/-- The first name that occurs again. -/
def firstRepeated? : List Text → List Text → Option Text
  | _, [] => none
  | seen, name :: rest =>
    if seen.contains name then some name else firstRepeated? (name :: seen) rest

def catchClause (g : Grammar) : Parse Value := do
  let start ← mark
  expectKeyword "catch"
  expect "("
  if ← atMark ")" then unexpected (← look)
  else
    let (param, bound) ← g.pattern none
    match firstRepeated? [] (bound.map Token.text) with
    | some name => refuseOnLine (.duplicateBinding name)
    | none =>
      if (← context).strict && isRestrictedTarget param then refuseOnLine .strictCatchName
      else
        expect ")"
        let body ← block g
        finish start "CatchClause" [("param", param), ("body", body)]

/-- What is always done after a `try` statement, if there is something. -/
def finallyClause (g : Grammar) : Parse Value := do
  if ← atKeyword "finally" then
    let _ ← advance
    block g
  else return .null

def tryStatement (g : Grammar) : Parse Value := do
  let start ← mark
  expectKeyword "try"
  let body ← block g
  let handler ← if ← atKeyword "catch" then catchClause g else pure .null
  let finalizer ← finallyClause g
  if handler.isNull && finalizer.isNull then refuse .missingHandler
  else
    finish start "TryStatement" [("block", body), ("handler", handler), ("finalizer", finalizer)]

def debuggerStatement : Parse Value := do
  let start ← mark
  expectKeyword "debugger"
  endStatement
  finish start "DebuggerStatement" []

def emptyStatement : Parse Value := do
  let start ← mark
  expect ";"
  finish start "EmptyStatement" []

def expressionStatement (g : Grammar) : Parse Value := do
  let start ← mark
  let expr ← expression g
  endStatement
  finish start "ExpressionStatement" [("expression", expr)]

def keywordStatements (g : Grammar) : List (Text × Parse Value) :=
  [("break", breakStatement), ("continue", continueStatement), ("debugger", debuggerStatement),
    ("do", doStatement g), ("for", forStatement g), ("function", functionDeclaration g false),
    ("if", ifStatement g), ("return", returnStatement g), ("switch", switchStatement g),
    ("throw", throwStatement g), ("try", tryStatement g), ("var", variableStatement g),
    ("while", whileStatement g), ("with", withStatement g)]

def statement (g : Grammar) : Parse Value := do
  let t ← look
  match t.lexeme with
  | .endOfInput => unexpected t
  | .mark text =>
    if text = openBrace then block g
    else if text = Text.ofString ";" then emptyStatement
    else expressionStatement g
  | .identifier _ =>
    if ← atAsyncFunction then functionDeclaration g false else namedStatement g
  | .keyword word =>
    match (keywordStatements g).find? fun entry => entry.1 = word with
    | some entry => entry.2
    | none => expressionStatement g
  | _ => expressionStatement g

end ExportList.Script
