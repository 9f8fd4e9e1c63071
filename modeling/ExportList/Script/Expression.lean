import ExportList.Script.Class

/-!
Expressions.  What stands between parentheses may turn out to be the parameters of an arrow
function, so it is read as an expression first and again as patterns when the arrow comes.
-/

set_option autoImplicit false

namespace ExportList.Script

def templatePart : Parse (Value × Bool) := do
  let start ← mark
  let t ← advance
  match t.lexeme with
  | .template raw cooked _ isTail =>
    let part ← finish start "TemplateElement"
      [("value", .object [("raw", .text raw), ("cooked", .text cooked)]), ("tail", .bool isTail)]
    return (part, isTail)
  | _ => refuse .illegal

def templateRest (g : Grammar) : (fuel : Nat) → (isTail : Bool) → Parse (List Value × List Value)
  | _, true => return ([], [])
  | 0, false => giveUp
  | fuel + 1, false => do
    let expr ← expression g
    if !(← sees Token.isTemplate) then refuse .illegal
    else
      let (part, isTail) ← templatePart
      let (parts, exprs) ← templateRest g fuel isTail
      return (part :: parts, expr :: exprs)

def template (g : Grammar) : Parse Value := do
  let start ← mark
  if !(← sees Token.isTemplateHead) then unexpected (← look)
  else
    let (head, isTail) ← templatePart
    let (parts, exprs) ← templateRest g (← tokenBound) isTail
    finish start "TemplateLiteral" [("quasis", .list (head :: parts)), ("expressions", .list exprs)]

def spread (g : Grammar) : Parse Value := do
  let start ← mark
  expect "..."
  let argument ← inherit g.assignment
  finish start "SpreadElement" [("argument", argument)]

def arrayElements (g : Grammar) : (fuel : Nat) → Parse (List Value)
  | 0 => giveUp
  | fuel + 1 => do
    if ← atMark "]" then return []
    else if ← atMark "," then
      let _ ← advance
      return .null :: (← arrayElements g fuel)
    else if ← atMark "..." then
      let element ← spread g
      if !(← atMark "]") then
        -- A spread that is not last keeps the array from being a pattern.
        markUnassignable
        expect ","
      return element :: (← arrayElements g fuel)
    else
      let element ← inherit g.assignment
      if !(← atMark "]") then expect ","
      return element :: (← arrayElements g fuel)

def array (g : Grammar) : Parse Value := do
  let start ← mark
  expect "["
  let elements ← arrayElements g (← tokenBound)
  expect "]"
  finish start "ArrayExpression" [("elements", .list elements)]

/-- A property of an object that is a method or, if its name is all of it, a shorthand. -/
def methodOrShorthand (g : Grammar) (start : Marker) (t : Token) (key : Value)
    (computed isAsync : Bool) : Parse Value := do
  if ← atMark "(" then
    let value ← method g (if isAsync then .asynchronous else .ordinary)
    propertyNode start key computed value "init" true false
  else if t.isIdentifier then
    let id ← identifierNode start t.text
    if ← atMark "=" then
      let mark ← look
      -- The default makes sense only if the whole turns out to be a pattern.
      modifyContext fun c => { c with coverFault := some mark }
      let _ ← advance
      let right ← isolate g.assignment
      let value ← finish start "AssignmentPattern" [("left", id), ("right", right)]
      propertyNode start key computed value "init" false true
    else propertyNode start key computed id "init" false true
  else unexpected (← advance)

/-- A property of an object whose head gave a key; gives also whether the object now sets its
prototype. -/
def propertyRest (g : Grammar) (start : Marker) (t : Token) (key : Value) (computed isAsync : Bool)
    (hasPrototype : Bool) : Parse (Value × Bool) := do
  if (← atMark ":") && !isAsync then
    let isPrototype := !computed && isPropertyNamed key "__proto__"
    if isPrototype && hasPrototype then refuseOnLine .duplicatePrototype
    else
      let _ ← advance
      let value ← inherit g.assignment
      return (← propertyNode start key computed value "init" false false,
        hasPrototype || isPrototype)
  else return (← methodOrShorthand g start t key computed isAsync, hasPrototype)

/-- The first name of a property that begins with a token, whether it is computed, and whether the
property is asynchronous. -/
def propertyHead (g : Grammar) (start : Marker) (t : Token) : Parse (Value × Bool × Bool) := do
  if t.isIdentifier then
    let _ ← advance
    let computed ← atMark "["
    let next ← look
    let isAsync := !(← atLineBreak) && t.isWord "async" &&
      !([":", "(", "*", ","].any fun text => next.isMark (Text.ofString text))
    let key ← if isAsync then propertyKey g else identifierNode start t.text
    return (key, computed, isAsync)
  else if ← atMark "*" then
    let _ ← advance
    return (.null, false, false)
  else
    let computed ← atMark "["
    return (← propertyKey g, computed, false)

/-- A property of an object after its head; gives also whether the object now sets its prototype. -/
def propertyAfter (g : Grammar) (start : Marker) (t : Token) (key : Value) (computed isAsync : Bool)
    (hasPrototype : Bool) : Parse (Value × Bool) := do
  let isKeyNext := (← look).isPropertyStart
  if t.isWord "get" && !isAsync && isKeyNext then
    let computed ← atMark "["
    let key ← propertyKey g
    modifyContext fun c => { c with allowYield := false }
    let value ← getter g
    return (← propertyNode start key computed value "get" false false, hasPrototype)
  else if t.isWord "set" && !isAsync && isKeyNext then
    let computed ← atMark "["
    let key ← propertyKey g
    let value ← setter g
    return (← propertyNode start key computed value "set" false false, hasPrototype)
  else if t.isMark "*" && isKeyNext then
    let computed ← atMark "["
    let key ← propertyKey g
    let value ← method g .generator
    return (← propertyNode start key computed value "init" true false, hasPrototype)
  else if key.isNull then unexpected (← look)
  else propertyRest g start t key computed isAsync hasPrototype

/-- A property of an object; gives also whether the object now sets its prototype. -/
def property (g : Grammar) (hasPrototype : Bool) : Parse (Value × Bool) := do
  let start ← mark
  let t ← look
  let (key, computed, isAsync) ← propertyHead g start t
  propertyAfter g start t key computed isAsync hasPrototype

def properties (g : Grammar) : (fuel : Nat) → (hasPrototype : Bool) → Parse (List Value)
  | 0, _ => giveUp
  | fuel + 1, hasPrototype => do
    if ← atMark closeBrace then return []
    else
      let (entry, hasPrototype) ←
        if ← atMark "..." then pure (← spread g, hasPrototype) else property g hasPrototype
      if !(← atMark closeBrace) then expect ","
      return entry :: (← properties g fuel hasPrototype)

def object (g : Grammar) : Parse Value := do
  let start ← mark
  expect openBrace
  let entries ← properties g (← tokenBound) false
  expect closeBrace
  finish start "ObjectExpression" [("properties", .list entries)]

def arrowTag : Text := "ArrowParameterPlaceHolder"

def arrowParameters (nodes : List Value) (isAsync : Bool) : Value :=
  .object [("type", .text arrowTag), ("params", .list nodes), ("async", .bool isAsync)]

def isArrowParameters (v : Value) : Bool := v.hasTag arrowTag

/-- An arrow, which has to come next, is left in place. -/
def requireArrow : Parse Unit := do
  if !(← atMark "=>") then expect "=>"

/-- Further expressions between parentheses after the first, newest first, until the closing
parenthesis is near; parameters if they turn out to be such. -/
def groupRest (g : Grammar) : (fuel : Nat) → List Value → Parse (List Value × Option Value)
  | 0, _ => giveUp
  | fuel + 1, exprs => do
    if !(← atMark ",") then return (exprs.reverse, none)
    else
      let _ ← advance
      if ← atMark ")" then
        let _ ← advance
        -- Only parameters can end with a comma.
        return ([], some (arrowParameters (exprs.reverse.map asPattern) false))
      else if ← atMark "..." then
        if !(← context).isBindingElement then unexpected (← look)
        else
          let (last, _) ← restParameter g
          expect ")"
          requireArrow
          modifyContext fun c => { c with isBindingElement := false }
          return ([], some (arrowParameters ((last :: exprs).reverse.map asPattern) false))
      else
        let expr ← inherit g.assignment
        groupRest g fuel (expr :: exprs)

/-- What stands between parentheses, read as parameters before an arrow. -/
def groupOrParameters (expr : Value) : Parse Value := do
  expect ")"
  let result ←
    if ← atMark "=>" then
      if isIdentifier expr && (expr.field "name").isText "yield" then
        pure (arrowParameters [expr] false)
      else if !(← context).isBindingElement then unexpected (← look)
      else if expr.hasTag "SequenceExpression" then
        pure (arrowParameters ((expr.field "expressions").items.map asPattern) false)
      else pure (arrowParameters [asPattern expr] false)
    else pure expr
  modifyContext fun c => { c with isBindingElement := false }
  return result

def group (g : Grammar) : Parse Value := do
  expect "("
  if ← atMark ")" then
    let _ ← advance
    requireArrow
    return arrowParameters [] false
  else
    let startToken ← look
    if ← atMark "..." then
      let (last, _) ← restParameter g
      expect ")"
      requireArrow
      return arrowParameters [last] false
    else
      modifyContext fun c => { c with isBindingElement := true }
      let first ← inherit g.assignment
      if ← atMark "," then
        modifyContext fun c => { c with isAssignmentTarget := false }
        match ← groupRest g (← tokenBound) [first] with
        | (_, some parameters) => return parameters
        | (exprs, none) =>
          let sequence ← finish (markOf startToken 0) "SequenceExpression"
            [("expressions", .list exprs)]
          groupOrParameters sequence
      else groupOrParameters first

def atImportCall : Parse Bool := do
  if ← atKeyword "import" then return (← lookSecond).isMark "(" else return false

/-- The place of the next token, which begins with a slash. -/
def State.slashCursor (s : State) : Cursor :=
  let slash := if s.lookahead.isMark "/" then ['/'] else ['/', '=']
  { s.scanner.cursor with rest := slash ++ s.scanner.cursor.rest, index := s.lookahead.start }

/-- Reads the next token, which begins with a slash, again as a regular expression. -/
def rereadPattern : Parse Unit := fun s => do
  let (token, after) ← scanPattern s.slashCursor
  return ((), { s with scanner := { s.scanner with cursor := after }, lookahead := token })

def regularExpression : Parse Value := do
  let start ← mark
  markUnassignable
  rereadPattern
  let token ← advance
  match token.lexeme with
  | .pattern body flags =>
    finish start "Literal"
      [("value", .pattern), ("raw", .text token.raw),
        ("regex", .object [("pattern", .text body), ("flags", .text flags)])]
  | _ => unexpected token

def keywordExpression (g : Grammar) : Parse Value := do
  let start ← mark
  let c ← context
  if !c.strict && c.allowYield && (← atKeyword "yield") then anyName
  else if !c.strict && (← atKeyword "let") then
    let t ← advance
    identifierNode start t.text
  else
    markUnassignable
    if ← atKeyword "function" then functionExpression g
    else if ← atKeyword "this" then
      let _ ← advance
      finish start "ThisExpression" []
    else if ← atKeyword "class" then classExpression g
    else if ← atImportCall then
      expectKeyword "import"
      finish start "Import" []
    else unexpected (← advance)

def primary (g : Grammar) : Parse Value := do
  let start ← mark
  let t ← look
  match t.lexeme with
  | .identifier name =>
    let c ← context
    if (c.isModule || c.isAsync) && name.val = Text.ofString "await" then unexpected t
    else if ← atAsyncFunction then functionExpression g
    else
      let _ ← advance
      identifierNode start name
  | .number .. | .string .. =>
    if (← context).strict && t.isOctal then refuseToken t .strictOctal
    else
      markUnassignable
      let t ← advance
      literalNode start t
  | .boolean _ | .null =>
    markUnassignable
    let t ← advance
    literalNode start t
  | .template .. => template g
  | .mark text =>
    if text = Text.ofString "(" then
      modifyContext fun c => { c with isBindingElement := false }
      inherit (group g)
    else if text = Text.ofString "[" then inherit (array g)
    else if text = openBrace then inherit (object g)
    else if text = Text.ofString "/" || text = Text.ofString "/=" then regularExpression
    else unexpected (← advance)
  | .keyword _ => keywordExpression g
  | _ => unexpected (← advance)

def argumentsRest (g : Grammar) (argument : Parse Value) : (fuel : Nat) → Parse (List Value)
  | 0 => giveUp
  | fuel + 1 => do
    let first ← if ← atMark "..." then spread g else isolate argument
    if ← atMark ")" then return [first]
    else
      expect ","
      if ← atMark ")" then return [first] else return first :: (← argumentsRest g argument fuel)

def callArguments (g : Grammar) (argument : Parse Value) : Parse (List Value) := do
  expect "("
  let nodes ← if ← atMark ")" then pure [] else argumentsRest g argument (← tokenBound)
  expect ")"
  return nodes

/-- An argument that may be a parameter of an arrow function; shorthands with defaults are fine. -/
def asyncArgument (g : Grammar) : Parse Value := do
  let argument ← g.assignment
  modifyContext fun c => { c with coverFault := none }
  return argument

def staticMember (start : Marker) (object : Value) : Parse Value := do
  modifyContext fun c => { c with isBindingElement := false, isAssignmentTarget := true }
  expect "."
  let property ← anyName
  finish start "MemberExpression"
    [("computed", .bool false), ("object", object), ("property", property)]

def computedMember (g : Grammar) (start : Marker) (object : Value) : Parse Value := do
  modifyContext fun c => { c with isBindingElement := false, isAssignmentTarget := true }
  expect "["
  let property ← isolate (expression g)
  expect "]"
  finish start "MemberExpression"
    [("computed", .bool true), ("object", object), ("property", property)]

def taggedTemplate (g : Grammar) (start : Marker) (tag : Value) : Parse Value := do
  let quasi ← template g
  finish start "TaggedTemplateExpression" [("tag", tag), ("quasi", quasi)]

/-- An object creation, or `new.target`. -/
def creation (g : Grammar) : Parse Value := do
  let start ← mark
  let id ← anyName
  if ← atMark "." then
    let _ ← advance
    let t ← look
    if t.isWord "target" && (← context).inFunctionBody then
      let property ← anyName
      finish start "MetaProperty" [("meta", id), ("property", property)]
    else unexpected t
  else if ← atKeyword "import" then unexpected (← look)
  else
    let callee ← isolate g.member
    let arguments ← if ← atMark "(" then callArguments g g.assignment else pure []
    markUnassignable
    finish start "NewExpression" [("callee", callee), ("arguments", .list arguments)]

def memberStep (g : Grammar) (start : Marker) (expr : Value) : Parse (Option Value) := do
  if ← atMark "[" then some <$> computedMember g start expr
  else if ← atMark "." then some <$> staticMember start expr
  else if ← sees Token.isTemplateHead then some <$> taggedTemplate g start expr
  else return none

/-- One step further in a chain of members and calls that began with a token. -/
def callStep (g : Grammar) (startToken : Token) (maybeAsync : Bool) (expr : Value) :
    Parse (Option Value) := do
  let start := markOf startToken 0
  if ← atMark "." then some <$> staticMember start expr
  else if ← atMark "(" then
    -- Behind `async` this is a call or the head of an arrow function.
    let isArrow := maybeAsync && startToken.line = (← look).line
    markUnassignable
    let arguments ← callArguments g (if isArrow then asyncArgument g else g.assignment)
    if expr.hasTag "Import" && arguments.length ≠ 1 then refuseOnLine .unexpected
    else
      let call ← finish start "CallExpression" [("callee", expr), ("arguments", .list arguments)]
      if isArrow && (← atMark "=>") then
        return some (arrowParameters (arguments.map asPattern) true)
      else return some call
  else if ← atMark "[" then some <$> computedMember g start expr
  else if ← sees Token.isTemplateHead then some <$> taggedTemplate g start expr
  else return none

def chainHead (g : Grammar) : Parse Value := do
  if (← atKeyword "super") && (← context).inFunctionBody then
    let start ← mark
    let _ ← advance
    let node ← finish start "Super" []
    if (← atMark "(") || (← atMark ".") || (← atMark "[") then return node
    else unexpected (← look)
  else if ← atKeyword "new" then inherit (creation g)
  else inherit (primary g)

def chain (g : Grammar) : Parse Value := do
  let startToken ← look
  let maybeAsync ← atWord "async"
  withAllowIn true do
    let first ← chainHead g
    iterate (callStep g startToken maybeAsync) (← tokenBound) first

def calleeHead (g : Grammar) : Parse Value := do
  if (← atKeyword "super") && (← context).inFunctionBody then
    let start ← mark
    expectKeyword "super"
    if (← atMark "[") || (← atMark ".") then finish start "Super" []
    else unexpected (← look)
  else if ← atKeyword "new" then inherit (creation g)
  else inherit (primary g)

def member (g : Grammar) : Parse Value := do
  let startToken ← look
  let first ← calleeHead g
  iterate (memberStep g (markOf startToken 0)) (← tokenBound) first

/-- Whether a node is a name that strict code cannot change. -/
def isRestrictedTarget (v : Value) : Bool := isIdentifier v && restrictedWords.contains (nameOf v)

def updateNode (start : Marker) (operator : Text) (argument : Value) (isBefore : Bool) :
    Parse Value :=
  finish start "UpdateExpression"
    [("operator", .text operator), ("argument", argument), ("prefix", .bool isBefore)]

def update (g : Grammar) : Parse Value := do
  let startToken ← look
  let start := markOf startToken 0
  if (← atMark "++") || (← atMark "--") then
    let t ← advance
    let argument ← inherit g.unary
    if (← context).strict && isRestrictedTarget argument then refuseOnLine .strictPrefix
    else if !(← context).isAssignmentTarget then refuseOnLine .invalidAssignmentTarget
    else
      let result ← updateNode start t.text argument true
      markUnassignable
      return result
  else
    let argument ← inherit (chain g)
    if !(← atLineBreak) && ((← atMark "++") || (← atMark "--")) then
      if (← context).strict && isRestrictedTarget argument then refuseOnLine .strictPostfix
      else if !(← context).isAssignmentTarget then refuseOnLine .invalidAssignmentTarget
      else
        markUnassignable
        let t ← advance
        updateNode start t.text argument false
    else return argument

def atUnaryOperator : Parse Bool := sees fun t =>
  ["+", "-", "~", "!"].any (fun text => t.isMark (Text.ofString text)) ||
    ["delete", "void", "typeof"].any fun word => t.isKeyword (Text.ofString word)

def unary (g : Grammar) : Parse Value := do
  if ← atUnaryOperator then
    let start := markOf (← look) 0
    let t ← advance
    let argument ← inherit g.unary
    let result ← finish start "UnaryExpression"
      [("prefix", .bool true), ("operator", .text t.text), ("argument", argument)]
    if (← context).strict && t.isKeyword "delete" && isIdentifier argument then
      refuseOnLine .strictDelete
    else
      markUnassignable
      return result
  else if (← context).isAsync && (← atWord "await") then
    let start ← mark
    let _ ← advance
    let argument ← g.unary
    finish start "AwaitExpression" [("argument", argument)]
  else update g

def binaryNode (start : Marker) (operator : Text) (left right : Value) : Parse Value :=
  let isLogical := operator = Text.ofString "||" || operator = Text.ofString "&&"
  finish start (if isLogical then "LogicalExpression" else "BinaryExpression")
    [("operator", .text operator), ("left", left), ("right", right)]

/-- A power; an operand with an operator before it cannot be raised. -/
def power (g : Grammar) : Parse Value := do
  let startToken ← look
  let left ← inherit (unary g)
  if !left.hasTag "UnaryExpression" && (← atMark "**") then
    let _ ← advance
    markUnassignable
    let right ← isolate g.power
    binaryNode (markOf startToken 0) "**" left right
  else return left

def precedences : List (Nat × List Text) :=
  [(1, ["||"]), (2, ["&&"]), (3, ["|"]), (4, ["^"]), (5, ["&"]), (6, ["==", "!=", "===", "!=="]),
    (7, ["<", ">", "<=", ">="]), (8, ["<<", ">>", ">>>"]), (9, ["+", "-"]), (11, ["*", "/", "%"])]

/-- How tightly a token binds as an operator between two operands; zero if it is none. -/
def precedence (allowIn : Bool) (t : Token) : Nat :=
  match t.lexeme with
  | .mark text =>
    ((precedences.find? fun entry => entry.2.contains text).map Prod.fst).getD 0
  | .keyword word =>
    if word = Text.ofString "instanceof" || (allowIn && word = Text.ofString "in") then 7 else 0
  | _ => 0

/-- An operand waiting for what follows it: the node, the token it began with, and the operator
before it with its precedence. -/
structure Waiting where
  node : Value
  start : Token
  operator : Text
  precedence : Nat

/-- Joins the topmost operand with those below it as long as its operator binds at least as tightly
as the next. -/
def reduceWhile (next : Nat) (top : Waiting) : List Waiting → Parse (List Waiting)
  | [] => return [top]
  | left :: below => do
    if next ≤ top.precedence then
      let joined ← binaryNode (markOf left.start 0) top.operator left.node top.node
      reduceWhile next { left with node := joined } below
    else return top :: left :: below

def reduceAll (expr : Value) (last : Token) (operator : Text) : List Waiting → Parse Value
  | [] => return expr
  | left :: below => do
    -- A token that spans lines is counted back from the line of the operand after it.
    let joined ← binaryNode (markOf left.start last.lineStart) operator left.node expr
    reduceAll joined left.start left.operator below

/-- Operands and operators after those that are waiting already, the topmost and those below it. -/
def binaryRest (operand : Parse Value) : (fuel : Nat) → Waiting → List Waiting → Parse Value
  | 0, _, _ => giveUp
  | fuel + 1, top, below => do
    let t ← look
    let next := precedence (← context).allowIn t
    if next = 0 then reduceAll top.node top.start top.operator below
    else
      let stack ← reduceWhile next top below
      let _ ← advance
      let start ← look
      let node ← isolate operand
      binaryRest operand fuel ⟨node, start, t.text, next⟩ stack

def binary (operand : Parse Value) : Parse Value := do
  let startToken ← look
  let first ← inherit operand
  let t ← look
  let next := precedence (← context).allowIn t
  if next = 0 then return first
  else
    let _ ← advance
    markUnassignable
    let start ← look
    let second ← isolate operand
    binaryRest operand (← tokenBound) ⟨second, start, t.text, next⟩ [⟨first, startToken, [], 0⟩]

def conditional (g : Grammar) : Parse Value := do
  let startToken ← look
  let test ← inherit (binary (power g))
  if ← atMark "?" then
    let _ ← advance
    let consequent ← withAllowIn true (isolate g.assignment)
    expect ":"
    let alternate ← isolate g.assignment
    let result ← finish (markOf startToken 0) "ConditionalExpression"
      [("test", test), ("consequent", consequent), ("alternate", alternate)]
    markUnassignable
    return result
  else return test

/-- Whether the next token can begin an expression after `yield`. -/
def atExpressionStart : Parse Bool := sees fun t =>
  match t.lexeme with
  | .mark text =>
    (["[", "(", "\x7b", "+", "-", "!", "~", "++", "--", "/", "/="].map Text.ofString).contains text
  | .keyword word =>
    (["class", "delete", "function", "let", "new", "super", "this", "typeof", "void",
      "yield"].map Text.ofString).contains word
  | _ => true

def yieldExpression (g : Grammar) : Parse Value := do
  let start ← mark
  expectKeyword "yield"
  let (argument, delegate) ←
    if ← atLineBreak then pure (.null, false)
    else
      withAllowYield false do
        if ← atMark "*" then
          let _ ← advance
          pure (← g.assignment, true)
        else if ← atExpressionStart then pure (← g.assignment, false)
        else pure (.null, false)
  finish start "YieldExpression" [("argument", argument), ("delegate", .bool delegate)]

/-- A bare `yield` as a default value, read again as the name that it is in parameters. -/
def yieldAsName (v : Value) : Value :=
  match v with
  | .object fields =>
    let kept := fields.filter fun field =>
      field.1 ≠ Text.ofString "argument" && field.1 ≠ Text.ofString "delegate"
    .object ((Fields.set kept "type" (.string "Identifier")) ++
      ([("name", .string "yield")] : Fields))
  | v => v

/-- A parameter of an arrow function, with a bare `yield` as default made a name. -/
def arrowParameter (isAsync : Bool) (v : Value) : Parse Value := do
  let right := v.field "right"
  if v.hasTag "AssignmentPattern" then
    if right.hasTag "YieldExpression" then
      if !(right.field "argument").isNull then unexpected (← look)
      else
        match v with
        | .object fields => return .object (Fields.set fields "right" (yieldAsName right))
        | v => return v
    else return v
  else if isAsync && isIdentifier v && (v.field "name").isText "await" then unexpected (← look)
  else return v

/-- The nodes of the parameters that an expression before an arrow stands for, if it does. -/
def arrowNodes? (expr : Value) : Option (List Value) :=
  if isIdentifier expr then some [expr]
  else if isArrowParameters expr then some (expr.field "params").items
  else none

def arrowFormals (expr : Value) : Parse (Option Parameters) := do
  match arrowNodes? expr with
  | none => return none
  | some nodes =>
    let isAsync := isArrowParameters expr && (expr.field "async" matches .bool true)
    let nodes ← nodes.mapM (arrowParameter isAsync)
    let c ← context
    let noted := (nodes.flatMap patternNames).foldl
      (fun p name => p.note c.strict .expression name) ({} : Parameters)
    if (c.strict || !c.allowYield) && nodes.any (fun node => node.hasTag "YieldExpression") then
      unexpected (← look)
    else if noted.fault = some .duplicateStrictParameter then refuse .duplicateStrictParameter
    else return some { noted with simple := nodes.all isIdentifier, nodes := nodes }

def arrowFunction (g : Grammar) (startToken : Token) (isAsync : Bool) (p : Parameters) :
    Parse Value := do
  if ← atLineBreak then unexpected (← look)
  else
    let before ← context
    modifyContext fun c =>
      { c with
        coverFault := none
        allowStrictDirective := p.simple
        allowYield := true
        isAsync := isAsync }
    let start := markOf startToken 0
    expect "=>"
    let body ←
      if ← atMark openBrace then withAllowIn true (functionBody g) else isolate g.assignment
    p.check
    let isExpression := !body.hasTag "BlockStatement"
    let result ← finish start "ArrowFunctionExpression"
      [("generator", .bool false), ("async", .bool isAsync), ("params", .list p.nodes),
        ("body", body), ("expression", .bool isExpression)]
    modifyContext fun c =>
      { c with
        strict := before.strict
        allowStrictDirective := before.allowStrictDirective
        allowYield := before.allowYield
        isAsync := before.isAsync }
    return result

def assignTo (g : Grammar) (startToken : Token) (target : Value) : Parse Value := do
  let c ← context
  if !c.isAssignmentTarget then refuseOnLine .invalidAssignmentTarget
  else if c.strict && isRestrictedTarget target then refuseToken startToken .strictAssignment
  else if c.strict && isIdentifier target && strictReservedWords.contains (nameOf target) then
    refuseToken startToken .strictReserved
  else
    let target ←
      if ← atMark "=" then pure (asPattern target)
      else
        markUnassignable
        pure target
    let t ← advance
    let right ← isolate g.assignment
    let result ← finish (markOf startToken 0) "AssignmentExpression"
      [("operator", .text t.text), ("left", target), ("right", right)]
    modifyContext fun c => { c with coverFault := none }
    return result

/-- An expression that began with a token, or the parameter after it where it is the word
`async`. -/
def asyncParameter (g : Grammar) (startToken : Token) (expr : Value) : Parse Value := do
  let next ← look
  if startToken.isWord "async" && startToken.line = next.line &&
      (next.isIdentifier || next.isKeyword "yield") then
    let parameter ← primary g
    return arrowParameters [asPattern parameter] true
  else return expr

/-- The rest of an expression that began with a token: an arrow function or an assignment. -/
def assignmentRest (g : Grammar) (startToken : Token) (expr : Value) : Parse Value := do
  if isArrowParameters expr || (← atMark "=>") then
    markUnassignable
    match ← arrowFormals expr with
    | some p => arrowFunction g startToken (expr.field "async" matches .bool true) p
    | none => return expr
  else if ← atAssignment then assignTo g startToken expr
  else return expr

def assignment (g : Grammar) : Parse Value := do
  if !(← context).allowYield && (← atKeyword "yield") then yieldExpression g
  else
    let startToken ← look
    let expr ← conditional g
    assignmentRest g startToken (← asyncParameter g startToken expr)

end ExportList.Script
