import ExportList.Script.Pattern

/-!
Functions: parameters, bodies with their directives, and the methods of objects and classes.
-/

set_option autoImplicit false

namespace ExportList.Script

/-- What is at fault with parameters: a token of them, or an expression read again as a parameter,
which no longer knows its place. -/
inductive Offender where
  | token (t : Token)
  | expression

def refuseOffender {α : Type} (offender : Offender) (fault : Fault) : Parse α :=
  match offender with
  | .token t => refuseToken t fault
  | .expression => refuse fault

/-- Parameters with what strict code would object to: `restricted` if the code turns out to be
strict, `stricted` at any rate in strict code. -/
structure Parameters where
  simple : Bool := true
  nodes : List Value := []
  seen : List Text := []
  restricted : Option Offender := none
  stricted : Option Offender := none
  fault : Option Fault := none

def Parameters.note (p : Parameters) (strict : Bool) (offender : Offender) (name : Text) :
    Parameters :=
  let isRepeated := p.seen.contains name
  let isRestricted := restrictedWords.contains name
  let checked :=
    if strict then
      let p := if isRestricted then
          { p with stricted := some offender, fault := some .strictParameterName }
        else p
      if isRepeated then
        { p with stricted := some offender, fault := some .duplicateStrictParameter }
      else p
    -- A directive may still make the code strict; the first objection is kept for that.
    else if p.restricted.isSome then p
    else if isRestricted then
      { p with restricted := some offender, fault := some .strictParameterName }
    else if strictReservedWords.contains name then
      { p with restricted := some offender, fault := some .strictReserved }
    else if isRepeated then
      { p with stricted := some offender, fault := some .duplicateStrictParameter }
    else p
  { checked with seen := name :: checked.seen }

def Parameters.check (p : Parameters) : Parse Unit := do
  if (← context).strict then
    match p.restricted.or p.stricted, p.fault with
    | some offender, some fault => refuseOffender offender fault
    | _, _ => return ()

def restParameter (g : Grammar) : Parse (Value × List Token) := do
  let start ← mark
  expect "..."
  let (target, bound) ← g.pattern none
  if ← atMark "=" then refuse .restWithDefault
  else if !(← atMark ")") then refuse .restNotLast
  else return (← finish start "RestElement" [("argument", target)], bound)

def parameter (g : Grammar) (p : Parameters) : Parse Parameters := do
  let (target, bound) ← if ← atMark "..." then restParameter g else patternWithDefault g none
  let strict := (← context).strict
  let noted := bound.foldl (fun p t => p.note strict (.token t) t.text) p
  return { noted with
    simple := noted.simple && isIdentifier target
    nodes := noted.nodes ++ [target] }

def parametersRest (g : Grammar) : (fuel : Nat) → Parameters → Parse Parameters
  | 0, _ => giveUp
  | fuel + 1, p => do
    if ← atEnd then return p
    else
      let p ← parameter g p
      if ← atMark ")" then return p
      else
        expect ","
        if ← atMark ")" then return p else parametersRest g fuel p

/-- The parameters of a function whose name may already be restricted. -/
def parameters (g : Grammar) (restricted : Option Offender) (fault : Option Fault) :
    Parse Parameters := do
  let empty : Parameters := { restricted := restricted, fault := fault }
  expect "("
  let p ← if ← atMark ")" then pure empty else parametersRest g (← tokenBound) empty
  expect ")"
  return p

def expression (g : Grammar) : Parse Value := do
  let startToken ← look
  let first ← isolate g.assignment
  if ← atMark "," then
    let others ← collectWhile (fun t => t.isMark ",") do
      let _ ← advance
      isolate g.assignment
    finish (markOf startToken 0) "SequenceExpression" [("expressions", .list (first :: others))]
  else return first

/-- An expression that begins with a string, and the words between the quotes if the string is all
of it. -/
def directive (g : Grammar) : Parse (Value × Text) := do
  let t ← look
  let expr ← expression g
  return (expr, if expr.hasTag "Literal" then (t.raw.drop 1).dropLast else [])

/-- A node for a statement that is an expression, with the words of a directive. -/
def directiveNode (start : Marker) (expr : Value) (words : Text) : Parse Value :=
  if words.isEmpty then finish start "ExpressionStatement" [("expression", expr)]
  else finish start "ExpressionStatement" [("expression", expr), ("directive", .text words)]

/-- Directives at the start of a body, given the first one with an octal escape. -/
def directives (g : Grammar) : (fuel : Nat) → (octal : Option Token) → Parse (List Value)
  | 0, _ => giveUp
  | fuel + 1, octal => do
    let t ← look
    if !t.isString then return []
    else
      let start ← mark
      let (expr, words) ← directive g
      endStatement
      let statement ← directiveNode start expr words
      if words.isEmpty then return [statement]
      else if words = Text.ofString "use strict" then
        modifyContext fun c => { c with strict := true }
        -- An octal escape is an error also in a directive before this one.
        match octal with
        | some t => refuseToken t .strictOctal
        | none =>
          if !(← context).allowStrictDirective then refuseToken t .strictDirective
          else return statement :: (← directives g fuel octal)
      else
        let octal := if octal.isNone && t.isOctal then some t else octal
        return statement :: (← directives g fuel octal)

def functionBody (g : Grammar) : Parse Value := do
  let start ← mark
  expect openBrace
  let opening ← directives g (← tokenBound) none
  let statements ← inFunction do
    let statements ← collectWhile (fun t => !t.isEnd && !t.isMark closeBrace) g.item
    expect closeBrace
    return statements
  finish start "BlockStatement" [("body", .list (opening ++ statements))]

/-- A body after parameters; strict code inside it can object to them. -/
def bodyAfter (p : Parameters) (body : Parse Value) : Parse Value := do
  let before ← context
  modifyContext fun c => { c with allowStrictDirective := p.simple }
  let result ← body
  p.check
  modifyContext fun c =>
    { c with strict := before.strict, allowStrictDirective := before.allowStrictDirective }
  return result

inductive FunctionKind where
  | ordinary
  | generator
  | asynchronous
deriving DecidableEq, Repr

def functionNode (start : Marker) (tag : Text) (kind : FunctionKind) (id : Value)
    (parameters : List Value) (body : Value) : Parse Value :=
  let parts : Fields := [("id", id), ("params", .list parameters), ("body", body)]
  let plain : Text × Value := ("expression", .bool false)
  let isAsync : Text × Value := ("async", .bool (kind = .asynchronous))
  let generator : Text × Value := ("generator", .bool (kind = .generator))
  if kind = .asynchronous then finish start tag ([generator, plain, isAsync] ++ parts)
  else finish start tag ([plain, isAsync] ++ parts ++ [generator])

def methodBody (g : Grammar) (p : Parameters) : Parse Value := do
  markUnassignable
  bodyAfter p (isolate (functionBody g))

def method (g : Grammar) (kind : FunctionKind) : Parse Value := do
  let start ← mark
  let before ← context
  modifyContext fun c =>
    { c with
      allowYield := kind ≠ .asynchronous
      isAsync := c.isAsync || kind = .asynchronous }
  let p ← parameters g none none
  if kind = .generator then modifyContext fun c => { c with allowYield := false }
  let body ← methodBody g p
  modifyContext fun c => { c with allowYield := before.allowYield, isAsync := before.isAsync }
  functionNode start "FunctionExpression" kind .null p.nodes body

def getter (g : Grammar) : Parse Value := do
  let start ← mark
  withAllowYield true do
    let p ← parameters g none none
    if !p.nodes.isEmpty then refuseOnLine .getterWithParameters
    else
      let body ← methodBody g p
      functionNode start "FunctionExpression" .ordinary .null p.nodes body

def setter (g : Grammar) : Parse Value := do
  let start ← mark
  withAllowYield true do
    let p ← parameters g none none
    match p.nodes with
    | [only] =>
      if only.hasTag "RestElement" then refuseOnLine .setterRest
      else
        let body ← methodBody g p
        functionNode start "FunctionExpression" .ordinary .null p.nodes body
    | _ => refuseOnLine .setterArity

def atAsyncFunction : Parse Bool := do
  if ← atWord "async" then
    let line := (← get).scanner.cursor.line
    let next ← lookSecond
    -- No line can end between the two words.
    return next.line = line && next.isKeyword "function"
  else return false

/-- The words before a function's name: its kind. -/
def functionHead : Parse FunctionKind := do
  let isAsync ← atWord "async"
  if isAsync then
    let _ ← advance
  expectKeyword "function"
  if isAsync then return .asynchronous
  else if ← atMark "*" then
    let _ ← advance
    return .generator
  else return .ordinary

/-- What strict code would object to in the name of a function. -/
def nameObjection (t : Token) : Parse (Option Offender × Option Fault) := do
  if (← context).strict then
    if restrictedWords.contains t.text then refuseToken t .strictFunctionName
    else return (none, none)
  else if restrictedWords.contains t.text then
    return (some (.token t), some .strictFunctionName)
  else if strictReservedWords.contains t.text then
    return (some (.token t), some .strictReserved)
  else return (none, none)

def enterFunction (kind : FunctionKind) : Parse Unit :=
  modifyContext fun c =>
    { c with isAsync := kind = .asynchronous, allowYield := kind ≠ .generator }

/-- Parameters and body of a function, after which the context is as it was before. -/
def functionRest (g : Grammar) (before : Context) (restricted : Option Offender)
    (fault : Option Fault) : Parse (List Value × Value) := do
  let p ← parameters g restricted fault
  let body ← bodyAfter p (functionBody g)
  modifyContext fun c => { c with isAsync := before.isAsync, allowYield := before.allowYield }
  return (p.nodes, body)

/-- A function declaration; the name of a default export can be left out. -/
def functionDeclaration (g : Grammar) (isNameOptional : Bool) : Parse Value := do
  let start ← mark
  let kind ← functionHead
  let isNamed := !isNameOptional || !(← atMark "(")
  let t ← look
  let id ← if isNamed then variableName none else pure .null
  let (restricted, fault) ← if isNamed then nameObjection t else pure (none, none)
  let before ← context
  enterFunction kind
  let (nodes, body) ← functionRest g before restricted fault
  functionNode start "FunctionDeclaration" kind id nodes body

def anyName : Parse Value := do
  let start ← mark
  let t ← advance
  if t.isName then identifierNode start t.text else unexpected t

def functionExpression (g : Grammar) : Parse Value := do
  let start ← mark
  let kind ← functionHead
  let before ← context
  enterFunction kind
  let isNamed := !(← atMark "(")
  let t ← look
  let id ←
    if !isNamed then pure .null
    else if !before.strict && kind ≠ .generator && t.isKeyword "yield" then anyName
    else variableName none
  let (restricted, fault) ← if isNamed then nameObjection t else pure (none, none)
  let (nodes, body) ← functionRest g before restricted fault
  functionNode start "FunctionExpression" kind id nodes body

end ExportList.Script
