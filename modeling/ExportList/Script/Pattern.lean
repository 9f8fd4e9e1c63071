import ExportList.Script.Reader

/-!
Patterns: what declarations and parameters bind, and expressions read again as patterns.
-/

set_option autoImplicit false

namespace ExportList.Script

def patternTag (tag : Text) : Text :=
  if tag = Text.ofString "SpreadElement" then "RestElement"
  else if tag = Text.ofString "ArrayExpression" then "ArrayPattern"
  else if tag = Text.ofString "ObjectExpression" then "ObjectPattern"
  else if tag = Text.ofString "AssignmentExpression" then "AssignmentPattern"
  else tag

/-- The part of an expression that a field holds, when the expression is read as a pattern. -/
inductive PatternPart where
  | tag
  | operator
  | target
  | elements
  | properties
  | other

def patternPart (tag key : Text) : PatternPart :=
  let isField := fun (t k : String) => tag = Text.ofString t && key = Text.ofString k
  if key = Text.ofString "type" then .tag
  else if isField "AssignmentExpression" "operator" then .operator
  else if isField "AssignmentExpression" "left" || isField "SpreadElement" "argument" then .target
  else if isField "ArrayExpression" "elements" then .elements
  else if isField "ObjectExpression" "properties" then .properties
  else .other

mutual

/-- An expression read as a pattern, as far as it can be. -/
def asPattern : Value → Value
  | .object fields => .object (fieldsAsPattern (tagOf (.object fields)) fields)
  | v => v

/-- The fields of an expression with a given tag read as a pattern. -/
def fieldsAsPattern (tag : Text) : List (Text × Value) → List (Text × Value)
  | [] => []
  | (key, value) :: rest =>
    let rest := fieldsAsPattern tag rest
    match patternPart tag key with
    | .tag => (key, .text (patternTag tag)) :: rest
    | .operator => rest
    | .target => (key, asPattern value) :: rest
    | .elements =>
      match value with
      | .list items => (key, .list (itemsAsPatterns items)) :: rest
      | _ => (key, value) :: rest
    | .properties =>
      match value with
      | .list items => (key, .list (propertiesAsPatterns items)) :: rest
      | _ => (key, value) :: rest
    | .other => (key, value) :: rest

def itemsAsPatterns : List Value → List Value
  | [] => []
  | item :: rest => asPattern item :: itemsAsPatterns rest

def propertiesAsPatterns : List Value → List Value
  | [] => []
  | property :: rest =>
    let rest := propertiesAsPatterns rest
    match property with
    | .object fields =>
      if (Value.object fields).hasTag "SpreadElement" then asPattern (.object fields) :: rest
      else .object (valueAsPattern fields) :: rest
    | v => v :: rest

/-- The fields of a property with its value read as a pattern. -/
def valueAsPattern : List (Text × Value) → List (Text × Value)
  | [] => []
  | (key, value) :: rest =>
    let rest := valueAsPattern rest
    if key = Text.ofString "value" then (key, asPattern value) :: rest else (key, value) :: rest

end

/-- The field of a pattern that holds the pattern inside it. -/
def innerKey (tag : Text) : Text :=
  if tag = Text.ofString "RestElement" then "argument"
  else if tag = Text.ofString "AssignmentPattern" then "left"
  else if tag = Text.ofString "ArrayPattern" then "elements"
  else if tag = Text.ofString "ObjectPattern" then "properties"
  else if tag = Text.ofString "Identifier" then "name"
  else []

mutual

/-- The names of the identifiers that a pattern binds, in order. -/
def patternNames : Value → List Text
  | .object fields => fieldNames (innerKey (tagOf (.object fields))) fields
  | _ => []

def fieldNames (inner : Text) : List (Text × Value) → List Text
  | [] => []
  | (key, value) :: rest =>
    if key = inner then
      match value with
      | .text name => name :: fieldNames inner rest
      | .list items =>
        (if inner = Text.ofString "properties" then propertyNames items else itemNames items) ++
          fieldNames inner rest
      | .object fields => patternNames (.object fields) ++ fieldNames inner rest
      | _ => fieldNames inner rest
    else fieldNames inner rest

def itemNames : List Value → List Text
  | [] => []
  | item :: rest => patternNames item ++ itemNames rest

def propertyNames : List Value → List Text
  | [] => []
  | property :: rest =>
    (match property with
      | .object fields =>
        if (Value.object fields).hasTag "RestElement" then patternNames (.object fields)
        else valueNames fields
      | _ => []) ++ propertyNames rest

def valueNames : List (Text × Value) → List Text
  | [] => []
  | (key, value) :: rest =>
    (if key = Text.ofString "value" then patternNames value else []) ++ valueNames rest

end

def literalValue (t : Token) : Value :=
  match t.lexeme with
  | .number (.whole n) _ => .nat n
  | .number (.double bits) _ => .float bits
  | .string value _ => .text value
  | .boolean value => .bool value
  | _ => .null

def literalNode (start : Marker) (t : Token) : Parse Value :=
  finish start "Literal" [("value", literalValue t), ("raw", .text t.raw)]

/-- The name of a property in an object or class. -/
def propertyKey (g : Grammar) : Parse Value := do
  let start ← mark
  let t ← advance
  match t.lexeme with
  | .string .. | .number .. =>
    if (← context).strict && t.isOctal then refuseToken t .strictOctal
    else literalNode start t
  | .identifier _ | .boolean _ | .null | .keyword _ => identifierNode start t.text
  | .mark text =>
    if text = Text.ofString "[" then
      let key ← isolate g.assignment
      expect "]"
      return key
    else unexpected t
  | _ => unexpected t

/-- Whether a property name is a given one, written as a name or as a string. -/
def isPropertyNamed (key : Value) (name : Text) : Bool :=
  (isIdentifier key && (key.field "name").isText name) ||
    (key.hasTag "Literal" && (key.field "value").isText name)

/-- The name of a variable, for a declaration of a given kind. -/
def variableName (kind : Option Text) : Parse Value := do
  let start ← mark
  let t ← advance
  let c ← context
  match t.lexeme with
  | .keyword word =>
    if word = Text.ofString "yield" then
      if c.strict then refuseToken t .strictReserved
      else if !c.allowYield then unexpected t
      else identifierNode start word
    else if c.strict && strictReservedWords.contains word then refuseToken t .strictReserved
    -- `let` is a name only in a `var` declaration.
    else if c.strict || word ≠ Text.ofString "let" ||
        kind ≠ some (Text.ofString "var") then unexpected t
    else identifierNode start word
  | .identifier name =>
    if (c.isModule || c.isAsync) && name.val = Text.ofString "await" then unexpected t
    else identifierNode start name
  | _ =>
    if c.strict || t.text ≠ Text.ofString "let" ||
        kind ≠ some (Text.ofString "var") then unexpected t
    else identifierNode start t.text

def patternWithDefault (g : Grammar) (kind : Option Text) : Parse (Value × List Token) := do
  let startToken ← look
  let (target, bound) ← g.pattern kind
  if ← atMark "=" then
    let _ ← advance
    let right ← withAllowYield true (isolate g.assignment)
    let whole ← finish (markOf startToken 0) "AssignmentPattern"
      [("left", target), ("right", right)]
    return (whole, bound)
  else return (target, bound)

def restElement (g : Grammar) (kind : Option Text) : Parse (Value × List Token) := do
  let start ← mark
  expect "..."
  let (target, bound) ← g.pattern kind
  return (← finish start "RestElement" [("argument", target)], bound)

/-- The elements of an array pattern up to its closing bracket; nothing can follow what is left
over. -/
def arrayPatternElements (g : Grammar) (kind : Option Text) :
    (fuel : Nat) → Parse (List Value × List Token)
  | 0 => giveUp
  | fuel + 1 => do
    if ← atMark "]" then return ([], [])
    else if ← atMark "," then
      let _ ← advance
      let (elements, bound) ← arrayPatternElements g kind fuel
      return (.null :: elements, bound)
    else if ← atMark "..." then
      let (element, bound) ← restElement g kind
      return ([element], bound)
    else
      let (element, bound) ← patternWithDefault g kind
      if !(← atMark "]") then expect ","
      let (elements, later) ← arrayPatternElements g kind fuel
      return (element :: elements, bound ++ later)

def arrayPattern (g : Grammar) (kind : Option Text) : Parse (Value × List Token) := do
  let start ← mark
  expect "["
  let (elements, bound) ← arrayPatternElements g kind (← tokenBound)
  expect "]"
  return (← finish start "ArrayPattern" [("elements", .list elements)], bound)

def propertyNode (start : Marker) (key : Value) (computed : Bool) (value : Value) (kind : Text)
    (method shorthand : Bool) : Parse Value :=
  finish start "Property"
    [("key", key), ("computed", .bool computed), ("value", value), ("kind", .text kind),
      ("method", .bool method), ("shorthand", .bool shorthand)]

def propertyPattern (g : Grammar) (kind : Option Text) : Parse (Value × List Token) := do
  let start ← mark
  let keyToken ← look
  if keyToken.isIdentifier then
    let key ← variableName none
    let init ← identifierNode start keyToken.text
    if ← atMark "=" then
      let _ ← advance
      let right ← g.assignment
      let value ← finish (markOf keyToken 0) "AssignmentPattern" [("left", init), ("right", right)]
      return (← propertyNode start key false value "init" false true, [keyToken])
    else if !(← atMark ":") then
      return (← propertyNode start key false init "init" false true, [keyToken])
    else
      expect ":"
      let (value, bound) ← patternWithDefault g kind
      return (← propertyNode start key false value "init" false false, bound)
  else
    let computed ← atMark "["
    let key ← propertyKey g
    expect ":"
    let (value, bound) ← patternWithDefault g kind
    return (← propertyNode start key computed value "init" false false, bound)

/-- What is left over in an object pattern; nothing can follow it. -/
def restProperty (g : Grammar) : Parse (Value × List Token) := do
  let start ← mark
  expect "..."
  let (target, bound) ← g.pattern none
  if ← atMark "=" then refuse .restWithDefault
  else if !(← atMark closeBrace) then refuse .unexpected
  else return (← finish start "RestElement" [("argument", target)], bound)

def objectPattern (g : Grammar) (kind : Option Text) : Parse (Value × List Token) := do
  let start ← mark
  expect openBrace
  let entries ← collectWhile (fun t => !t.isMark closeBrace) do
    let entry ← if ← atMark "..." then restProperty g else propertyPattern g kind
    if !(← atMark closeBrace) then expect ","
    return entry
  expect closeBrace
  return (← finish start "ObjectPattern" [("properties", .list (entries.map Prod.fst))],
    entries.flatMap Prod.snd)

/-- Whether a kind of declaration binds in its block. -/
def isLexicalKind (kind : Option Text) : Bool :=
  kind = some (Text.ofString "let") || kind = some (Text.ofString "const")

def bindingPattern (g : Grammar) (kind : Option Text) : Parse (Value × List Token) := do
  if ← atMark "[" then arrayPattern g kind
  else if ← atMark openBrace then objectPattern g kind
  else
    let t ← look
    if t.isKeyword "let" && isLexicalKind kind then refuseToken t .letBoundLexically
    else return (← variableName kind, [t])

end ExportList.Script
