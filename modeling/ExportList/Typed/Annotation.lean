import ExportList.Typed.Pattern

/-!
Types.
-/

set_option autoImplicit false

namespace ExportList.Typed

open Concrete (Point Tree Label)

def typeArguments (g : Grammar) : Parse Unit := do
  expect "<"
  let arguments ← inside (commaSeparated ">" g.annotation)
  if arguments.isEmpty then failure
  expect ">"

def typeArguments? (g : Grammar) : Parse Unit := do
  if ← atMark "<" then typeArguments g

/-- A sign before a modifier that is added or taken away. -/
def acceptSign : Parse Unit := do
  unless ← accept "+" do
    let _ ← accept "-"

def indexSignature (g : Grammar) : Parse Unit := do
  acceptSign
  let _ ← acceptWord "readonly"
  expect "["
  inside do
    expectToken Token.isAnyWord
    if ← accept ":" then g.annotation
    else
      expectWord "in"
      g.annotation
      if ← acceptWord "as" then g.annotation
  expect "]"
  acceptSign
  let _ ← accept "?"
  annotation? g

def namedMember (g : Grammar) : Parse Unit := do
  skipModifiers ["public", "private", "protected", "static", "override", "readonly"] isPropertyStart
  let isMethod ← acceptMethodMarks
  propertyName (computedName g)
  let _ ← accept "?"
  if (← atMark "(") || (← atMark "<") then signature g
  else if isMethod then failure
  else annotation? g

def atConstructSignature : Parse Bool := do
  if ← atWord "new" then
    let (second, _) ← lookSecond
    return second.isMark "(" || second.isMark "<"
  else return false

def typeMember (g : Grammar) : Parse Unit := do
  if (← atMark "(") || (← atMark "<") then signature g
  else if ← atConstructSignature then
    advance
    signature g
  else indexSignature g <|> namedMember g

def memberStop : Parse Unit := do
  unless ← accept "," do
    let _ ← semicolon false

def objectType (g : Grammar) : Parse Unit := do
  expect "\x7b"
  afresh do
    if (← atMark ",") || (← atMark ";") then
      advance
      if ← atMark "\x7d" then failure
    let _ ← collectWhile (return !(← atMark "\x7d")) do
      typeMember g
      memberStop
  expect "\x7d"

def tupleElement (g : Grammar) : Parse Unit := do
  let _ ← accept "..."
  (do
    expectToken Token.isAnyWord
    let _ ← accept "?"
    expect ":"
    g.annotation) <|>
  (do
    g.annotation
    let _ ← accept "?")

def importType (g : Grammar) : Parse Unit := do
  expectWord "import"
  expect "("
  inside do
    g.annotation
    if ← accept "," then
      let _ ← g.expression
  expect ")"
  dottedRest
  typeArguments? g

def typeQuery (g : Grammar) : Parse Unit := do
  expectWord "typeof"
  if ← atWord "import" then importType g
  else
    expectToken Token.isAnyWord
    dottedRest
    typeArguments? g

/-- A type made of one name, literal or bracketed part. -/
def primaryType (g : Grammar) : Parse Unit := do
  match ← look with
  | .mark "(" =>
    advance
    inside g.annotation
    expect ")"
  | .mark "\x7b" => objectType g
  | .mark "[" =>
    advance
    let _ ← inside (commaSeparated "]" (tupleElement g))
    expect "]"
  | .mark "-" =>
    advance
    expectToken (· = .number)
  | .string => advance
  | .number => advance
  | .tick => template g.annotation
  | .word "import" => importType g
  | .word "typeof" => typeQuery g
  | .word _ =>
    advance
    dottedRest
    typeArguments? g
  | _ => failure

/-- A type with the brackets of lists and members behind it. -/
def postfixType (g : Grammar) : Parse Unit := do
  primaryType g
  let _ ← collectWhile (return (← atMark "[") && !(← isCut false)) do
    advance
    unless ← atMark "]" do inside g.annotation
    expect "]"

def functionType (g : Grammar) : Parse Unit := do
  typeParameters? g
  parameters g
  expect "=>"
  resultType g

def constructorType (g : Grammar) : Parse Unit := do
  let _ ← acceptWord "abstract"
  expectWord "new"
  functionType g

/-- A type variable that is to be found out, and what it has to extend. -/
def inferredType (g : Grammar) : Parse Unit := do
  expectWord "infer"
  expectToken Token.isAnyWord
  let _ ← attempt do
    expectWord "extends"
    g.operandType
    if (← read).conditions && (← atMark "?") then failure

/-- A type without marks between its parts. -/
def operandType (g : Grammar) : Parse Unit := do
  match ← look with
  | .mark "<" => functionType g
  | .mark "(" => functionType g <|> postfixType g
  | .word "new" => constructorType g
  | .word text =>
    if text = "abstract" && (← lookSecond).1.isWord "new" then constructorType g
    else if ["keyof", "readonly", "unique"].contains text then
      advance
      g.operandType
    else if text = "infer" then inferredType g
    else postfixType g
  | _ => postfixType g

/-- Parts with a mark between them, and perhaps one before the first. -/
def separatedBy (text : String) (part : Parse Unit) : Parse Unit := do
  let _ ← accept text
  part
  let _ ← collectWhile (atMark text) do
    advance
    part

def unionType (g : Grammar) : Parse Unit := separatedBy "|" (separatedBy "&" (operandType g))

def annotation (g : Grammar) : Parse Unit := do
  unionType g
  if (← atWord "extends") && !(← isCut false) then
    let _ ← attempt do
      advance
      withReader (fun c => { c with conditions := false }) (unionType g)
      expect "?"
      inside g.annotation
      expect ":"
      g.annotation

end ExportList.Typed
