import ExportList.Typed.Annotation

/-!
Expressions.  The tree of an expression says only of what kind it is and where it stands.
-/

set_option autoImplicit false

namespace ExportList.Typed

open Concrete (Point Tree Label)

def sequence (g : Grammar) : Parse Tree := do
  let start ← here
  let first ← g.expression
  let others ← collectWhile (atMark ",") do
    advance
    g.expression
  if others.isEmpty then return first else leaf "sequence_expression" start

/-- Statements in braces; gives the end of the block. -/
def block (g : Grammar) : Parse Point := do
  expect "\x7b"
  let _ ← afresh (collectWhile (return !(← atMark "\x7d")) g.statement)
  expect "\x7d"
  optionalStop

def blockNode (g : Grammar) : Parse Tree := do
  let start ← here
  let stop ← block g
  return node "statement_block" start stop []

/-- Goes over tokens up to the bracket that closes `depth` open ones; gives the token behind it. -/
def behindBrackets? : (fuel : Nat) → (depth : Nat) → State → Option Token
  | 0, _, _ => none
  | fuel + 1, depth, s =>
    let ahead := State.behind s.after
    match s.next with
    | .finish => none
    | .invalid => none
    | .mark text =>
      if ["(", "[", "\x7b"].contains text then behindBrackets? fuel (depth + 1) ahead
      else if [")", "]", "\x7d"].contains text then
        -- Brackets are counted whatever their kind.
        if depth ≤ 1 then some ahead.next else behindBrackets? fuel (depth - 1) ahead
      else behindBrackets? fuel depth ahead
    | _ => behindBrackets? fuel depth ahead

/-- The token behind the brackets that come next. -/
def lookBehindBrackets : Parse (Option Token) := do
  return behindBrackets? (← read).size 0 (← get)

/-- Whether the parentheses that come next can hold the parameters of an arrow function. -/
def atArrowParameters : Parse Bool := do
  match ← lookBehindBrackets with
  | some t => return t.isMark "=>" || t.isMark ":"
  -- A regular expression or a template can lead the count astray; then reading decides.
  | none => return true

/-- Whether the brackets that come next are a pattern that is assigned to. -/
def atTarget : Parse Bool := do
  match ← lookBehindBrackets with
  | some t => return t.isMark "="
  | none => return true

def functionKind (isGenerator : Bool) : String :=
  if isGenerator then "generator_function" else "function_expression"

def functionExpression (g : Grammar) : Parse Tree := do
  let start ← here
  let _ ← acceptWord "async"
  expectWord "function"
  let isGenerator ← accept "*"
  if (← look).isAnyWord then advance
  signature g
  let stop ← block g
  return node (functionKind isGenerator) start stop []

def arrowBody (g : Grammar) (start : Point) : Parse Tree := do
  expect "=>"
  if ← atMark "\x7b" then
    let stop ← block g
    return node "arrow_function" start stop []
  else
    let body ← g.expression
    return node "arrow_function" start body.label.stop []

def arrowFunction (g : Grammar) : Parse Tree := do
  let start ← here
  if (← atWord "async") && !(← lookSecond).2.hasBreak then advance
  typeParameters? g
  if ← atArrowParameters then
    parameters g
    if (← read).returnTypes then
      if ← accept ":" then resultType g
    arrowBody g start
  else failure

/-- An arrow function with one parameter that waits for others. -/
def asyncArrowFunction (g : Grammar) : Parse Tree := do
  let start ← here
  expectWord "async"
  if ← hasBreak then failure
  expectToken Token.isAnyWord
  arrowBody g start

def objectMember (g : Grammar) : Parse Unit := do
  if ← accept "..." then
    let _ ← g.expression
  else
    skipModifiers ["static"] fun t => isPropertyStart t || t.isMark "*"
    let isMethod ← acceptMethodMarks
    let isWord := (← look).isAnyWord
    propertyName (computedName g)
    if (← atMark "(") || (← atMark "<") then
      signature g
      let _ ← block g
    else if isMethod then failure
    else if ← accept ":" then
      let _ ← g.expression
    else unless isWord do failure

def object (g : Grammar) : Parse Tree := do
  let start ← here
  expect "\x7b"
  let _ ← inside (commaSeparated "\x7d" (objectMember g))
  expect "\x7d"
  leaf "object" start

/-- An element of a list; it may be missing. -/
def arrayElement (g : Grammar) : Parse Unit := do
  unless ← atMark "," do
    let _ ← accept "..."
    let _ ← g.expression

def array (g : Grammar) : Parse Tree := do
  let start ← here
  expect "["
  let _ ← inside (commaSeparated "]" (arrayElement g))
  expect "]"
  leaf "array" start

/-- The length of the rest of a regular expression with its closing slash. -/
def patternLength? (isEscaped inClass : Bool) : List Char → Option Nat
  | [] => none
  | c :: rest =>
    if c = '\n' then none
    else if isEscaped then (patternLength? false inClass rest).map (· + 1)
    else if c = '\\' then (patternLength? true inClass rest).map (· + 1)
    else if inClass then (patternLength? false (c ≠ ']') rest).map (· + 1)
    else if c = '[' then (patternLength? false true rest).map (· + 1)
    else if c = '/' then some 1
    else (patternLength? false false rest).map (· + 1)

def regularExpression : Parse Tree := do
  let start ← here
  let behindSlash := (← get).start.skip 1
  match patternLength? false false behindSlash.rest with
  | none => failure
  | some length =>
    if length = 1 then failure
    else
      let behindPattern := behindSlash.skip length
      goOnAt
        (Cursor.skipWhile (fun c => 'a' ≤ c && c ≤ 'z') behindPattern.point behindPattern.rest)
      leaf "regex" start

def parenthesized (g : Grammar) : Parse Tree := do
  let start ← here
  expect "("
  inside do
    let _ ← sequence g
    annotation? g
  expect ")"
  leaf "parenthesized_expression" start

def memberModifiers : List String :=
  ["public", "private", "protected", "static", "abstract", "override", "readonly", "declare",
    "accessor"]

def fieldStop (operand : Bool) : Parse Unit := do
  unless ← accept "," do
    let _ ← semicolon operand

def classMember (g : Grammar) : Parse Unit := do
  skipModifiers memberModifiers fun t => isPropertyStart t || t.isMark "*"
  let isMethod ← acceptMethodMarks
  propertyName (computedName g)
  unless ← accept "?" do
    let _ ← accept "!"
  if (← atMark "(") || (← atMark "<") then
    signature g
    if ← atMark "\x7b" then
      let _ ← block g
      let _ ← accept ";"
    else fieldStop false
  else if isMethod then failure
  else
    annotation? g
    let hasValue ← atMark "="
    initializer? g
    fieldStop hasValue

def classIndexSignature (g : Grammar) : Parse Unit := do
  let _ ← acceptWord "static"
  indexSignature g
  fieldStop false

def classItem (g : Grammar) : Parse Unit := do
  unless ← accept ";" do
    decorators g
    if (← atWord "static") && (← lookSecond).1.isMark "\x7b" then
      advance
      let _ ← block g
    else classIndexSignature g <|> classMember g

def heritage (g : Grammar) : Parse Unit := do
  if ← acceptWord "extends" then
    let _ ← g.chain
    typeArguments? g
  if ← acceptWord "implements" then
    g.annotation
    let _ ← collectWhile (atMark ",") do
      advance
      g.annotation

def classRest (g : Grammar) : Parse Unit := do
  typeParameters? g
  inside (heritage g)
  expect "\x7b"
  let _ ← afresh (collectWhile (return !(← atMark "\x7d")) (classItem g))
  expect "\x7d"

def atClassName : Parse Bool := do
  match ← look with
  | .word text => return text ≠ "extends" && text ≠ "implements"
  | _ => return false

def classExpression (g : Grammar) : Parse Tree := do
  let start ← here
  decorators g
  expectWord "class"
  if ← atClassName then advance
  classRest g
  leaf "class" start

/-- Words that begin statements or join their parts, and are never the name of a value. -/
def reservedWords : List String :=
  ["break", "case", "catch", "const", "continue", "debugger", "default", "do", "else", "enum",
    "export", "extends", "finally", "for", "if", "in", "instanceof", "return", "switch", "throw",
    "try", "var", "while", "with"]

/-- Words with a node of their own. -/
def namedWords : List String := ["this", "super", "null", "true", "false", "undefined"]

def wordExpression (g : Grammar) (text : String) : Parse Tree := do
  let start ← here
  let (second, gap) ← lookSecond
  if text = "function" then functionExpression g
  else if text = "async" && second.isWord "function" && !gap.hasBreak then functionExpression g
  else if text = "class" then classExpression g
  else if text = "import" then
    advance
    if ← accept "." then
      expectToken Token.isAnyWord
      leaf "meta_property" start
    else if ← atMark "(" then leaf "import" start
    else failure
  else if reservedWords.contains text then failure
  else
    advance
    leaf (if namedWords.contains text then text else "identifier") start

def primary (g : Grammar) : Parse Tree := do
  let start ← here
  match ← look with
  | .word text => wordExpression g text
  | .privateName =>
    advance
    if ← atWord "in" then leaf "private_property_identifier" start else failure
  | .number =>
    advance
    leaf "number" start
  | .string =>
    advance
    leaf "string" start
  | .tick =>
    template do
      let _ ← sequence g
    leaf "template_string" start
  | .mark "/" => regularExpression
  | .mark "/=" => regularExpression
  | .mark "(" => parenthesized g
  | .mark "[" => array g
  | .mark "\x7b" => object g
  | .mark "@" => classExpression g
  | .mark "<" => if (← read).jsx then g.element else failure
  | _ => failure

def arguments (g : Grammar) : Parse Unit := do
  expect "("
  let _ ← inside (commaSeparated ")" do
    let _ ← accept "..."
    g.expression)
  expect ")"

def taggedTemplate (g : Grammar) : Parse Unit :=
  template do
    let _ ← sequence g

def memberName : Parse Unit := expectToken fun t => t.isAnyWord || t = .privateName

def index (g : Grammar) : Parse Unit := do
  expect "["
  let _ ← inside (sequence g)
  expect "]"

/-- Whether type arguments can end before a token, with nothing called. -/
def endsInstantiation (t : Token) (gap : Gap) : Bool :=
  gap.hasBreak ||
    match t with
    | .finish => true
    | .mark text =>
      [")", "]", "\x7d", ":", ";", ",", ".", "?.", "==", "===", "!=", "!==", "?", "&&", "||", "??",
        "^", "&", "|"].contains text
    | _ => false

/-- Type arguments behind an operand, and what they are given to. -/
def instantiation (g : Grammar) (start : Point) : Parse Tree := do
  typeArguments g
  let s ← get
  if ← atMark "(" then
    arguments g
    leaf "call_expression" start
  else if s.next = .tick then
    taggedTemplate g
    leaf "call_expression" start
  else if endsInstantiation s.next s.gap then leaf "instantiation_expression" start
  else failure

def optionalPart (g : Grammar) (start : Point) : Parse Tree := do
  expect "?."
  match ← look with
  | .mark "(" =>
    arguments g
    leaf "call_expression" start
  | .mark "[" =>
    index g
    leaf "subscript_expression" start
  | .mark "<" =>
    typeArguments g
    arguments g
    leaf "call_expression" start
  | _ =>
    memberName
    leaf "member_expression" start

/-- One more part behind an operand, if there is one. -/
def chainStep (g : Grammar) (start : Point) : Parse (Option Tree) := do
  if ← isCut true then return none
  else
    match ← look with
    | .mark "." =>
      advance
      memberName
      return some (← leaf "member_expression" start)
    | .mark "?." => return some (← optionalPart g start)
    | .mark "[" =>
      index g
      return some (← leaf "subscript_expression" start)
    | .mark "(" =>
      arguments g
      return some (← leaf "call_expression" start)
    | .tick =>
      taggedTemplate g
      return some (← leaf "call_expression" start)
    | .mark "!" =>
      advance
      return some (← leaf "non_null_expression" start)
    | .mark "<" => attempt (instantiation g start)
    | _ => return none

/-- One more part of what is to be created, if there is one. -/
def constructorStep (g : Grammar) : Parse (Option Unit) := do
  match ← look with
  | .mark "." =>
    advance
    memberName
    return some ()
  | .mark "[" =>
    index g
    return some ()
  | _ => return none

def creation (g : Grammar) : (fuel : Nat) → Parse Tree
  | 0 => failure
  | fuel + 1 => do
    let start ← here
    expectWord "new"
    if ← accept "." then
      expectToken Token.isAnyWord
      leaf "meta_property" start
    else
      let _ ← if ← atWord "new" then creation g fuel else primary g
      iterate (fun _ => constructorStep g) (← read).size ()
      let _ ← attempt (typeArguments g)
      if (← atMark "(") && !(← isCut true) then arguments g
      leaf "new_expression" start

def chain (g : Grammar) : Parse Tree := do
  let start ← here
  let first ← if ← atWord "new" then creation g (← read).size else primary g
  -- An element takes nothing behind it.
  if isNode first "jsx_element" || isNode first "jsx_self_closing_element" then return first
  else iterate (fun _ => chainStep g start) (← read).size first

def update (g : Grammar) : Parse Tree := do
  let start ← here
  let operand ← chain g
  if ((← atMark "++") || (← atMark "--")) && !(← isCut true) then
    advance
    leaf "update_expression" start
  else return operand

def unary (g : Grammar) : Parse Tree := do
  let start ← here
  let close (kind : String) (operand : Tree) : Tree := node kind start operand.label.stop []
  match ← look with
  | .mark "!" | .mark "~" | .mark "+" | .mark "-" | .word "typeof"
  | .word "void" | .word "delete" =>
    advance
    return close "unary_expression" (← g.unary)
  | .mark "++" | .mark "--" =>
    advance
    return close "update_expression" (← g.unary)
  | .word "await" =>
    advance
    return close "await_expression" (← g.unary)
  | .mark "<" =>
    if (← read).jsx then update g
    else
      typeArguments g
      return close "type_assertion" (← g.unary)
  | _ => update g

/-- How tightly an operator between operands binds; zero for none. -/
def precedence (operator : String) : Nat :=
  match operator with
  | "??" | "||" => 1
  | "&&" => 2
  | "|" => 3
  | "^" => 4
  | "&" => 5
  | "==" | "!=" | "===" | "!==" => 6
  | "<" | ">" | "<=" | ">=" | "in" | "instanceof" | "as" | "satisfies" => 7
  | "<<" | ">>" | ">>>" => 8
  | "+" | "-" => 9
  | "*" | "/" | "%" => 10
  | "**" => 11
  | _ => 0

/-- The operators that angle brackets are part of, longer ones first. -/
def angleOperators : List String :=
  [">>>=", ">>=", "<<=", ">>>", ">=", ">>", ">", "<=", "<<", "<"]

/-- The operator that comes next, if a token can be one. -/
def State.operator? (s : State) : Option String :=
  match s.next with
  | .mark text =>
    -- Angle brackets are tokens by themselves, since they also enclose types.
    if text = "<" || text = ">" then
      angleOperators.find? fun operator => operator.toList.isPrefixOf s.start.rest
    else some text
  | .word text => some text
  | _ => none

def skipOperator (operator : String) : Parse Unit := do
  goOnAt ((← get).start.skip operator.length)

/-- The operator between operands that comes next, if it binds more tightly than `minimum`. -/
def operatorAbove? (minimum : Nat) : Parse (Option String) := do
  match (← get).operator? with
  | none => return none
  | some operator =>
    if precedence operator ≤ minimum then return none
    else if operator = "in" && !(← read).allowIn then return none
    else if ← isCut true then return none
    else return some operator

/-- Goes on behind an operand with operators that bind more tightly than `minimum`. -/
def binaryRest (g : Grammar) (start : Point) : (fuel : Nat) → (minimum : Nat) → Tree → Parse Tree
  | 0, _, left => return left
  | fuel + 1, minimum, left => do
    match ← operatorAbove? minimum with
    | none => return left
    | some operator =>
      skipOperator operator
      if operator = "as" || operator = "satisfies" then
        unionType g
        let joined ← leaf (operator ++ "_expression") start
        binaryRest g start fuel minimum joined
      else
        let rightStart ← here
        let right ← binaryRest g rightStart fuel (precedence operator) (← unary g)
        binaryRest g start fuel minimum (node "binary_expression" start right.label.stop [])

def binary (g : Grammar) : Parse Tree := do
  let start ← here
  binaryRest g start (← read).size 0 (← unary g)

/-- The middle of a choice with the colon behind it. -/
def consequence (g : Grammar) : Parse Unit := do
  let middle (returnTypes : Bool) : Parse Unit := do
    let _ ← withReader
      (fun c => { c with allowIn := true, mayEnd := false, returnTypes }) g.expression
    expect ":"
  -- The colon may look like that of the result of an arrow function.
  middle true <|> middle false

def conditional (g : Grammar) : Parse Tree := do
  let start ← here
  let test ← binary g
  if ← accept "?" then
    consequence g
    let alternative ← g.expression
    return node "ternary_expression" start alternative.label.stop []
  else return test

def augmentedOperators : List String :=
  ["+=", "-=", "*=", "/=", "%=", "^=", "&=", "|=", ">>=", ">>>=", "<<=", "**=", "&&=", "||=", "??="]

def isAssignable (t : Tree) : Bool :=
  ["identifier", "undefined", "member_expression", "subscript_expression", "non_null_expression",
    "parenthesized_expression"].any (isNode t)

def patternAssignment (g : Grammar) : Parse Tree := do
  let start ← here
  if ← atTarget then
    let _ ← target g
    expect "="
    let value ← g.expression
    return node "assignment_expression" start value.label.stop []
  else failure

/-- An assignment, an arrow function with one parameter, or an expression without either. -/
def assignment (g : Grammar) : Parse Tree := do
  let start ← here
  let left ← conditional g
  let close (kind : String) : Parse Tree := do
    let value ← g.expression
    return node kind start value.label.stop []
  match (← get).operator? with
  | some operator =>
    if operator = "=>" && isNode left "identifier" then arrowBody g start
    else if operator = "=" && isAssignable left then
      advance
      close "assignment_expression"
    else if augmentedOperators.contains operator && isAssignable left then
      skipOperator operator
      close "augmented_assignment_expression"
    else return left
  | none => return left

/-- Whether something is given back where a function waits: an operand has to follow on the same
line, and not the end of what is around. -/
def yieldsValue : Parse Bool := do
  let s ← get
  match s.next with
  | .finish => return false
  | .mark text =>
    let ends := [")", "]", "\x7d", ":", ";", ",", "?", "=>", "="].contains text
    return !ends && !s.gap.hasBreak
  | .word text => return text ≠ "in" && text ≠ "of" && text ≠ "as" && !s.gap.hasBreak
  | _ => return !s.gap.hasBreak

def yieldExpression (g : Grammar) : Parse Tree := do
  let start ← here
  expectWord "yield"
  if ← accept "*" then
    let _ ← g.expression
  else if ← yieldsValue then
    let _ ← g.expression
  leaf "yield_expression" start

/-- An expression without commas. -/
def expression (g : Grammar) : Parse Tree := do
  match ← look with
  | .word "yield" => yieldExpression g
  | .word "async" => asyncArrowFunction g <|> arrowFunction g <|> assignment g
  | .mark "(" => arrowFunction g <|> assignment g
  | .mark "<" => arrowFunction g <|> assignment g
  | .mark "\x7b" => patternAssignment g <|> assignment g
  | .mark "[" => patternAssignment g <|> assignment g
  | _ => assignment g

end ExportList.Typed
