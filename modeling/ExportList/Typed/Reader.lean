import ExportList.Typed.Token

/-!
Reading tokens one after the other, with one token of look-ahead, the rules for where a statement
may end without a semicolon, and the trees that are built.  A parser that fails has read nothing.
-/

set_option autoImplicit false

namespace ExportList.Typed

open Concrete (Point Tree Label)

structure Context where
  /-- Whether elements can be written. -/
  jsx : Bool
  /-- More than the number of characters of the document. -/
  size : Nat
  /-- Whether `in` is an operator here. -/
  allowIn : Bool := true
  /-- Whether a line break can end the statement here. -/
  mayEnd : Bool := true
  /-- Whether the parameters of an arrow function can be followed by a type here. -/
  returnTypes : Bool := true
  /-- Whether a type can depend on a condition here. -/
  conditions : Bool := true
deriving Repr

/-- The last token's end, the gap behind it, and the next token with its start and end. -/
structure State where
  last : Cursor
  gap : Gap
  next : Token
  start : Cursor
  after : Cursor
deriving Repr

def State.behind (last : Cursor) : State :=
  let (gap, start) := scanGap .plain {} last.point last.rest
  let (next, length) := tokenAt start.rest
  { last, gap, next, start, after := start.skip length }

/-- A parser: it fails, or gives a result and the state behind what it has read. -/
abbrev Parse := ReaderT Context (StateT State Option)

def look : Parse Token := return (← get).next

def lookSecond : Parse (Token × Gap) := do
  let s := State.behind (← get).after
  return (s.next, s.gap)

def here : Parse Point := return (← get).start.point

def behind : Parse Point := return (← get).last.point

def goOnAt (c : Cursor) : Parse Unit := set (State.behind c)

def advance : Parse Unit := do goOnAt (← get).after

def atMark (text : String) : Parse Bool := return (← look).isMark text

def atWord (text : String) : Parse Bool := return (← look).isWord text

def accept (text : String) : Parse Bool := do
  if ← atMark text then
    advance
    return true
  else return false

def acceptWord (text : String) : Parse Bool := do
  if ← atWord text then
    advance
    return true
  else return false

def expect (text : String) : Parse Unit := do
  unless ← accept text do failure

def expectWord (text : String) : Parse Unit := do
  unless ← acceptWord text do failure

def expectToken (test : Token → Bool) : Parse Unit := do
  if test (← look) then advance else failure

def hasBreak : Parse Bool := return (← get).gap.hasBreak

/-- Tries a parser; if it fails nothing is read. -/
def attempt {α : Type} (p : Parse α) : Parse (Option α) := (some <$> p) <|> pure none

def collect {α : Type} (test : Parse Bool) (item : Parse α) : (fuel : Nat) → Parse (List α)
  | 0 => return []
  | fuel + 1 => do
    if ← test then
      let first ← item
      return first :: (← collect test item fuel)
    else return []

/-- Reads items as long as a test holds. -/
def collectWhile {α : Type} (test : Parse Bool) (item : Parse α) : Parse (List α) := do
  collect test item (← read).size

/-- Applies a parser to a value as long as it gives a new one, at most `fuel` times. -/
def iterate {α : Type} (step : α → Parse (Option α)) : (fuel : Nat) → α → Parse α
  | 0, a => return a
  | fuel + 1, a => do
    match ← step a with
    | some b => iterate step fuel b
    | none => return a

/-- Items with commas between them up to a closing mark; one more comma may stand at the end. -/
def commaSeparated {α : Type} (close : String) (item : Parse α) : Parse (List α) :=
  collectWhile (return !(← atMark close)) do
    let result ← item
    unless ← accept "," do
      unless ← atMark close do failure
    return result

/-- Reads something between brackets, where a line break never ends a statement. -/
def inside {α : Type} (p : Parse α) : Parse α :=
  withReader
    (fun c => { c with allowIn := true, mayEnd := false, returnTypes := true, conditions := true })
    p

/-- Reads something that is made of statements. -/
def afresh {α : Type} (p : Parse α) : Parse α :=
  withReader
    (fun c => { c with allowIn := true, mayEnd := true, returnTypes := true, conditions := true })
    p

/-- Whether some characters begin with a word and the word ends there. -/
def startsWithWord (word : String) (rest : List Char) : Bool :=
  word.toList.isPrefixOf rest && !(rest.drop word.length).head?.any isWordPart

/-- Whether the characters after a line break go on with the statement.  A bracket does so only
after an operand. -/
def goesOn (operand : Bool) (rest : List Char) : Bool :=
  match rest with
  | [] => false
  | c :: more =>
    if ['`', ',', '.', ';', '*', '%', '>', '<', '=', '?', '^', '|', '&', '/', ':'].contains c
    then true
    else if c = '(' || c = '[' then operand
    -- Two signs alike are an increment or decrement of what follows.
    else if c = '+' || c = '-' then more.head? ≠ some c
    else if c = '!' then more.head? = some '='
    else startsWithWord "in" rest || startsWithWord "instanceof" rest

/-- Where a statement ends if it can end without a semicolon before the next token.  Comments on the
same line belong to it. -/
def State.insertedStop? (s : State) (operand : Bool) : Option Point :=
  if s.next = .finish || s.next.isMark "\x7d" ||
      (s.gap.hasBreak && !goesOn operand s.start.rest) then
    some (s.gap.commentStop.getD s.last.point)
  else none

def semicolon (operand : Bool) : Parse Point := do
  if ← accept ";" then behind
  else
    match (← get).insertedStop? operand with
    | some stop => return stop
    | none => failure

/-- The end of something behind which a semicolon may be left out. -/
def optionalStop : Parse Point := do
  let s ← get
  return (s.insertedStop? false).getD s.last.point

/-- Whether a line break ends the statement before the next token. -/
def isCut (operand : Bool) : Parse Bool := do
  let s ← get
  return (← read).mayEnd && s.gap.hasBreak && !goesOn operand s.start.rest

def node (kind : String) (start stop : Point) (children : List Tree) : Tree :=
  .node { kind := Text.ofString kind, start, stop } children

/-- A node without children that ends with the last token. -/
def leaf (kind : String) (start : Point) : Parse Tree := return node kind start (← behind) []

def tokenNode (kind : String) (start stop : Point) : Tree :=
  .node { kind := Text.ofString kind, named := false, start, stop } []

def inField (role : String) : Tree → Tree
  | .node label children => .node { label with role := some (Text.ofString role) } children

def keepComments : Parse (List Tree) := do
  return (← get).gap.comments.map fun (start, stop) => node "comment" start stop []

/-- Moves over a word, which has to come next, and keeps it as a token. -/
def keepWord (text : String) : Parse Tree := do
  let start ← here
  expectWord text
  return tokenNode text start (← behind)

def keepMark (text : String) : Parse Tree := do
  let start ← here
  expect text
  return tokenNode text start (← behind)

/-- Keeps a word as a token, if it comes next. -/
def keepWord? (text : String) : Parse (List Tree) := do
  if ← atWord text then return [← keepWord text] else return []

def keepToken (kind : String) (test : Token → Bool) : Parse Tree := do
  let start ← here
  expectToken test
  leaf kind start

def identifier : Parse Tree := keepToken "identifier" Token.isAnyWord

def stringNode : Parse Tree := keepToken "string" (· = .string)

def isNode (t : Tree) (kind : String) : Bool := t.isKind (Text.ofString kind)

/-- The parts of the grammar that refer to each other. -/
structure Grammar where
  expression : Parse Tree
  unary : Parse Tree
  annotation : Parse Unit
  operandType : Parse Unit
  pattern : Parse Tree
  target : Parse Tree
  element : Parse Tree
  statement : Parse Tree
  chain : Parse Tree

/-- The length of template characters up to a closing tick or the start of a hole, both included,
and whether it is a hole. -/
def templateLength? (isEscaped : Bool) : List Char → Option (Nat × Bool)
  | [] => none
  | '$' :: '\x7b' :: rest =>
    if isEscaped then (templateLength? false ('\x7b' :: rest)).map fun r => (r.1 + 1, r.2)
    else some (2, true)
  | c :: rest =>
    if isEscaped then (templateLength? false rest).map fun r => (r.1 + 1, r.2)
    else if c = '`' then some (1, false)
    else (templateLength? (c = '\\') rest).map fun r => (r.1 + 1, r.2)

/-- The rest of a template from a place on; holes are read by a given parser. -/
def templateRest (hole : Parse Unit) : (fuel : Nat) → Cursor → Parse Unit
  | 0, _ => failure
  | fuel + 1, c => do
    match templateLength? false c.rest with
    | none => failure
    | some (length, isHole) =>
      goOnAt (c.skip length)
      if isHole then
        inside hole
        if ← atMark "\x7d" then templateRest hole fuel (← get).after else failure

def template (hole : Parse Unit) : Parse Unit := do
  if (← look) = .tick then templateRest hole (← read).size (← get).after else failure

def isPropertyStart : Token → Bool
  | .word _ => true
  | .privateName => true
  | .string => true
  | .number => true
  | .mark text => text = "["
  | _ => false

/-- The name of a property; computed ones are read by a given parser. -/
def propertyName (computed : Parse Unit) : Parse Unit := do
  if ← accept "[" then
    inside computed
    expect "]"
  else expectToken isPropertyStart

/-- Moves over a word that modifies a property, if it comes next and a property follows it. -/
def acceptModifier (text : String) (follows : Token → Bool) : Parse Bool := do
  if ← atWord text then
    if follows (← lookSecond).1 then
      advance
      return true
    else return false
  else return false

/-- Moves over all words of a list that modify what follows them. -/
def skipModifiers (words : List String) (follows : Token → Bool) : Parse Unit := do
  let step : Unit → Parse (Option Unit) := fun _ => do
    match ← look with
    | .word text =>
      if words.contains text && follows (← lookSecond).1 then
        advance
        return some ()
      else return none
    | _ => return none
  iterate step (← read).size ()

/-- Moves over the words and marks that make what follows a method; tells whether there are any. -/
def acceptMethodMarks : Parse Bool := do
  let isAsync ← acceptModifier "async" fun t => isPropertyStart t || t.isMark "*"
  let isGetter ← if isAsync then pure false else acceptModifier "get" isPropertyStart
  let isSetter ← if isAsync || isGetter then pure false else acceptModifier "set" isPropertyStart
  let isGenerator ← accept "*"
  return isAsync || isGetter || isSetter || isGenerator

def dottedRest : Parse Unit := do
  let _ ← collectWhile (atMark ".") do
    advance
    expectToken fun t => t.isAnyWord || t = .privateName
  return ()

end ExportList.Typed
