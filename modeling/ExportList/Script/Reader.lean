import ExportList.Document
import ExportList.Script.Scanner

/-!
The state of a parser of JavaScript documents: one token of lookahead, the places that nodes are
measured by, and what the surrounding code allows.
-/

set_option autoImplicit false

namespace ExportList.Script

structure Marker where
  index : Nat
  line : Nat
  column : Int
deriving DecidableEq, Repr

/-- What the surrounding code allows, and what is known of the expression being read: whether it can
be assigned to, whether it can be a parameter, and where it became unfit to be an expression. -/
structure Context where
  isModule : Bool := false
  allowIn : Bool := true
  allowStrictDirective : Bool := true
  allowYield : Bool := true
  isAsync : Bool := false
  strict : Bool := false
  inFunctionBody : Bool := false
  inIteration : Bool := false
  inSwitch : Bool := false
  labels : List Text := []
  isAssignmentTarget : Bool := false
  isBindingElement : Bool := false
  coverFault : Option Token := none

/-- The state of a parser.  `size` bounds the number of tokens. -/
structure State where
  scanner : Scanner
  lookahead : Token
  hasLineBreak : Bool
  startMarker : Marker
  lastMarker : Marker
  context : Context
  size : Nat

abbrev Parse := StateT State (Except Complaint)

def Cursor.marker (c : Cursor) : Marker := ⟨c.index, c.line, c.column⟩

def look : Parse Token := return (← get).lookahead

def context : Parse Context := return (← get).context

def modifyContext (change : Context → Context) : Parse Unit :=
  modify fun s => { s with context := change s.context }

/-- A word that only strict code reserves, as the keyword that it is there. -/
def reserveInStrict (strict : Bool) (t : Token) : Token :=
  match t.lexeme with
  | .identifier name =>
    if strict && strictReservedWords.contains name.val then { t with lexeme := .keyword name }
    else t
  | _ => t

/-- The next token, consumed. -/
def advance : Parse Token := fun s => do
  let before := s.scanner.cursor
  let scanner ← s.scanner.skip
  -- Where nothing was read since, at the end of the document, the place stays.
  let startMarker :=
    if scanner.cursor.index = s.startMarker.index then s.startMarker else scanner.cursor.marker
  let (next, scanner) ← scanner.lex
  return (s.lookahead,
    { s with
      scanner := scanner
      lookahead := reserveInStrict s.context.strict next
      hasLineBreak := s.lookahead.line ≠ next.line
      startMarker := startMarker
      lastMarker := before.marker })

/-- The token after the next one; only the braces it opens are remembered. -/
def lookSecond : Parse Token := fun s => do
  let (next, scanner) ← (← s.scanner.skip).lex
  return (next, { s with scanner := { s.scanner with braces := scanner.braces } })

/-- The state before a document, with no token of it read. -/
def State.before (source : List Char) : State :=
  let scanner := Scanner.start source
  let origin : Marker := ⟨0, scanner.cursor.line, 0⟩
  { scanner := scanner, lookahead := ⟨.endOfInput, 0, 0, scanner.cursor.line, 0, []⟩,
    hasLineBreak := false, startMarker := origin, lastMarker := origin, context := {},
    size := source.length + 2 }

/-- The state before a document, with its first token in sight. -/
def State.start (source : List Char) : Except Complaint State := do
  let (_, s) ← advance (State.before source)
  return { s with lastMarker := s.scanner.cursor.marker }

/-- What is wrong with a token that should not be there. -/
def tokenFault (strict : Bool) (t : Token) : Fault :=
  match t.lexeme with
  | .endOfInput => .unexpectedEnd
  | .identifier _ => .unexpectedIdentifier
  | .number .. => .unexpectedNumber
  | .string .. => .unexpectedString
  | .template raw .. => .unexpectedTemplate raw
  | .keyword word =>
    if futureReservedWords.contains word then .unexpectedReserved
    else if strict && strictReservedWords.contains word then .strictReserved
    else .unexpectedToken word
  | _ => .unexpectedToken t.text

/-- Complains about a token; the column counts from the line of the token before. -/
def refuseToken {α : Type} (t : Token) (fault : Fault) : Parse α := fun s =>
  let lineStart : Int := s.lastMarker.index - s.lastMarker.column
  .error ⟨fault, t.line, t.start - lineStart + 1⟩

def unexpected {α : Type} (t : Token) : Parse α := do
  refuseToken t (tokenFault (← context).strict t)

/-- Complains at the end of the last token. -/
def refuse {α : Type} (fault : Fault) : Parse α := fun s =>
  .error ⟨fault, s.lastMarker.line, s.lastMarker.column + 1⟩

/-- Complains at the column of the end of the last token, on the line that has been read up to. -/
def refuseOnLine {α : Type} (fault : Fault) : Parse α := fun s =>
  .error ⟨fault, s.scanner.cursor.line, s.lastMarker.column + 1⟩

/-- Complains about the next token, whatever it is. -/
def giveUp {α : Type} : Parse α := do unexpected (← look)

def sees (is : Token → Bool) : Parse Bool := return is (← look)

def atMark (text : Text) : Parse Bool := sees fun t => t.isMark text

def atKeyword (word : Text) : Parse Bool := sees fun t => t.isKeyword word

def atWord (word : Text) : Parse Bool := sees fun t => t.isWord word

def atEnd : Parse Bool := sees Token.isEnd

def atLineBreak : Parse Bool := return (← get).hasLineBreak

def expect (text : Text) : Parse Unit := do
  let t ← advance
  if t.isMark text then return () else unexpected t

def expectKeyword (word : Text) : Parse Unit := do
  let t ← advance
  if t.isKeyword word then return () else unexpected t

def openBrace : Text := "\x7b"

def closeBrace : Text := "\x7d"

def assignmentMarks : List Text :=
  ["=", "*=", "**=", "/=", "%=", "+=", "-=", "<<=", ">>=", ">>>=", "&=", "^=", "|="]

def atAssignment : Parse Bool := sees fun t => assignmentMarks.any t.isMark

/-- Ends a statement: by a semicolon, a line break, a closing brace or the end of the document.  A
statement that a brace or the end closes reaches up to it. -/
def endStatement : Parse Unit := do
  if ← atMark ";" then
    let _ ← advance
  else if !(← atLineBreak) then
    let t ← look
    if !t.isEnd && !t.isMark closeBrace then unexpected t
    else modify fun s => { s with lastMarker := s.startMarker }

def mark : Parse Marker := return (← get).startMarker

/-- The place where a token begins.  A token that spans lines is measured from its last line; one
that begins before that line is counted back from a given line start. -/
def markOf (t : Token) (lineStart : Nat) : Marker :=
  let column : Int := t.start - t.lineStart
  if column < 0 then ⟨t.start, t.line - 1, column + lineStart⟩ else ⟨t.start, t.line, column⟩

def positionDocument (m : Marker) : Value :=
  .object [("line", .nat m.line), ("column", .int m.column)]

def placeFields (start stop : Marker) : Fields :=
  [("range", .list [.nat start.index, .nat stop.index]),
    ("loc", .object [("start", positionDocument start), ("end", positionDocument stop)])]

/-- A node: tag, fields that are there, and place. -/
def node (tag : Text) (fields : Fields) (start stop : Marker) : Value :=
  let present := fields.filter fun field => !field.2.isNull
  .object ((Text.ofString "type", .text tag) :: (present ++ placeFields start stop))

/-- A node from a place to the end of the last token. -/
def finish (start : Marker) (tag : Text) (fields : Fields) : Parse Value :=
  return node tag fields start (← get).lastMarker

def tagOf (v : Value) : Text :=
  match v.tag with
  | .text tag => tag
  | _ => []

def nameOf (v : Value) : Text :=
  match v.field "name" with
  | .text name => name
  | _ => []

def isIdentifier (v : Value) : Bool := v.hasTag "Identifier"

def identifierNode (start : Marker) (name : Text) : Parse Value :=
  finish start "Identifier" [("name", .text name)]

/-- Parses an expression on its own: what is known of the surrounding one is kept aside, and a
leftover shorthand with default is an error. -/
def isolate {α : Type} (p : Parse α) : Parse α := do
  let before ← context
  modifyContext fun c =>
    { c with isBindingElement := true, isAssignmentTarget := true, coverFault := none }
  let result ← p
  -- A shorthand with default was no pattern after all.
  match (← context).coverFault with
  | some t => unexpected t
  | none =>
    modifyContext fun c =>
      { c with
        isBindingElement := before.isBindingElement
        isAssignmentTarget := before.isAssignmentTarget
        coverFault := before.coverFault }
    return result

/-- Parses a part of an expression: what is known of the part is added to the whole. -/
def inherit {α : Type} (p : Parse α) : Parse α := do
  let before ← context
  modifyContext fun c =>
    { c with isBindingElement := true, isAssignmentTarget := true, coverFault := none }
  let result ← p
  modifyContext fun c =>
    { c with
      isBindingElement := c.isBindingElement && before.isBindingElement
      isAssignmentTarget := c.isAssignmentTarget && before.isAssignmentTarget
      coverFault := before.coverFault.or c.coverFault }
  return result

/-- Notes that the expression can neither be assigned to nor be a parameter. -/
def markUnassignable : Parse Unit :=
  modifyContext fun c => { c with isAssignmentTarget := false, isBindingElement := false }

def withAllowIn {α : Type} (allow : Bool) (p : Parse α) : Parse α := do
  let before := (← context).allowIn
  modifyContext fun c => { c with allowIn := allow }
  let result ← p
  modifyContext fun c => { c with allowIn := before }
  return result

def withAllowYield {α : Type} (allow : Bool) (p : Parse α) : Parse α := do
  let before := (← context).allowYield
  modifyContext fun c => { c with allowYield := allow }
  let result ← p
  modifyContext fun c => { c with allowYield := before }
  return result

def inLoop {α : Type} (p : Parse α) : Parse α := do
  let before := (← context).inIteration
  modifyContext fun c => { c with inIteration := true }
  let result ← p
  modifyContext fun c => { c with inIteration := before }
  return result

def inFunction {α : Type} (p : Parse α) : Parse α := do
  let before ← context
  modifyContext fun c =>
    { c with labels := [], inIteration := false, inSwitch := false, inFunctionBody := true }
  let result ← p
  modifyContext fun c =>
    { c with
      labels := before.labels
      inIteration := before.inIteration
      inSwitch := before.inSwitch
      inFunctionBody := before.inFunctionBody }
  return result

/-- A bound on the number of tokens, and so on the number of times that anything is repeated. -/
def tokenBound : Parse Nat := return (← get).size

def collectUntil {α : Type} (stop : Token → Bool) (item : Parse α) : (fuel : Nat) → Parse (List α)
  | 0 => giveUp
  | fuel + 1 => do
    if ← sees stop then return []
    else
      let first ← item
      return first :: (← collectUntil stop item fuel)

def collectWhile {α : Type} (more : Token → Bool) (item : Parse α) : Parse (List α) := do
  collectUntil (fun t => !more t) item (← tokenBound)

/-- Changes a value as long as a step does. -/
def iterate {α : Type} (step : α → Parse (Option α)) : (fuel : Nat) → α → Parse α
  | 0, _ => giveUp
  | fuel + 1, a => do
    match ← step a with
    | some b => iterate step fuel b
    | none => return a

/-- The parsers that refer to each other.  `pattern` takes the kind of declaration and also gives
the tokens of the names that it binds. -/
structure Grammar where
  assignment : Parse Value
  unary : Parse Value
  power : Parse Value
  chain : Parse Value
  member : Parse Value
  statement : Parse Value
  item : Parse Value
  pattern : Option Text → Parse (Value × List Token)

end ExportList.Script
