import ExportList.Typed.Declaration

/-!
Statements other than declarations, imports and exports.
-/

set_option autoImplicit false

namespace ExportList.Typed

open Concrete (Point Tree Label)

def condition (g : Grammar) : Parse Unit := do
  expect "("
  let _ ← inside (sequence g)
  expect ")"

def expressionStatement (g : Grammar) : Parse Tree := do
  let start ← here
  let _ ← sequence g
  let stop ← semicolon true
  return node "expression_statement" start stop []

/-- A statement that a condition or loop is followed by; gives its end. -/
def bodyStop (g : Grammar) : Parse Point := do
  let body ← g.statement
  return body.label.stop

def ifStatement (g : Grammar) : Parse Tree := do
  let start ← here
  expectWord "if"
  condition g
  let stop ← bodyStop g
  let stop ← if ← acceptWord "else" then bodyStop g else pure stop
  return node "if_statement" start stop []

/-- The head of a loop over keys or values, behind its opening parenthesis. -/
def loopHead (g : Grammar) : Parse Unit := do
  let isDeclared := (← atWord "var") || (← atWord "const") ||
    ((← atWord "let") && isBindingStart (← lookSecond).1)
  if isDeclared then
    advance
    let _ ← g.pattern
    annotation? g
    withReader (fun c => { c with allowIn := false }) (initializer? g)
  else
    let _ ← target g
  unless ← acceptWord "of" do expectWord "in"
  let _ ← sequence g

/-- What stands before the first semicolon of a counting loop. -/
def loopStart (g : Grammar) : Parse Unit := do
  unless ← atMark ";" do
    let isDeclared := (← atWord "var") || (← atWord "const") ||
      ((← atWord "let") && isBindingStart (← lookSecond).1)
    if isDeclared then
      advance
      let _ ← withReader (fun c => { c with allowIn := false }) (declarators g)
    else
      let _ ← withReader (fun c => { c with allowIn := false }) (sequence g)

def countingHead (g : Grammar) : Parse Unit := do
  loopStart g
  expect ";"
  unless ← atMark ";" do
    let _ ← sequence g
  expect ";"
  unless ← atMark ")" do
    let _ ← sequence g

/-- The head of a loop in parentheses; gives the kind of the loop.  A loop that waits for its values
does not count. -/
def forHead (g : Grammar) (waits : Bool) : Parse String := do
  expect "("
  let kind ← inside
    ((do
      loopHead g
      if ← atMark ")" then return "for_in_statement" else failure) <|>
    (do
      if waits then failure
      countingHead g
      return "for_statement"))
  expect ")"
  return kind

def forStatement (g : Grammar) : Parse Tree := do
  let start ← here
  expectWord "for"
  let waits ← acceptWord "await"
  let kind ← forHead g waits
  let stop ← bodyStop g
  return node kind start stop []

def guardedStatement (g : Grammar) (kind word : String) : Parse Tree := do
  let start ← here
  expectWord word
  condition g
  let stop ← bodyStop g
  return node kind start stop []

def doStatement (g : Grammar) : Parse Tree := do
  let start ← here
  expectWord "do"
  let _ ← g.statement
  expectWord "while"
  condition g
  let stop ← if ← accept ";" then behind else optionalStop
  return node "do_statement" start stop []

def switchCase (g : Grammar) : Parse Unit := do
  unless ← acceptWord "default" do
    expectWord "case"
    let _ ← inside (sequence g)
  expect ":"
  let atStatement : Parse Bool :=
    return !((← atMark "\x7d") || (← atWord "case") || (← atWord "default"))
  let _ ← collectWhile atStatement g.statement

def switchStatement (g : Grammar) : Parse Tree := do
  let start ← here
  expectWord "switch"
  condition g
  expect "\x7b"
  let _ ← afresh (collectWhile (return !(← atMark "\x7d")) (switchCase g))
  expect "\x7d"
  leaf "switch_statement" start

/-- The handler of a `try` statement; gives its end. -/
def catchClause (g : Grammar) : Parse Point := do
  expectWord "catch"
  if ← accept "(" then
    inside do
      let _ ← g.pattern
      annotation? g
    expect ")"
  block g

def tryStatement (g : Grammar) : Parse Tree := do
  let start ← here
  expectWord "try"
  let stop ← block g
  let stop ← if ← atWord "catch" then catchClause g else pure stop
  let stop ← if ← acceptWord "finally" then block g else pure stop
  return node "try_statement" start stop []

def jumpStatement (kind word : String) : Parse Tree := do
  let start ← here
  expectWord word
  if (← look).isAnyWord && !(← hasBreak) then advance
  let stop ← semicolon false
  return node kind start stop []

def returnStatement (g : Grammar) : Parse Tree := do
  let start ← here
  expectWord "return"
  let s ← get
  let stop ←
    if s.next.isMark ";" || (s.insertedStop? false).isSome then semicolon false
    else
      let _ ← sequence g
      semicolon true
  return node "return_statement" start stop []

def throwStatement (g : Grammar) : Parse Tree := do
  let start ← here
  expectWord "throw"
  let _ ← sequence g
  let stop ← semicolon true
  return node "throw_statement" start stop []

def debuggerStatement : Parse Tree := do
  let start ← here
  expectWord "debugger"
  let stop ← semicolon false
  return node "debugger_statement" start stop []

def labeledStatement (g : Grammar) : Parse Tree := do
  let start ← here
  advance
  expect ":"
  let stop ← bodyStop g
  return node "labeled_statement" start stop []

def emptyStatement : Parse Tree := do
  let start ← here
  expect ";"
  leaf "empty_statement" start

/-- The statement that a keyword begins, if it is one. -/
def keywordStatement? (g : Grammar) (word : String) : Option (Parse Tree) :=
  match word with
  | "if" => some (ifStatement g)
  | "for" => some (forStatement g)
  | "while" => some (guardedStatement g "while_statement" "while")
  | "with" => some (guardedStatement g "with_statement" "with")
  | "do" => some (doStatement g)
  | "switch" => some (switchStatement g)
  | "try" => some (tryStatement g)
  | "break" => some (jumpStatement "break_statement" "break")
  | "continue" => some (jumpStatement "continue_statement" "continue")
  | "return" => some (returnStatement g)
  | "throw" => some (throwStatement g)
  | "debugger" => some debuggerStatement
  | _ => none

end ExportList.Typed
