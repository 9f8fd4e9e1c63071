import ExportList.Typed.Reader

/-!
What names are bound to: binding patterns, parameters and signatures.
-/

set_option autoImplicit false

namespace ExportList.Typed

open Concrete (Point Tree Label)

def computedName (g : Grammar) : Parse Unit := do
  let _ ← g.expression
  return ()

def initializer? (g : Grammar) : Parse Unit := do
  if ← accept "=" then
    let _ ← g.expression

def annotation? (g : Grammar) : Parse Unit := do
  if ← accept ":" then g.annotation

/-- A member of a pattern that takes an object apart, where `inner` reads what values go to. -/
def patternMember (g : Grammar) (inner : Parse Tree) : Parse Unit := do
  if ← accept "..." then
    let _ ← inner
  else
    let isWord := (← look).isAnyWord
    propertyName (computedName g)
    if ← accept ":" then
      let _ ← inner
    else unless isWord do failure
    initializer? g

def objectPattern (g : Grammar) (inner : Parse Tree) : Parse Tree := do
  let start ← here
  expect "\x7b"
  let _ ← inside (commaSeparated "\x7d" (patternMember g inner))
  expect "\x7d"
  leaf "object_pattern" start

/-- An element of a pattern that takes a list apart; it may be missing. -/
def patternElement (g : Grammar) (inner : Parse Tree) : Parse Unit := do
  unless ← atMark "," do
    let _ ← accept "..."
    let _ ← inner
    initializer? g

def arrayPattern (g : Grammar) (inner : Parse Tree) : Parse Tree := do
  let start ← here
  expect "["
  let _ ← inside (commaSeparated "]" (patternElement g inner))
  expect "]"
  leaf "array_pattern" start

def pattern (g : Grammar) : Parse Tree := do
  if ← atMark "\x7b" then objectPattern g g.pattern
  else if ← atMark "[" then arrayPattern g g.pattern
  else identifier

/-- Something that can be assigned to: a chain of members, or a pattern made of such. -/
def target (g : Grammar) : Parse Tree := do
  if ← atMark "\x7b" then objectPattern g g.target
  else if ← atMark "[" then arrayPattern g g.target
  else g.chain

def decorator (g : Grammar) : Parse Unit := do
  expect "@"
  if ← accept "(" then
    let _ ← inside g.expression
    expect ")"
  else
    expectToken Token.isAnyWord
    dottedRest
    let _ ← attempt do
      if ← accept "<" then
        let _ ← inside (commaSeparated ">" g.annotation)
        expect ">"
      expect "("
      let _ ← inside (commaSeparated ")" do
        let _ ← accept "..."
        g.expression)
      expect ")"

def decorators (g : Grammar) : Parse Unit := do
  let _ ← collectWhile (atMark "@") (decorator g)

/-- Words before a parameter that make it a property. -/
def parameterModifiers : List String := ["public", "private", "protected", "override", "readonly"]

def parameter (g : Grammar) : Parse Unit := do
  decorators g
  skipModifiers parameterModifiers fun t => t.isAnyWord || t.isMark "\x7b" || t.isMark "["
  let _ ← accept "..."
  let _ ← g.pattern
  let _ ← accept "?"
  annotation? g
  initializer? g

def parameters (g : Grammar) : Parse Unit := do
  expect "("
  let _ ← inside (commaSeparated ")" (parameter g))
  expect ")"

def typeParameter (g : Grammar) : Parse Unit := do
  skipModifiers ["const", "in", "out"] Token.isAnyWord
  expectToken Token.isAnyWord
  if ← acceptWord "extends" then g.annotation
  if ← accept "=" then g.annotation

def typeParameters (g : Grammar) : Parse Unit := do
  expect "<"
  let parameters ← inside (commaSeparated ">" (typeParameter g))
  if parameters.isEmpty then failure
  expect ">"

def typeParameters? (g : Grammar) : Parse Unit := do
  if ← atMark "<" then typeParameters g

/-- What a function gives back: a type, or what it says about one of its parameters. -/
def resultType (g : Grammar) : Parse Unit :=
  (do
    expectToken Token.isAnyWord
    if ← hasBreak then failure
    expectWord "is"
    g.annotation) <|>
  (do
    expectWord "asserts"
    if ← hasBreak then failure
    expectToken Token.isAnyWord
    if ← acceptWord "is" then g.annotation) <|>
  g.annotation

def signature (g : Grammar) : Parse Unit := do
  typeParameters? g
  parameters g
  if ← accept ":" then resultType g

end ExportList.Typed
