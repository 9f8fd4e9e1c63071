import ExportList.Typed.Expression

/-!
Elements: tags with attributes, text and nested elements.
-/

set_option autoImplicit false

namespace ExportList.Typed

open Concrete (Point Tree Label)

/-- The rest of a name with dashes in it, behind its first word. -/
def skipDashes : Parse Unit := do
  let last := (← get).last
  match last.rest with
  | '-' :: _ => goOnAt (Cursor.skipWhile (fun c => isWordPart c || c = '-') last.point last.rest)
  | _ => return ()

/-- A name, perhaps with dashes, and perhaps in a namespace. -/
def elementName : Parse Unit := do
  expectToken Token.isAnyWord
  skipDashes
  if ← accept ":" then
    expectToken Token.isAnyWord
    skipDashes

/-- The text of an attribute: all characters up to the closing quote. -/
def attributeText : Parse Unit := do
  let start := (← get).start
  match start.rest with
  | quote :: rest =>
    if quote = '"' || quote = '\'' then
      let c := Cursor.skipWhile (· ≠ quote) (start.skip 1).point rest
      if c.rest.isEmpty then failure else goOnAt (c.skip 1)
    else failure
  | [] => failure

/-- Something in braces: an expression, a list that is spread out, or nothing. -/
def braced (g : Grammar) : Parse Unit := do
  expect "\x7b"
  inside do
    let _ ← accept "..."
    unless ← atMark "\x7d" do
      let _ ← sequence g
  if ← atMark "\x7d" then return () else failure

def attributeValue (g : Grammar) : Parse Unit := do
  if ← atMark "\x7b" then
    braced g
    advance
  else if ← atMark "<" then
    let _ ← g.element
  else attributeText

def tagAttribute (g : Grammar) : Parse Unit := do
  if ← atMark "\x7b" then
    braced g
    advance
  else
    elementName
    if ← accept "=" then attributeValue g

/-- What is in a tag before its end: nothing, or a name and attributes.  Tells whether there is a
name. -/
def tagContent (g : Grammar) : Parse Bool := do
  if (← look).isAnyWord then
    elementName
    dottedRest
    typeArguments? g
    let _ ← collectWhile (return (← look).isAnyWord || (← atMark "\x7b")) (tagAttribute g)
    return true
  else return false

def isElementText (c : Char) : Bool := c ≠ '<' && c ≠ '>' && c ≠ '\x7b' && c ≠ '\x7d'

def elementContent (g : Grammar) : (fuel : Nat) → Cursor → Parse Unit
  | 0, _ => failure
  | fuel + 1, c => do
    let next := Cursor.skipWhile isElementText c.point c.rest
    match next.rest with
    | '\x7b' :: _ =>
      goOnAt next
      braced g
      elementContent g fuel (← get).after
    | '<' :: _ =>
      goOnAt next
      if (← lookSecond).1.isMark "/" then
        advance
        advance
        if (← look).isAnyWord then
          elementName
          dottedRest
        expect ">"
      else
        let _ ← g.element
        elementContent g fuel (← get).last
    | _ => failure

def element (g : Grammar) : Parse Tree := do
  let start ← here
  expect "<"
  let hasName ← inside (tagContent g)
  let isClosed ← if hasName then accept "/" else pure false
  if isClosed then
    expect ">"
    leaf "jsx_self_closing_element" start
  else if ← atMark ">" then
    elementContent g (← read).size (← get).after
    leaf "jsx_element" start
  else failure

end ExportList.Typed
