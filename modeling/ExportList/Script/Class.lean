import ExportList.Script.Function

/-!
Classes.  Their code is always strict.
-/

set_option autoImplicit false

namespace ExportList.Script

/-- A member of a class while its head is being read: the token that decides its kind, its key, and
what has been said of it. -/
structure MemberHead where
  token : Token
  key : Value := .null
  computed : Bool := false
  isStatic : Bool := false
  isAsync : Bool := false

/-- The head of a class member that began with a name; the word `static` may have been none. -/
def staticHead (g : Grammar) (t : Token) (key : Value) (computed : Bool) : Parse MemberHead := do
  let next ← look
  if (key.field "name").isText "static" && (next.isPropertyStart || next.isMark "*") then
    let computed ← atMark "["
    if ← atMark "*" then
      let _ ← advance
      return { token := next, key := key, computed := computed, isStatic := true }
    else
      let key ← propertyKey g
      return { token := next, key := key, computed := computed, isStatic := true }
  else return { token := t, key := key, computed := computed }

/-- The head of a class member whose last word may be `async`. -/
def asyncHead (g : Grammar) (head : MemberHead) : Parse MemberHead := do
  let after ← look
  if head.token.isWord "async" && !(← atLineBreak) &&
      !([":", "(", "*"].map Text.ofString).contains after.text then
    let key ← propertyKey g
    if after.isWord "constructor" then refuseToken after .asyncConstructor
    else return { head with token := after, key := key, isAsync := true }
  else return head

def memberHead (g : Grammar) : Parse MemberHead := do
  let t ← look
  if ← atMark "*" then
    let _ ← advance
    return { token := t }
  else
    let computed ← atMark "["
    let key ← propertyKey g
    asyncHead g (← staticHead g t key computed)

/-- The kind and the value of a class member; no value if its head leads nowhere. -/
def memberValue (g : Grammar) (head : MemberHead) : Parse (MemberHead × Text × Value) := do
  let isKeyNext := (← look).isPropertyStart
  let plain : Parse (MemberHead × Text × Value) := do
    if !head.key.isNull && (← atMark "(") then
      let value ← method g (if head.isAsync then .asynchronous else .ordinary)
      return (head, Text.ofString "method", value)
    else unexpected (← look)
  let keyed : Parse MemberHead := do
    let computed ← atMark "["
    let key ← propertyKey g
    return { head with key := key, computed := computed }
  if head.token.isWord "get" && isKeyNext then
    let head ← keyed
    modifyContext fun c => { c with allowYield := false }
    return (head, Text.ofString "get", ← getter g)
  else if head.token.isWord "set" && isKeyNext then
    let head ← keyed
    return (head, Text.ofString "set", ← setter g)
  else if head.token.isMark "*" && isKeyNext then
    let head ← keyed
    return (head, Text.ofString "method", ← method g .generator)
  else plain

/-- A member of a class; gives also whether the class now has a constructor. -/
def classMember (g : Grammar) (hasConstructor : Bool) : Parse (Value × Bool) := do
  let start ← mark
  let (head, kind, value) ← memberValue g (← memberHead g)
  let isNamed := fun name => !head.computed && isPropertyNamed head.key name
  let isConstructor := !head.isStatic && isNamed "constructor"
  if head.isStatic && isNamed "prototype" then refuseToken head.token .staticPrototype
  else if isConstructor &&
      (kind ≠ Text.ofString "method" || (value.field "generator" matches .bool true)) then
    refuseToken head.token .accessorConstructor
  else if isConstructor && hasConstructor then refuseToken head.token .duplicateConstructor
  else
    let kind := if isConstructor then Text.ofString "constructor" else kind
    let member ← finish start "MethodDefinition"
      [("key", head.key), ("computed", .bool head.computed), ("value", value),
        ("kind", .text kind), ("static", .bool head.isStatic)]
    return (member, hasConstructor || isConstructor)

def classMembers (g : Grammar) : (fuel : Nat) → (hasConstructor : Bool) → Parse (List Value)
  | 0, _ => giveUp
  | fuel + 1, hasConstructor => do
    if ← atMark closeBrace then return []
    else if ← atMark ";" then
      let _ ← advance
      classMembers g fuel hasConstructor
    else
      let (member, hasConstructor) ← classMember g hasConstructor
      return member :: (← classMembers g fuel hasConstructor)

def classBody (g : Grammar) : Parse Value := do
  let start ← mark
  expect openBrace
  let members ← classMembers g (← tokenBound) false
  expect closeBrace
  finish start "ClassBody" [("body", .list members)]

/-- A class, whose name is read by the given parser. -/
def classNode (g : Grammar) (tag : Text) (name : Parse Value) : Parse Value := do
  let start ← mark
  let before := (← context).strict
  modifyContext fun c => { c with strict := true }
  expectKeyword "class"
  let id ← name
  let superClass ←
    if ← atKeyword "extends" then
      let _ ← advance
      isolate g.chain
    else pure .null
  let body ← classBody g
  modifyContext fun c => { c with strict := before }
  finish start tag [("id", id), ("superClass", superClass), ("body", body)]

/-- A class declaration; the name of a default export can be left out. -/
def classDeclaration (g : Grammar) (isNameOptional : Bool) : Parse Value :=
  classNode g "ClassDeclaration" do
    if isNameOptional && !(← sees Token.isIdentifier) then return .null else variableName none

def classExpression (g : Grammar) : Parse Value :=
  classNode g "ClassExpression" do
    if ← sees Token.isIdentifier then variableName none else return .null

end ExportList.Script
