import ExportList.Typed.Element

/-!
Declarations.  Their trees hold what tells the declared names.
-/

set_option autoImplicit false

namespace ExportList.Typed

open Concrete (Point Tree Label)

/-- One variable of a declaration, and whether it has a value. -/
def declarator (g : Grammar) : Parse (Tree × Bool) := do
  let start ← here
  let name ← g.pattern
  let isAsserted ← accept "!"
  if isAsserted then
    expect ":"
    g.annotation
  else annotation? g
  let hasValue ← if isAsserted then pure false else accept "="
  let stop ← if hasValue then pure (← g.expression).label.stop else behind
  return (node "variable_declarator" start stop [inField "name" name], hasValue)

def declarators (g : Grammar) : Parse (List (Tree × Bool)) := do
  let first ← declarator g
  let others ← collectWhile (atMark ",") do
    advance
    declarator g
  return first :: others

/-- Whether the last variable of a declaration has a value: its end is then the end of an
operand. -/
def endsWithOperand (items : List (Tree × Bool)) : Bool := items.getLast?.any (·.2)

def variableList (g : Grammar) (kind word : String) : Parse Tree := do
  let start ← here
  let first ← keepWord word
  let others ← declarators g
  let stop ← semicolon (endsWithOperand others)
  return node kind start stop (inField "kind" first :: others.map (·.1))

/-- A function with a body, or its signature alone. -/
def functionDeclaration (g : Grammar) : Parse Tree := do
  let start ← here
  let async ← keepWord? "async"
  let word ← keepWord "function"
  let isGenerator ← accept "*"
  let name ← identifier
  signature g
  let children := async ++ [word, inField "name" name]
  if ← atMark "\x7b" then
    let stop ← block g
    let kind := if isGenerator then "generator_function_declaration" else "function_declaration"
    return node kind start stop children
  else if isGenerator then failure
  else
    let stop ← semicolon false
    return node "function_signature" start stop children

def classDeclaration (g : Grammar) : Parse Tree := do
  let start ← here
  decorators g
  let isAbstract ← acceptWord "abstract"
  expectWord "class"
  if !(← atClassName) then failure
  let name ← identifier
  classRest g
  let stop ← if isAbstract then behind else optionalStop
  let kind := if isAbstract then "abstract_class_declaration" else "class_declaration"
  return node kind start stop [inField "name" name]

def interfaceDeclaration (g : Grammar) : Parse Tree := do
  let start ← here
  expectWord "interface"
  let name ← identifier
  typeParameters? g
  if ← acceptWord "extends" then
    let bases ← commaSeparated "\x7b" (inside (primaryType g))
    if bases.isEmpty then failure
  objectType g
  return node "interface_declaration" start (← behind) [inField "name" name]

def typeAlias (g : Grammar) : Parse Tree := do
  let start ← here
  expectWord "type"
  let name ← identifier
  typeParameters? g
  expect "="
  g.annotation
  let stop ← semicolon false
  return node "type_alias_declaration" start stop [inField "name" name]

def enumMember (g : Grammar) : Parse Unit := do
  propertyName (computedName g)
  initializer? g

def enumDeclaration (g : Grammar) : Parse Tree := do
  let start ← here
  let constant ← keepWord? "const"
  expectWord "enum"
  let name ← identifier
  expect "\x7b"
  let _ ← inside (commaSeparated "\x7d" (enumMember g))
  expect "\x7d"
  return node "enum_declaration" start (← behind) (constant ++ [inField "name" name])

/-- The name of a namespace: a string, or names with points between them. -/
def namespaceName : Parse Tree := do
  let start ← here
  if (← look) = .string then stringNode
  else
    let first ← identifier
    if ← atMark "." then
      dottedRest
      leaf "nested_identifier" start
    else return first

/-- A namespace or a module with its first word; the body may be missing. -/
def namespaceDeclaration (g : Grammar) (kind word : String) : Parse Tree := do
  let start ← here
  let first ← keepWord word
  let name ← namespaceName
  let stop ← if ← atMark "\x7b" then block g else behind
  return node kind start stop [first, inField "name" name]

def aliasPath : Parse Unit := do
  expectToken Token.isAnyWord
  dottedRest

def importAlias : Parse Tree := do
  let start ← here
  expectWord "import"
  let _ ← acceptModifier "type" Token.isAnyWord
  let name ← identifier
  expect "="
  if (← atWord "require") && (← lookSecond).1.isMark "(" then failure
  aliasPath
  let stop ← semicolon false
  return node "import_alias" start stop [name]

/-- Whether a declaration's own name can follow its first word here. -/
def nameFollows (test : Token → Bool) : Parse Bool := do
  let s := State.behind (← get).after
  -- At the end of a line the first word can be an expression.
  return test s.next && (s.insertedStop? true).isNone

def isNameWord : Token → Bool
  | .word text => text ≠ "in" && text ≠ "instanceof"
  | _ => false

def isBindingStart (t : Token) : Bool := isNameWord t || t.isMark "[" || t.isMark "\x7b"

def isNamespaceStart (t : Token) : Bool := isNameWord t || t = .string

/-- The declaration that comes next, if there is one and no other statement can begin this way. -/
def declaration? (g : Grammar) : Parse (Option (Parse Tree)) := do
  let (second, gap) ← lookSecond
  match ← look with
  | .mark "@" => return some (classDeclaration g)
  | .word "var" => return some (variableList g "variable_declaration" "var")
  | .word "const" =>
    if second.isWord "enum" then return some (enumDeclaration g)
    else return some (variableList g "lexical_declaration" "const")
  | .word "let" =>
    if ← nameFollows isBindingStart then return some (variableList g "lexical_declaration" "let")
    else return none
  | .word "function" => return some (functionDeclaration g)
  | .word "async" =>
    if second.isWord "function" && !gap.hasBreak then return some (functionDeclaration g)
    else return none
  | .word "class" => return some (classDeclaration g)
  | .word "abstract" =>
    if second.isWord "class" && !gap.hasBreak then return some (classDeclaration g) else return none
  | .word "interface" => return some (interfaceDeclaration g)
  | .word "enum" => return some (enumDeclaration g)
  | .word "type" => if ← nameFollows isNameWord then return some (typeAlias g) else return none
  | .word "namespace" =>
    if ← nameFollows isNamespaceStart then
      return some (namespaceDeclaration g "internal_module" "namespace")
    else return none
  | .word "module" =>
    if ← nameFollows isNamespaceStart then return some (namespaceDeclaration g "module" "module")
    else return none
  | .word "import" => return some importAlias
  | _ => return none

def plainDeclaration (g : Grammar) : Parse Tree := do
  match ← declaration? g with
  | some declaration => declaration
  | none => failure

/-- The exports of a document as a whole, which are declared to have a type. -/
def declaredExports (g : Grammar) : Parse (Point × List Tree) := do
  let word ← keepWord "module"
  let point ← keepMark "."
  let name ← keepToken "property_identifier" Token.isAnyWord
  let colon ← keepMark ":"
  g.annotation
  let stop ← semicolon false
  return (stop, [word, point, name, colon])

/-- Whether a declaration without a body follows the word `declare`. -/
def atAmbient : Parse Bool := do
  let s := State.behind (← get).after
  if s.gap.hasBreak then return false
  else
    match s.next with
    | .mark "@" => return true
    | .word text =>
      return ["var", "let", "const", "function", "async", "class", "abstract", "interface", "enum",
        "type", "namespace", "module", "global", "import", "declare"].contains text
    | _ => return false

def ambientDeclaration (g : Grammar) : Parse Tree := do
  let start ← here
  let first ← keepWord "declare"
  let second := (← lookSecond).1
  if (← atWord "global") && second.isMark "\x7b" then
    let word ← keepWord "global"
    let body ← blockNode g
    return node "ambient_declaration" start body.label.stop [first, word, body]
  else if (← atWord "module") && second.isMark "." then
    let (stop, children) ← declaredExports g
    return node "ambient_declaration" start stop (first :: children)
  else
    let inner ← plainDeclaration g
    return node "ambient_declaration" start inner.label.stop [first, inner]

def declaration (g : Grammar) : Parse Tree := do
  if (← atWord "declare") && (← atAmbient) then ambientDeclaration g else plainDeclaration g

end ExportList.Typed
