import ExportList.Decimal.Shortest
import ExportList.Script.Fault
import ExportList.Script.Letter

/-!
Tokens of JavaScript documents, and the position of a reader in one.
-/

set_option autoImplicit false

namespace ExportList.Script

def keywords : List Text :=
  ["if in do var for new try let this else case void with enum while break catch throw const yield",
    "class super return typeof delete switch export import default finally extends function",
    "continue debugger instanceof"].flatMap (Text.splitAt (CodePoint.ofChar ' ') ∘ Text.ofString)

abbrev PlainWord := { word : Text // word ∉ keywords }

/-- The value of a numeric literal; a number that is not whole is a double. -/
inductive Number where
  | whole (n : Nat)
  | double (bits : Nat)
deriving DecidableEq, Repr

inductive Lexeme where
  | endOfInput
  | identifier (name : PlainWord)
  | keyword (word : Text)
  | boolean (value : Bool)
  | null
  | number (value : Number) (octal : Bool)
  | string (value : Text) (octal : Bool)
  | template (raw cooked : Text) (isHead isTail : Bool)
  | mark (text : Text)
  | pattern (body flags : Text)
deriving DecidableEq, Repr

/-- A token.  Its line is the one on which it ends. -/
structure Token where
  lexeme : Lexeme
  start : Nat
  stop : Nat
  line : Nat
  lineStart : Nat
  /-- The characters as they are written. -/
  raw : Text
deriving DecidableEq, Repr

namespace Token

def isMark (t : Token) (text : Text) : Bool :=
  match t.lexeme with
  | .mark m => m = text
  | _ => false

def isKeyword (t : Token) (text : Text) : Bool :=
  match t.lexeme with
  | .keyword word => word = text
  | _ => false

def isWord (t : Token) (text : Text) : Bool :=
  match t.lexeme with
  | .identifier name => name.val = text
  | _ => false

def isIdentifier (t : Token) : Bool :=
  match t.lexeme with
  | .identifier _ => true
  | _ => false

def isEnd (t : Token) : Bool :=
  match t.lexeme with
  | .endOfInput => true
  | _ => false

def isString (t : Token) : Bool :=
  match t.lexeme with
  | .string _ _ => true
  | _ => false

def isTemplate (t : Token) : Bool :=
  match t.lexeme with
  | .template .. => true
  | _ => false

def isTemplateHead (t : Token) : Bool :=
  match t.lexeme with
  | .template _ _ isHead _ => isHead
  | _ => false

def isOctal (t : Token) : Bool :=
  match t.lexeme with
  | .number _ octal => octal
  | .string _ octal => octal
  | _ => false

/-- Whether a token can be a property name after a dot. -/
def isName (t : Token) : Bool :=
  match t.lexeme with
  | .identifier _ | .keyword _ | .boolean _ | .null => true
  | _ => false

/-- Whether a token can begin a property name in a literal. -/
def isPropertyStart (t : Token) : Bool :=
  match t.lexeme with
  | .identifier _ | .keyword _ | .boolean _ | .null | .string .. | .number .. => true
  | .mark text => text = "["
  | _ => false

/-- The text that a token stands for in messages and as a name. -/
def text (t : Token) : Text :=
  match t.lexeme with
  | .endOfInput => []
  | .identifier name => name
  | .keyword word => word
  | .boolean value => if value then "true" else "false"
  | .null => "null"
  | .number (.whole n) _ => Text.ofNat n
  | .number (.double bits) _ =>
    if bits = Binary64.infinityBits then "inf" else Binary64.toText bits
  | .string value _ => value
  | .template raw .. => raw
  | .mark text => text
  | .pattern .. => []

/-- Whether a token has nothing to show: no text, or the number zero. -/
def isBlank (t : Token) : Bool :=
  match t.lexeme with
  | .number (.whole n) _ => n = 0
  | _ => t.text.isEmpty

end Token

/-- A reader's position: what is left, its index, and the number and the index of its line. -/
structure Cursor where
  rest : List Char
  index : Nat
  line : Nat
  lineStart : Nat
deriving DecidableEq, Repr

namespace Cursor

/-- The next character; the end reads as a null character. -/
def peek (c : Cursor) : Char := c.rest.headD '\x00'

def peekSecond (c : Cursor) : Char := (c.rest.drop 1).headD '\x00'

def begins (c : Cursor) (text : List Char) : Bool := text.isPrefixOf c.rest

def advance (c : Cursor) (n : Nat) : Cursor :=
  { c with rest := c.rest.drop n, index := c.index + n }

/-- The position after `n` characters that end the line. -/
def breakLine (c : Cursor) (n : Nat) : Cursor :=
  ⟨c.rest.drop n, c.index + n, c.line + 1, c.index + n⟩

def column (c : Cursor) : Int := (c.index : Int) - c.lineStart

def complain (c : Cursor) (fault : Fault) : Complaint := ⟨fault, c.line, c.column + 1⟩

def token (start stop : Cursor) (lexeme : Lexeme) : Token :=
  ⟨lexeme, start.index, stop.index, stop.line, stop.lineStart,
    Text.ofChars (start.rest.take (stop.index - start.index))⟩

end Cursor

def futureReservedWords : List Text := ["enum", "export", "import", "super"]

def strictReservedWords : List Text :=
  ["implements", "interface", "package", "private", "protected", "public", "static", "yield", "let"]

def restrictedWords : List Text := ["eval", "arguments"]

end ExportList.Script
