import ExportList.Typed.Cursor

/-!
The tokens of TypeScript.  Angle brackets are always tokens of their own, since only the grammar
knows whether they are part of an operator, and the inside of templates, regular expressions and
elements is left to the grammar as well.
-/

set_option autoImplicit false

namespace ExportList.Typed

open Concrete (Point)

inductive Token where
  | word (text : String)
  | privateName
  | number
  | string
  | tick
  | mark (text : String)
  | finish
  | invalid
deriving DecidableEq, Repr

namespace Token

def isMark (t : Token) (text : String) : Bool := t = .mark text

def isWord (t : Token) (text : String) : Bool := t = .word text

def isAnyWord : Token → Bool
  | .word _ => true
  | _ => false

end Token

def isHexDigit (c : Char) : Bool :=
  c.isDigit || ('a' ≤ c && c ≤ 'f') || ('A' ≤ c && c ≤ 'F')

/-- The length of the part of an escape behind its backslash that names a character by number. -/
def unicodeEscape? : List Char → Option Nat
  | 'u' :: '\x7b' :: rest =>
    let digits := (rest.takeWhile isHexDigit).length
    if digits ≠ 0 && (rest.drop digits).head? = some '\x7d' then some (digits + 3) else none
  | 'u' :: rest => if (rest.take 4).length = 4 && (rest.take 4).all isHexDigit then some 5 else none
  | _ => none

/-- The number of characters that go on with a word; the first `owed` of them are part of an
escape. -/
def wordLength (owed : Nat) : List Char → Nat
  | [] => 0
  | c :: rest =>
    if owed ≠ 0 then wordLength (owed - 1) rest + 1
    else if c = '\\' then
      match unicodeEscape? rest with
      | some length => wordLength length rest + 1
      | none => 0
    else if isWordPart c then wordLength 0 rest + 1
    else 0

/-- The length of digits of a class, with single underscores between them. -/
def digitsLength (test : Char → Bool) : List Char → Nat
  | [] => 0
  | c :: rest =>
    if test c then digitsLength test rest + 1
    else if c = '_' && rest.head?.any test then digitsLength test rest + 1
    else 0

def exponentLength : List Char → Nat
  | mark :: rest =>
    if mark = 'e' || mark = 'E' then
      let sign := if rest.head? = some '+' || rest.head? = some '-' then 1 else 0
      let digits := digitsLength Char.isDigit (rest.drop sign)
      if digits = 0 then 0 else sign + digits + 1
    else 0
  | [] => 0

/-- The length of a point, the digits after it, and an exponent. -/
def fractionLength : List Char → Nat
  | '.' :: rest =>
    let digits := if rest.head?.any Char.isDigit then digitsLength Char.isDigit rest else 0
    digits + exponentLength (rest.drop digits) + 1
  | rest => exponentLength rest

/-- The length of a number whose digits are of a class, behind its two-character mark. -/
def radixLength (test : Char → Bool) (rest : List Char) : Nat :=
  let digits := digitsLength test rest
  if digits = 0 then 1
  else if (rest.drop digits).head? = some 'n' then digits + 3
  else digits + 2

def numberLength (source : List Char) : Nat :=
  match source with
  | '0' :: mark :: rest =>
    if mark = 'x' || mark = 'X' then radixLength isHexDigit rest
    else if mark = 'o' || mark = 'O' then radixLength (fun c => '0' ≤ c && c ≤ '7') rest
    else if mark = 'b' || mark = 'B' then radixLength (fun c => c = '0' || c = '1') rest
    else decimalLength
  | _ => decimalLength
where
  decimalLength : Nat :=
    let digits := digitsLength Char.isDigit source
    if (source.drop digits).head? = some 'n' then digits + 1
    else digits + fractionLength (source.drop digits)

/-- How many characters behind a backslash belong to an escape of a string. -/
def escapeLength? : List Char → Option Nat
  | [] => none
  | 'x' :: rest => if (rest.take 2).length = 2 && (rest.take 2).all isHexDigit then some 3 else none
  | 'u' :: rest => unicodeEscape? ('u' :: rest)
  | '\r' :: '\n' :: _ => some 2
  | _ => some 1

/-- The length of the rest of a string with its closing quote. -/
def stringLength? (quote : Char) (owed : Nat) : List Char → Option Nat
  | [] => none
  | c :: rest =>
    if owed ≠ 0 then (stringLength? quote (owed - 1) rest).map (· + 1)
    else if c = quote then some 1
    else if c = '\n' || c = '\r' then none
    else if c = '\\' then
      match escapeLength? rest with
      | some length => (stringLength? quote length rest).map (· + 1)
      | none => none
    else (stringLength? quote 0 rest).map (· + 1)

def longMarks : List String :=
  ["**=", "...", "===", "!==", "&&=", "||=", "??=", "=>", "==", "!=", "**", "++", "--", "+=", "-=",
    "*=", "/=", "%=", "&&", "||", "??", "&=", "|=", "^="]

def markAt (source : List Char) : Token :=
  match source with
  | '?' :: '.' :: rest => if rest.head?.any Char.isDigit then .mark "?" else .mark "?."
  | c :: _ =>
    match longMarks.find? fun text => text.toList.isPrefixOf source with
    | some text => .mark text
    | none => if isPunctuation c && c ≠ '\\' then .mark (String.singleton c) else .invalid
  | [] => .finish

/-- The token at the start of some characters, and its length. -/
def tokenAt (source : List Char) : Token × Nat :=
  match source with
  | [] => (.finish, 0)
  | c :: rest =>
    if c.isDigit || (c = '.' && rest.head?.any Char.isDigit) then (.number, numberLength source)
    else if c = '"' || c = '\'' then
      match stringLength? c 0 rest with
      | some length => (.string, length + 1)
      | none => (.invalid, 1)
    else if c = '`' then (.tick, 1)
    else if c = '#' then
      match rest with
      | d :: _ =>
        if isWordStart d || d = '\\' then (.privateName, wordLength 0 rest + 1) else (.invalid, 1)
      | [] => (.invalid, 1)
    else if isWordStart c || c = '\\' then
      let length := wordLength 0 source
      if length = 0 then (.invalid, 1)
      else (.word (String.ofList (source.take length)), length)
    else
      match markAt source with
      | .mark text => (.mark text, text.length)
      | _ => (.invalid, 1)

end ExportList.Typed
