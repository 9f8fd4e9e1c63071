import ExportList.Script.Matcher
import ExportList.Script.Token

/-!
Reading the next token of a JavaScript document.  Whether a closing brace continues a template
depends on the braces that are open, so these are kept beside the position.
-/

set_option autoImplicit false

namespace ExportList.Script

/-- The position and the open braces, innermost first; `true` marks one that a template opened. -/
structure Scanner where
  cursor : Cursor
  braces : List Bool
  isModule : Bool

abbrev Scan (α : Type) := Except Complaint α

def skipLineEnd (c : Cursor) : Cursor :=
  if c.begins ['\r', '\n'] then c.breakLine 2 else c.breakLine 1

def skipLineComment (line lineStart : Nat) : (index : Nat) → List Char → Cursor
  | index, [] => ⟨[], index, line, lineStart⟩
  | index, d :: rest =>
    if isLineEnd d then skipLineEnd ⟨d :: rest, index, line, lineStart⟩
    else skipLineComment line lineStart (index + 1) rest

def skipBlockComment : (line lineStart index : Nat) → List Char → Scan Cursor
  | line, lineStart, index, [] => .error (Cursor.complain ⟨[], index, line, lineStart⟩ .illegal)
  | line, lineStart, index, '*' :: '/' :: rest => .ok ⟨rest, index + 2, line, lineStart⟩
  | line, _, index, '\r' :: '\n' :: rest => skipBlockComment (line + 1) (index + 2) (index + 2) rest
  | line, lineStart, index, c :: rest =>
    if isLineEnd c then skipBlockComment (line + 1) (index + 1) (index + 1) rest
    else skipBlockComment line lineStart (index + 1) rest

/-- The position after blanks and comments.  The long arrow begins a comment where nothing but
blanks and comments came before it on its line, the markup comment in scripts. -/
def skipTriviaFrom (isModule : Bool) : (fuel : Nat) → (isLineStart : Bool) → Cursor → Scan Cursor
  | 0, _, c => .ok c
  | fuel + 1, isLineStart, c =>
    let lineComment := fun n => skipLineComment c.line c.lineStart (c.index + n) (c.rest.drop n)
    if c.begins ['/', '/'] then skipTriviaFrom isModule fuel true (lineComment 2)
    else if c.begins ['/', '*'] then do
      let after ← skipBlockComment c.line c.lineStart (c.index + 2) (c.rest.drop 2)
      skipTriviaFrom isModule fuel isLineStart after
    else if isLineStart && c.begins ['-', '-', '>'] then
      skipTriviaFrom isModule fuel isLineStart (lineComment 3)
    else if !isModule && c.begins ['<', '!', '-', '-'] then
      -- Behind such a comment the next line is not taken to begin.
      skipTriviaFrom isModule fuel isLineStart (lineComment 4)
    else if isBlank c.peek then skipTriviaFrom isModule fuel isLineStart (c.advance 1)
    else if isLineEnd c.peek then skipTriviaFrom isModule fuel true (skipLineEnd c)
    else .ok c

def skipTrivia (isModule : Bool) (c : Cursor) : Scan Cursor :=
  skipTriviaFrom isModule (c.rest.length + 1) (c.index = 0) c

/-- Up to `count` hexadecimal digits: the number if there are that many, and the position after. -/
def scanHex : (count : Nat) → (value : Nat) → Cursor → Option Nat × Cursor
  | 0, value, c => (some value, c)
  | count + 1, value, c =>
    match c.rest with
    | d :: _ =>
      match hexValue? d with
      | some digit => scanHex count (value * 16 + digit) (c.advance 1)
      | none => (none, c)
    | [] => (none, c)

/-- Hexadecimal digits up to the character that ends them, which is consumed. -/
def scanBracedDigits (index line lineStart : Nat) (value : Nat) : List Char → Nat × Char × Cursor
  | [] => (value, '\x00', ⟨[], index, line, lineStart⟩)
  | d :: rest =>
    match hexValue? d with
    | some digit => scanBracedDigits (index + 1) line lineStart (value * 16 + digit) rest
    | none => (value, d, ⟨rest, index + 1, line, lineStart⟩)

def scanBracedEscape (c : Cursor) : Scan (CodePoint × Cursor) :=
  if c.peek = '}' then .error (c.complain .illegal)
  else
    let (value, stop, after) := scanBracedDigits c.index c.line c.lineStart 0 c.rest
    if value > 0x10FFFF || stop ≠ '}' then .error (after.complain .illegal)
    else .ok (CodePoint.ofNat value, after)

/-- An escape inside a name, after its backslash.  Only the form with four digits is checked. -/
def scanNameEscape (isAllowed : Nat → Bool) (c : Cursor) : Scan (CodePoint × Cursor) :=
  if c.peek ≠ 'u' then .error (c.complain .illegal)
  else
    let c := c.advance 1
    if c.peek = '{' then scanBracedEscape (c.advance 1)
    else
      match scanHex 4 0 c with
      | (some value, after) =>
        if value ≠ 0x5C && isAllowed value then .ok (CodePoint.ofNat value, after)
        else .error (after.complain .illegal)
      | (none, after) => .error (after.complain .illegal)

def scanNameRest : (fuel : Nat) → Text → Cursor → Scan (Text × Cursor)
  | 0, name, c => .ok (name.reverse, c)
  | fuel + 1, name, c =>
    match c.rest with
    | [] => .ok (name.reverse, c)
    | d :: _ =>
      if d = '\\' then do
        let (point, after) ← scanNameEscape isNamePart (c.advance 1)
        scanNameRest fuel (point :: name) after
      else if isNamePart d.toNat then scanNameRest fuel (↑d :: name) (c.advance 1)
      else .ok (name.reverse, c)

def scanName (c : Cursor) : Scan (Text × Cursor) := do
  let fuel := c.rest.length
  if c.peek = '\\' then
    let (point, after) ← scanNameEscape isNameStart (c.advance 1)
    scanNameRest fuel [point] after
  else scanNameRest fuel [↑c.peek] (c.advance 1)

def classify (name : Text) : Lexeme :=
  if h : name ∈ keywords then .keyword name
  else if name = Text.ofString "null" then .null
  else if name = Text.ofString "true" then .boolean true
  else if name = Text.ofString "false" then .boolean false
  else .identifier ⟨name, h⟩

/-- A name or keyword; a keyword cannot be written with escapes. -/
def scanWord (c : Cursor) : Scan (Lexeme × Cursor) := do
  let (name, after) ← scanName c
  let lexeme := classify name
  let isPlain := c.index + name.length = after.index
  match lexeme with
  | .identifier _ => return (lexeme, after)
  | _ =>
    if isPlain then return (lexeme, after)
    else throw ({ after with index := c.index } |>.complain .escapedKeyword)

def longMarks : List (List Char) :=
  [">>>=", "===", "!==", ">>>", "<<=", ">>=", "**=", "...", "&&", "||", "==", "!=",
    "+=", "-=", "*=", "/=", "++", "--", "<<", ">>", "&=", "|=", "^=", "%=", "<=", ">=", "=>",
    "**"].map String.toList

def shortMarks : List Char :=
  ['(', ')', '{', '}', '[', ']', ';', ',', ':', '?', '~', '.', '<', '>', '=', '!', '+',
    '-', '*', '%', '&', '|', '^', '/']

def markLength? (rest : List Char) : Option Nat :=
  match longMarks.find? fun mark => mark.isPrefixOf rest with
  | some mark => some mark.length
  | none =>
    match rest with
    | d :: _ => if shortMarks.contains d then some 1 else none
    | [] => none

def scanMark (c : Cursor) : Scan (Lexeme × Cursor) :=
  match markLength? c.rest with
  | some n => .ok (.mark (Text.ofChars (c.rest.take n)), c.advance n)
  | none => .error (c.complain .illegal)

/-- The leading characters of a class, and the position after them. -/
def takeClass (isMember : Char → Bool) (c : Cursor) : List Char × Cursor :=
  let taken := c.rest.takeWhile isMember
  (taken, c.advance taken.length)

def digitsValue (base : Nat) (digits : List Char) : Nat :=
  digits.foldl (fun value d => value * base + (hexValue? d).getD 0) 0

/-- Digits of a base after its mark; a letter cannot follow, nor a digit where `noDigit` says so. -/
def scanRadix (base : Nat) (isMember : Char → Bool) (noDigit : Bool) (c : Cursor) :
    Scan (Lexeme × Cursor) :=
  let (digits, after) := takeClass isMember c
  if digits.isEmpty then .error (after.complain .illegal)
  else if isNameStart after.peek.toNat || (noDigit && isDigit after.peek) then
    .error (after.complain .illegal)
  else .ok (.number (.whole (digitsValue base digits)) false, after)

/-- An octal number that only a leading zero marks. -/
def scanLegacyOctal (c : Cursor) : Scan (Lexeme × Cursor) :=
  let (digits, after) := takeClass isOctalDigit c
  if isNameStart after.peek.toNat || isDigit after.peek then .error (after.complain .illegal)
  else .ok (.number (.whole (digitsValue 8 digits)) true, after)

/-- Whether digits after a zero are octal: there is no eight or nine among them. -/
def isLegacyOctal : List Char → Bool
  | [] => true
  | d :: rest =>
    if d = '8' || d = '9' then false else if isOctalDigit d then isLegacyOctal rest else true

/-- The value of a decimal literal; whole doubles are whole numbers. -/
def decimalValue (digits : List Char) (exponent : Int) : Number :=
  let bits := Binary64.ofDecimal (digitsValue 10 digits) digits.length exponent
  match Binary64.toNat? bits with
  | some n => .whole n
  | none => .double bits

def skipSign (c : Cursor) : Cursor := if c.peek = '+' || c.peek = '-' then c.advance 1 else c

def scanExponent (c : Cursor) : Scan (Int × Cursor) :=
  if c.peek = 'e' || c.peek = 'E' then
    let isNegative := (c.advance 1).peek = '-'
    let (digits, after) := takeClass isDigit (skipSign (c.advance 1))
    if digits.isEmpty then .error (after.complain .illegal)
    else
      let value : Int := digitsValue 10 digits
      .ok (if isNegative then -value else value, after)
  else .ok (0, c)

def takeFraction (c : Cursor) : List Char × Cursor :=
  if c.peek = '.' then takeClass isDigit (c.advance 1) else ([], c)

def scanDecimal (c : Cursor) : Scan (Lexeme × Cursor) := do
  let (whole, c) := takeClass isDigit c
  let (fraction, c) := takeFraction c
  let (exponent, c) ← scanExponent c
  if isNameStart c.peek.toNat then throw (c.complain .illegal)
  else return (.number (decimalValue (whole ++ fraction) (exponent - fraction.length)) false, c)

def scanNumber (c : Cursor) : Scan (Lexeme × Cursor) :=
  let d := c.peekSecond
  if c.peek ≠ '0' then scanDecimal c
  else if d = 'x' || d = 'X' then scanRadix 16 isHexDigit false (c.advance 2)
  else if d = 'b' || d = 'B' then scanRadix 2 (fun d => d = '0' || d = '1') true (c.advance 2)
  else if d = 'o' || d = 'O' then scanRadix 8 isOctalDigit true (c.advance 2)
  -- With an eight or nine among the digits the zero in front means nothing.
  else if isOctalDigit d && isLegacyOctal (c.rest.drop 1) then scanLegacyOctal (c.advance 1)
  else scanDecimal c

/-- What a letter after a backslash stands for in strings and templates. -/
def simpleEscape? (d : Char) : Option CodePoint :=
  match d with
  | 'n' => some (CodePoint.ofNat 10)
  | 'r' => some (CodePoint.ofNat 13)
  | 't' => some (CodePoint.ofNat 9)
  | 'b' => some (CodePoint.ofNat 8)
  | 'f' => some (CodePoint.ofNat 12)
  | 'v' => some (CodePoint.ofNat 11)
  | _ => none

/-- An octal escape in a string: its value and whether it is more than a null character. -/
def scanOctalEscape (first : Char) (c : Cursor) : CodePoint × Bool × Cursor :=
  let value := first.toNat - 0x30
  if isOctalDigit c.peek then
    let value := value * 8 + (c.peek.toNat - 0x30)
    let c := c.advance 1
    if first.toNat ≤ 0x33 && isOctalDigit c.peek then
      (CodePoint.ofNat (value * 8 + (c.peek.toNat - 0x30)), true, c.advance 1)
    else (CodePoint.ofNat value, true, c)
  else (CodePoint.ofNat value, first ≠ '0', c)

/-- An escape in a string, after its backslash: what it adds, and whether it is octal. -/
def scanStringEscape (c : Cursor) : Scan (Text × Bool × Cursor) :=
  let d := c.peek
  let after := c.advance 1
  if isLineEnd d then .ok ([], false, skipLineEnd c)
  else if d = 'u' then
    if after.peek = '{' then do
      let (point, after) ← scanBracedEscape (after.advance 1)
      return ([point], false, after)
    else
      match scanHex 4 0 after with
      | (some value, after) => .ok ([CodePoint.ofNat value], false, after)
      | (none, after) => .error (after.complain .illegal)
  else if d = 'x' then
    match scanHex 2 0 after with
    | (some value, after) => .ok ([CodePoint.ofNat value], false, after)
    | (none, after) => .error (after.complain .badHexEscape)
  else
    match simpleEscape? d with
    | some point => .ok ([point], false, after)
    | none =>
      if d = '8' || d = '9' then .error (after.complain .illegal)
      else if isOctalDigit d then
        let (point, octal, after) := scanOctalEscape d after
        .ok ([point], octal, after)
      else .ok ([↑d], false, after)

/-- The characters of a string up to its quote, given those before in reverse.  The complaint about
a missing quote is at the string's start. -/
def scanStringRest (start : Nat) (quote : Char) :
    (fuel : Nat) → Text → (octal : Bool) → Cursor → Scan (Lexeme × Cursor)
  | 0, _, _, c => .error ({ c with index := start } |>.complain .illegal)
  | fuel + 1, value, octal, c =>
    match c.rest with
    | [] => .error ({ c with index := start } |>.complain .illegal)
    | d :: _ =>
      if d = quote then .ok (.string value.reverse octal, c.advance 1)
      else if d = '\\' then do
        let (added, isOctal, after) ← scanStringEscape (c.advance 1)
        scanStringRest start quote fuel (added.reverse ++ value) (octal || isOctal) after
      else if isLineEnd d then .error ({ c with index := start } |>.complain .illegal)
      else scanStringRest start quote fuel (↑d :: value) octal (c.advance 1)

def scanString (c : Cursor) : Scan (Lexeme × Cursor) :=
  scanStringRest c.index c.peek (c.rest.length + 1) [] false (c.advance 1)

def scanTemplateEscape (c : Cursor) : Scan (Text × Cursor) :=
  let d := c.peek
  let after := c.advance 1
  if isLineEnd d then .ok ([], skipLineEnd c)
  else if d = 'u' then
    if after.peek = '{' then do
      let (point, after) ← scanBracedEscape (after.advance 1)
      return ([point], after)
    else
      match scanHex 4 0 after with
      | (some value, after) => .ok ([CodePoint.ofNat value], after)
      -- With fewer digits the letter stands for itself.
      | (none, _) => .ok ([↑d], after)
  else if d = 'x' then
    match scanHex 2 0 after with
    | (some value, after) => .ok ([CodePoint.ofNat value], after)
    | (none, after) => .error (after.complain .badHexEscape)
  else
    match simpleEscape? d with
    | some point => .ok ([point], after)
    | none =>
      if d = '0' then
        if isDigit after.peek then .error (after.complain .templateOctal)
        else .ok ([CodePoint.ofNat 0], after)
      else if isOctalDigit d then .error (after.complain .templateOctal)
      else .ok ([↑d], after)

/-- A part of a template up to its end or its next expression: the cooked text, whether it is the
last part, and the position after. -/
def scanTemplateRest : (fuel : Nat) → Text → Cursor → Scan (Text × Bool × Cursor)
  | 0, _, c => .error (c.complain .illegal)
  | fuel + 1, cooked, c =>
    match c.rest with
    | [] => .error (c.complain .illegal)
    | d :: _ =>
      if d = '`' then .ok (cooked.reverse, true, c.advance 1)
      else if c.begins ['$', '{'] then .ok (cooked.reverse, false, c.advance 2)
      else if d = '\\' then do
        let (added, after) ← scanTemplateEscape (c.advance 1)
        scanTemplateRest fuel (added.reverse ++ cooked) after
      else if isLineEnd d then
        scanTemplateRest fuel ((CodePoint.ofChar '\n') :: cooked) (skipLineEnd c)
      else scanTemplateRest fuel (↑d :: cooked) (c.advance 1)

def scanTemplate (c : Cursor) : Scan (Lexeme × Cursor) := do
  let (cooked, isTail, after) ← scanTemplateRest (c.rest.length + 1) [] (c.advance 1)
  let size := after.index - c.index - (if isTail then 2 else 3)
  let raw := Text.ofChars ((c.rest.drop 1).take size)
  return (.template raw cooked (c.peek = '`') isTail, after)

/-- The body of a regular expression, after its first slash: its size and the position after.  A
backslash takes the character after it along, and a set ends only with its bracket. -/
def scanPatternBody (line lineStart : Nat) :
    (escaped inSet : Bool) → (size index : Nat) → List Char → Scan (Nat × Cursor)
  | escaped, _, _, index, [] =>
    .error (Cursor.complain ⟨[], if escaped then index + 1 else index, line, lineStart⟩
      .unterminatedPattern)
  | escaped, inSet, size, index, d :: rest =>
    if isLineEnd d then
      .error (Cursor.complain ⟨rest, index + 1, line, lineStart⟩ .unterminatedPattern)
    else if escaped then scanPatternBody line lineStart false inSet (size + 1) (index + 1) rest
    else if d = '\\' then scanPatternBody line lineStart true inSet (size + 1) (index + 1) rest
    else if inSet then scanPatternBody line lineStart false (d ≠ ']') (size + 1) (index + 1) rest
    else if d = '/' then .ok (size, ⟨rest, index + 1, line, lineStart⟩)
    else scanPatternBody line lineStart false (d = '[') (size + 1) (index + 1) rest

/-- The flags of a regular expression; they cannot be escaped. -/
def scanFlags (c : Cursor) : Scan (Text × Cursor) :=
  let (flags, after) := takeClass (fun d => isNamePart d.toNat && d ≠ '\\') c
  if after.peek ≠ '\\' then .ok (Text.ofChars flags, after)
  else
    let escape := after.advance 1
    if escape.peek = 'u' then
      match scanHex 4 0 (escape.advance 1) with
      | (some _, stop) => .error (stop.complain .illegal)
      | (none, _) => .error ((escape.advance 1).complain .illegal)
    else .error (escape.complain .illegal)

/-- A regular expression literal, from its first slash on, and the position after. -/
def scanPattern (c : Cursor) : Scan (Token × Cursor) := do
  let (size, after) ← scanPatternBody c.line c.lineStart false false 0 (c.index + 1) (c.rest.drop 1)
  let body := (c.rest.drop 1).take size
  let (flags, after) ← scanFlags after
  if Matcher.isAccepted (body.map Char.toNat) then
    return (c.token after (.pattern (Text.ofChars body) flags), after)
  else throw (after.complain .invalidPattern)

namespace Scanner

def skip (s : Scanner) : Scan Scanner := do
  return { s with cursor := ← skipTrivia s.isModule s.cursor }

def bracesAfter (braces : List Bool) (lexeme : Lexeme) : List Bool :=
  match lexeme with
  | .mark text =>
    if text = Text.ofString "\x7b" then false :: braces
    else if text = Text.ofString "\x7d" then braces.drop 1
    else braces
  | .template _ _ isHead isTail =>
    let rest := if isHead then braces else braces.drop 1
    if isTail then rest else true :: rest
  | _ => braces

def scanLexeme (s : Scanner) : Scan (Lexeme × Cursor) :=
  let c := s.cursor
  match c.rest with
  | [] => .ok (.endOfInput, c)
  | d :: _ =>
    if isNameStart d.toNat then scanWord c
    else if d = '\'' || d = '"' then scanString c
    else if d = '.' then if isDigit c.peekSecond then scanNumber c else scanMark c
    else if isDigit d then scanNumber c
    -- A brace that closes an expression of a template goes on with the template.
    else if d = '`' || (d = '}' && s.braces.head? = some true) then scanTemplate c
    else scanMark c

def lex (s : Scanner) : Scan (Token × Scanner) := do
  let (lexeme, after) ← s.scanLexeme
  return (s.cursor.token after lexeme,
    { s with cursor := after, braces := bracesAfter s.braces lexeme })

def start (source : List Char) : Scanner :=
  -- The lines of an empty document count from zero.
  { cursor := ⟨source, 0, if source.isEmpty then 0 else 1, 0⟩, braces := [], isModule := false }

end Scanner

end ExportList.Script
