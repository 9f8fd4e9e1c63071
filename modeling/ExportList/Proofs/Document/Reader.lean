import ExportList.Document

/-!
Reading JSON text.  The grammar is that of the JSON standard: blanks may stand around any token,
strings may escape any code point, astral ones as a pair of surrogates, and a number with a fraction
or an exponent is the double nearest to it.  Of several members with one name the last one counts.
-/

set_option autoImplicit false

namespace ExportList.Json

def isBlank (c : CodePoint) : Bool := c.val = 0x20 || c.val = 0x09 || c.val = 0x0A || c.val = 0x0D

def skipBlanks (t : Text) : Text := t.dropWhile isBlank

def words : List (Text × Value) := [("null", .null), ("true", .bool true), ("false", .bool false)]

def readWord (t : Text) : Option (Value × Text) :=
  (words.find? fun word => Text.startsWith t word.1).map fun word => (word.2, t.drop word.1.length)

def hexValue? (c : CodePoint) : Option Nat :=
  if 0x30 ≤ c.val && c.val ≤ 0x39 then some (c.val - 0x30)
  else if 0x61 ≤ c.val && c.val ≤ 0x66 then some (c.val - 0x61 + 10)
  else if 0x41 ≤ c.val && c.val ≤ 0x46 then some (c.val - 0x41 + 10)
  else none

/-- The number that hexadecimal digits write, behind those that were read before. -/
def hexNumber? (value : Nat) : Text → Option Nat
  | [] => some value
  | c :: rest => do hexNumber? (value * 16 + (← hexValue? c)) rest

def shortEscapes : List (Char × Nat) :=
  [('"', 0x22), ('\\', 0x5C), ('/', 0x2F), ('b', 0x08), ('f', 0x0C), ('n', 0x0A), ('r', 0x0D),
    ('t', 0x09)]

def shortEscape? (c : CodePoint) : Option CodePoint :=
  (shortEscapes.find? fun entry => CodePoint.ofChar entry.1 = c).map fun entry =>
    CodePoint.ofNat entry.2

/-- Puts an escaped unit in front of a text: a high surrogate and a low one behind it are one code
point. -/
def consUnit (unit : Nat) : Text → Text
  | [] => [CodePoint.ofNat unit]
  | c :: rest =>
    if 0xD800 ≤ unit && unit < 0xDC00 && 0xDC00 ≤ c.val && c.val < 0xE000 then
      CodePoint.ofNat (0x10000 + (unit - 0xD800) * 0x400 + (c.val - 0xDC00)) :: rest
    else CodePoint.ofNat unit :: c :: rest

/-- Reads what stands between quotes, and the closing one. -/
def readString : Text → Option (Text × Text)
  | [] => none
  | c :: rest =>
    if c = CodePoint.ofChar '"' then some ([], rest)
    else if c = CodePoint.ofChar '\\' then
      match rest with
      | [] => none
      | e :: rest =>
        if e = CodePoint.ofChar 'u' then
          match rest with
          | d₁ :: d₂ :: d₃ :: d₄ :: rest =>
            match hexNumber? 0 [d₁, d₂, d₃, d₄] with
            | none => none
            | some unit => (readString rest).map fun r => (consUnit unit r.1, r.2)
          | _ => none
        else
          match shortEscape? e with
          | none => none
          | some point => (readString rest).map fun r => (point :: r.1, r.2)
    else if c.val < 0x20 || c.isSurrogate then none
    else (readString rest).map fun r => (c :: r.1, r.2)

def isDigit (c : CodePoint) : Bool := 0x30 ≤ c.val && c.val ≤ 0x39

def decimalNumber (digits : Text) : Nat :=
  digits.foldl (fun value c => value * 10 + (c.val - 0x30)) 0

def readDigits (t : Text) : Option (Text × Text) :=
  if (t.takeWhile isDigit).isEmpty then none else some (t.takeWhile isDigit, t.dropWhile isDigit)

/-- Reads the digits before the point; only zero itself begins with a zero. -/
def readWhole (t : Text) : Option (Text × Text) := do
  let (digits, rest) ← readDigits t
  if digits.head? = some (CodePoint.ofChar '0') && digits.length ≠ 1 then none
  else some (digits, rest)

def readFraction : Text → Option (Option Text × Text)
  | [] => some (none, [])
  | c :: rest =>
    if c = CodePoint.ofChar '.' then (readDigits rest).map fun r => (some r.1, r.2)
    else some (none, c :: rest)

/-- Reads a sign, if there is one: whether it is a minus. -/
def readSign : Text → Bool × Text
  | [] => (false, [])
  | c :: rest =>
    if c = CodePoint.ofChar '-' then (true, rest)
    else if c = CodePoint.ofChar '+' then (false, rest)
    else (false, c :: rest)

def readExponent : Text → Option (Option Int × Text)
  | [] => some (none, [])
  | c :: rest =>
    if c = CodePoint.ofChar 'e' || c = CodePoint.ofChar 'E' then
      let (negative, rest) := readSign rest
      (readDigits rest).map fun r =>
        (some (if negative then -(decimalNumber r.1 : Int) else decimalNumber r.1), r.2)
    else some (none, c :: rest)

/-- The value of a number: an integer, unless it was written with a fraction or an exponent. -/
def numberValue (negative : Bool) (whole : Text) (fraction : Option Text)
    (exponent : Option Int) : Value :=
  match fraction, exponent with
  | none, none => .int (if negative then -(decimalNumber whole : Int) else decimalNumber whole)
  | _, _ =>
    let digits := whole ++ fraction.getD []
    let bits := Binary64.ofDecimal (decimalNumber digits) digits.length
      (exponent.getD 0 - (fraction.getD []).length)
    .float (if negative then Nat.pow 2 63 + bits else bits)

def readUnsigned (negative : Bool) (t : Text) : Option (Value × Text) := do
  let (whole, t) ← readWhole t
  let (fraction, t) ← readFraction t
  let (exponent, t) ← readExponent t
  return (numberValue negative whole fraction exponent, t)

def readNumber (t : Text) : Option (Value × Text) :=
  if t.head? = some (CodePoint.ofChar '-') then readUnsigned true (t.drop 1)
  else readUnsigned false t

section Series

variable {α : Type}

/-- Reads one or more items with commas between them, at most so many, and the closing bracket. -/
def readSeries (close : CodePoint) (item : Text → Option (α × Text)) :
    Nat → Text → Option (List α × Text)
  | 0, _ => none
  | count + 1, t =>
    match item t with
    | none => none
    | some (first, t) =>
      match skipBlanks t with
      | [] => none
      | c :: rest =>
        if c = close then some ([first], rest)
        else if c = CodePoint.ofChar ',' then
          (readSeries close item count rest).map fun r => (first :: r.1, r.2)
        else none

def readItems (close : CodePoint) (item : Text → Option (α × Text)) (t : Text) :
    Option (List α × Text) :=
  match skipBlanks t with
  | [] => none
  | c :: rest =>
    if c = close then some ([], rest) else readSeries close item (c :: rest).length (c :: rest)

end Series

def readMember (value : Text → Option (Value × Text)) (t : Text) : Option ((Text × Value) × Text) :=
  match skipBlanks t with
  | [] => none
  | c :: rest =>
    if c = CodePoint.ofChar '"' then do
      let (name, rest) ← readString rest
      match skipBlanks rest with
      | [] => none
      | c :: rest =>
        if c = CodePoint.ofChar ':' then (value rest).map fun r => ((name, r.1), r.2) else none
    else none

/-- Reads a value whose parts are nested at most so deep. -/
def readValue : (depth : Nat) → Text → Option (Value × Text)
  | 0, _ => none
  | depth + 1, t =>
    match skipBlanks t with
    | [] => none
    | c :: rest =>
      if c = CodePoint.ofChar '"' then (readString rest).map fun r => (.text r.1, r.2)
      else if c = CodePoint.ofChar '[' then
        (readItems (CodePoint.ofChar ']') (readValue depth) rest).map fun r => (.list r.1, r.2)
      else if c = CodePoint.ofChar '{' then
        (readItems (CodePoint.ofChar '}') (readMember (readValue depth)) rest).map fun r =>
          (.object (Fields.update [] r.1), r.2)
      else if c = CodePoint.ofChar '-' || isDigit c then readNumber (c :: rest)
      else readWord (c :: rest)

/-- Reads a text that is one value, with blanks around it. -/
def read (t : Text) : Option Value :=
  match readValue t.length t with
  | none => none
  | some (v, rest) => if (skipBlanks rest).isEmpty then some v else none

end ExportList.Json
