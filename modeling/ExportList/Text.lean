/-!
Texts are finite sequences of Unicode code points.  Lone surrogates are code points like any other,
so a text need not have a UTF-8 form; the texts that do are those `Text.scalars?` accepts.
-/

set_option autoImplicit false

namespace ExportList

/-- A Unicode code point, lone surrogates included. -/
abbrev CodePoint := Fin 0x110000

abbrev Text := List CodePoint

def inRanges (ranges : List (Nat × Nat)) (n : Nat) : Bool :=
  ranges.any fun range => range.1 ≤ n && n ≤ range.2

namespace CodePoint

def ofChar (c : Char) : CodePoint :=
  ⟨c.toNat, by
    rcases c.valid with h | h
    · exact Nat.lt_trans h (by decide)
    · exact h.2⟩

instance : Coe Char CodePoint := ⟨ofChar⟩

/-- The code point with a given number, taken modulo the size of the code space. -/
def ofNat (n : Nat) : CodePoint := Fin.ofNat 0x110000 n

/-- Surrogates have no UTF-8 form. -/
def isSurrogate (c : CodePoint) : Bool := 0xD800 ≤ c.val && c.val < 0xE000

def toChar? (c : CodePoint) : Option Char :=
  if c.isSurrogate then none else some (Char.ofNat c.val)

end CodePoint

namespace Text

def ofString (s : String) : Text := s.toList.map CodePoint.ofChar

instance : Coe String Text := ⟨ofString⟩

def ofChars (cs : List Char) : Text := cs.map CodePoint.ofChar

def scalars? (t : Text) : Option (List Char) := t.mapM CodePoint.toChar?

def toString? (t : Text) : Option String := t.scalars?.map String.ofList

/-- Decimal digits of a natural number. -/
def ofNat (n : Nat) : Text := ofChars (Nat.toDigits 10 n)

def ofInt : Int → Text
  | .ofNat n => ofNat n
  | .negSucc n => (CodePoint.ofChar '-') :: ofNat (n + 1)

def hexDigit (n : Nat) : CodePoint := CodePoint.ofChar (Nat.digitChar (n % 16))

/-- The last `width` hexadecimal digits of a number, lower-case. -/
def hex : (width : Nat) → Nat → Text
  | 0, _ => []
  | width + 1, n => hex width (n / 16) ++ [hexDigit n]

def join (separator : Text) : List Text → Text
  | [] => []
  | [part] => part
  | part :: parts => part ++ separator ++ join separator parts

/-- The pieces between the occurrences of a code point; always at least one. -/
def splitAt (mark : CodePoint) : Text → List Text
  | [] => [[]]
  | c :: rest =>
    match splitAt mark rest with
    | [] => [[c]]
    | piece :: pieces => if c = mark then [] :: piece :: pieces else (c :: piece) :: pieces

def before (mark : CodePoint) (t : Text) : Text := t.takeWhile (· ≠ mark)

def startsWith (t start : Text) : Bool := start.isPrefixOf t

def endsWith (t : Text) (last : CodePoint) : Bool := t.getLast? == some last

/-- A text without the occurrences of a code point at its end. -/
def dropTrailing (mark : CodePoint) (t : Text) : Text :=
  (t.reverse.dropWhile (· = mark)).reverse

/-- Line ends in one form, given whether the code point before was a carriage return. -/
def normalizeNewlinesAfter (afterReturn : Bool) : Text → Text
  | [] => []
  | c :: rest =>
    if c = CodePoint.ofChar '\r' then (CodePoint.ofChar '\n') :: normalizeNewlinesAfter true rest
    else if afterReturn && c = CodePoint.ofChar '\n' then normalizeNewlinesAfter false rest
    else c :: normalizeNewlinesAfter false rest

/-- Line ends in one form: a carriage return, alone or before a line feed, becomes a line feed. -/
def normalizeNewlines (t : Text) : Text := normalizeNewlinesAfter false t

end Text

end ExportList
