import ExportList.Decimal.Binary64
import ExportList.Text

/-!
The shortest decimal form of a double: the fewest digits that read back as the same double, and of
those the nearest to it.  Exponents from -4 up to 15 are written positionally.
-/

set_option autoImplicit false

namespace ExportList.Binary64

/-- The position of the decimal point: the least `p` with `num / den < 10 ^ p`, searched upwards. -/
def pointFrom (num den : Nat) : (fuel : Nat) → Int → Int
  | 0, p => p
  | fuel + 1, p =>
    let below :=
      if 0 ≤ p then num < den * Nat.pow 10 p.toNat else num * Nat.pow 10 (-p).toNat < den
    if below then p else pointFrom num den fuel (p + 1)

def pointPosition (num den : Nat) : Int :=
  -- By the decimal logarithm of two, rounded; the search makes up for what is missing.
  let guess : Int := ((Nat.log2 num : Int) - Nat.log2 den - 1) * 30103 / 100000 - 1
  pointFrom num den 8 guess

/-- The fraction in units of `10 ^ k`. -/
def inUnits (num den : Nat) (k : Int) : Nat × Nat :=
  if 0 ≤ k then (num, den * Nat.pow 10 k.toNat) else (num * Nat.pow 10 (-k).toNat, den)

/-- The digits of at most `count` places that read back, if there are such. -/
def candidate (bits num den : Nat) (point : Int) (count : Nat) : Option Nat :=
  let k := point - count
  let (n, d) := inUnits num den k
  let low := n / d
  let reads := fun digits => ofDecimal digits count k == bits
  match reads low, reads (low + 1) with
  -- Both neighbours read back: the nearer one, and of two as near the even one.
  | true, true =>
    let r := 2 * (n % d)
    some (if r > d || (r = d && low % 2 = 1) then low + 1 else low)
  | true, false => some low
  | false, true => some (low + 1)
  | false, false => none

/-- The first number of places, counted up from `count`, for which some digits read back. -/
def shortestFrom (bits num den : Nat) (point : Int) : (fuel : Nat) → (count : Nat) → Nat × Int
  | 0, count => (0, point - count)
  | fuel + 1, count =>
    match candidate bits num den point count with
    | some digits => (digits, point - count)
    | none => shortestFrom bits num den point fuel (count + 1)

def shortest (bits : Nat) : Nat × Int :=
  let (num, den) := fraction bits
  shortestFrom bits num den (pointPosition num den) 17 1

def zeros (n : Nat) : Text := List.replicate n (CodePoint.ofChar '0')

def toText (bits : Nat) : Text :=
  if bits = 0 then "0.0"
  else
    let (number, exponent) := shortest bits
    let digits := Text.dropTrailing (CodePoint.ofChar '0') (Text.ofNat number)
    let point : Int := (Text.ofNat number).length + exponent
    let count := digits.length
    if -4 < point && point ≤ 16 then
      if point ≤ 0 then "0." ++ zeros (-point).toNat ++ digits
      else if count ≤ point.toNat then digits ++ zeros (point.toNat - count) ++ ".0"
      else digits.take point.toNat ++ "." ++ digits.drop point.toNat
    else
      let power := point - 1
      let size := Text.ofNat power.natAbs
      let mantissa := if count = 1 then digits else digits.take 1 ++ "." ++ digits.drop 1
      mantissa ++ (if power < 0 then "e-" else "e+") ++
        (if size.length < 2 then (CodePoint.ofChar '0') :: size else size)

end ExportList.Binary64
