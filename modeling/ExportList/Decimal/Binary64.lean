/-!
Double-precision numbers by their bits.  `nearestBits` rounds a quotient of naturals to the nearest
double, with ties to the even one, in exact arithmetic; only numbers from zero up are needed.
-/

set_option autoImplicit false

namespace ExportList.Binary64

def infinityBits : Nat := 0x7FF0000000000000

/-- The quotient `num / (den * 2 ^ e)` as a fraction of naturals. -/
def scaled (num den : Nat) (e : Int) : Nat × Nat :=
  if 0 ≤ e then (num, den * Nat.pow 2 e.toNat) else (num * Nat.pow 2 (-e).toNat, den)

def roundHalfEven (num den : Nat) : Nat :=
  let q := num / den
  let r := num % den
  if 2 * r > den || (2 * r = den && q % 2 = 1) then q + 1 else q

/-- The exponent of the last place of the double nearest to a fraction. -/
def lastPlace (num den : Nat) : Int :=
  -- In units of this place the quotient has 53 binary digits, or one fewer.
  let guess : Int := (Nat.log2 num : Int) - Nat.log2 den - 52
  let (n, d) := scaled num den guess
  max (if n / d < Nat.pow 2 52 then guess - 1 else guess) (-1074)

/-- The bits of the double nearest to the fraction `num / den`. -/
def nearestBits (num den : Nat) : Nat :=
  if num = 0 then 0
  else
    let e := lastPlace num den
    let (n, d) := scaled num den e
    -- The leading bit of the mantissa carries into the exponent, and so does rounding up.
    min ((e + 1074).toNat * Nat.pow 2 52 + roundHalfEven n d) infinityBits

/-- The bits of the double nearest to `digits * 10 ^ exponent`, where `digits` has `count`
digits. -/
def ofDecimal (digits count : Nat) (exponent : Int) : Nat :=
  if digits = 0 then 0
  -- Powers of ten that no double comes near are not worked out.
  else if exponent + count > 400 then infinityBits
  else if exponent + count < -400 then 0
  else if 0 ≤ exponent then nearestBits (digits * Nat.pow 10 exponent.toNat) 1
  else nearestBits digits (Nat.pow 10 (-exponent).toNat)

def decompose (bits : Nat) : Nat × Int :=
  let biased : Nat := bits / Nat.pow 2 52
  let fraction : Nat := bits % Nat.pow 2 52
  if biased = 0 then (fraction, -1074) else (fraction + Nat.pow 2 52, (biased : Int) - 1075)

def fraction (bits : Nat) : Nat × Nat :=
  let (mantissa, exponent) := decompose bits
  if 0 ≤ exponent then (mantissa * Nat.pow 2 exponent.toNat, 1)
  else (mantissa, Nat.pow 2 (-exponent).toNat)

def toNat? (bits : Nat) : Option Nat :=
  if infinityBits ≤ bits then none
  else
    let (num, den) := fraction bits
    if num % den = 0 then some (num / den) else none

end ExportList.Binary64
