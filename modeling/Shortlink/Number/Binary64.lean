/-!
# Binary numbers of 64 bits

The finite values of the 64-bit binary format without their sign, as exact numbers
`mantissa * 2 ^ exponent`. Every operation rounds the exact result once, to the nearest
value and on a tie to the one with an even mantissa.
-/

namespace Shortlink.Number

/-- A value `mantissa * 2 ^ exponent`. -/
structure Binary64 where
  mantissa : Nat
  exponent : Int
  deriving DecidableEq, Repr

namespace Binary64

/-- The least exponent of the format. -/
def minExponent : Int := -1074

/-- The least mantissa with all its bits. -/
def minMantissa : Nat := 0x10000000000000

/-- The greatest exponent of a mantissa with all its bits. -/
def maxExponent : Int := 971

/-- Zero. -/
def zero : Binary64 := ⟨0, minExponent⟩

/-- The value as a quotient of natural numbers. -/
def ratio (x : Binary64) : Nat × Nat :=
  if 0 ≤ x.exponent then (x.mantissa <<< x.exponent.toNat, 1)
  else (x.mantissa, 1 <<< (-x.exponent).toNat)

/-- The quotient rounded to a natural number, a half to the even neighbour. -/
def nearest (num den : Nat) : Nat :=
  let floor := num / den
  let twice := 2 * (num % den)
  if twice < den then floor
  else if den < twice then floor + 1
  else floor + floor % 2

/-- The quotient `num / den` in units of `2 ^ exponent`, rounded. -/
def mantissaAt (num den : Nat) (exponent : Int) : Nat :=
  if 0 ≤ exponent then nearest num (den <<< exponent.toNat)
  else nearest (num <<< (-exponent).toNat) den

/-- The binary logarithm of `num / den`, rounded down. -/
def log2Ratio (num den : Nat) : Int :=
  let guess : Int := (num.log2 : Int) - den.log2
  let reaches : Bool :=
    if 0 ≤ guess then den <<< guess.toNat ≤ num else den ≤ num <<< (-guess).toNat
  if reaches then guess else guess - 1

/-- The value nearest to `num / den`; none if that is beyond the greatest finite one. -/
def ofRatio? (num den : Nat) : Option Binary64 :=
  if num = 0 ∨ den = 0 then some zero
  else
    let exponent := max minExponent (log2Ratio num den - 52)
    let mantissa := mantissaAt num den exponent
    let rounded : Binary64 :=
      if mantissa = 2 * minMantissa then ⟨minMantissa, exponent + 1⟩ else ⟨mantissa, exponent⟩
    if rounded.exponent ≤ maxExponent then some rounded else none

/-- The product, rounded. -/
def mul? (x y : Binary64) : Option Binary64 :=
  ofRatio? (x.ratio.1 * y.ratio.1) (x.ratio.2 * y.ratio.2)

/-- The quotient, rounded. -/
def div? (x y : Binary64) : Option Binary64 :=
  ofRatio? (x.ratio.1 * y.ratio.2) (x.ratio.2 * y.ratio.1)

/-- A power of ten, rounded. -/
def tenTo? (power : Nat) : Option Binary64 := ofRatio? (Nat.pow 10 power) 1

end Binary64

end Shortlink.Number
