import Shortlink.Number.Binary64

/-!
# Shortest decimal text

A binary number is written with the fewest decimal digits that read back as it; of two
such digit strings the nearer one is taken. Positional notation is used from `0.00001`
up to sixteen digits before the point, and always shows at least one digit after it.
-/

namespace Shortlink.Number

namespace Binary64

/-- The number of positions from the first nonzero decimal place of `num / den`, which is
below one, to the point; `steps` bounds the search. -/
def leadingPlaces (num den : Nat) : Nat → Nat
  | 0 => 0
  | steps + 1 => if den ≤ num * 10 then 1 else leadingPlaces (num * 10) den steps + 1

/-- The decimal exponent of a nonzero value: that of its first digit. -/
def decimalExponent (x : Binary64) : Int :=
  let (num, den) := x.ratio
  if den ≤ num then ((Nat.toDigits 10 (num / den)).length : Int) - 1
  else -(leadingPlaces num den 400 : Int)

/-- `count * 10 ^ power` compared in quarters of the last place of `x`: the first number
stands for the candidate, the second for one quarter. -/
def inQuarters (x : Binary64) (count : Nat) (power : Int) : Nat × Nat :=
  let (num, den) := ratio ⟨1, x.exponent - 2⟩
  if 0 ≤ power then (count * Nat.pow 10 power.toNat * den, num)
  else (count * den, num * Nat.pow 10 (-power).toNat)

/-- The decimal number `count * 10 ^ power` reads back as `x`. -/
def readsBack (x : Binary64) (count : Nat) (power : Int) : Bool :=
  let (candidate, quarter) := x.inQuarters count power
  let low := (4 * x.mantissa -
    if x.mantissa = minMantissa ∧ minExponent < x.exponent then 1 else 2) * quarter
  let high := (4 * x.mantissa + 2) * quarter
  if x.mantissa % 2 = 0 then low ≤ candidate && candidate ≤ high
  else low < candidate && candidate < high

/-- The distance of `count * 10 ^ power` from `x`, in a unit common to all `count`. -/
def distance (x : Binary64) (count : Nat) (power : Int) : Nat :=
  let (candidate, quarter) := x.inQuarters count power
  let exact := 4 * x.mantissa * quarter
  (candidate - exact) + (exact - candidate)

/-- The digits of `x` cut to the grid `10 ^ power`, as a natural number. -/
def floorAt (x : Binary64) (power : Int) : Nat :=
  let (num, den) := x.ratio
  if 0 ≤ power then num / (den * Nat.pow 10 power.toNat)
  else num * Nat.pow 10 (-power).toNat / den

/-- The nearer neighbour of `x` on the grid of `digits` digits that reads back, with the
power of ten of its last digit; otherwise the same on the next finer grid. -/
def shortestFrom (x : Binary64) (leading : Int) : Nat → Nat → Nat × Int
  | digits, 0 => (x.floorAt (leading - digits + 1), leading - digits + 1)
  | digits, steps + 1 =>
    let power := leading - digits + 1
    let below := x.floorAt power
    let hitBelow := x.readsBack below power
    let hitAbove := x.readsBack (below + 1) power
    if hitBelow && (!hitAbove || x.distance below power ≤ x.distance (below + 1) power) then
      (below, power)
    else if hitAbove then (below + 1, power)
    else shortestFrom x leading (digits + 1) steps

/-- Drops the trailing zeros of a number of at most `steps` digits, counting them. -/
def dropZeros : Nat → Nat → Int → Nat × Int
  | 0, count, power => (count, power)
  | steps + 1, count, power =>
    if count % 10 = 0 ∧ count ≠ 0 then dropZeros steps (count / 10) (power + 1)
    else (count, power)

/-- The shortest digits of a nonzero value and the power of ten of the last one. -/
def shortest (x : Binary64) : List Char × Int :=
  let (count, power) := shortestFrom x x.decimalExponent 1 17
  let (count, power) := dropZeros 20 count power
  (Nat.toDigits 10 count, power)

/-- The text of a value with the given sign. -/
def text (negative : Bool) (x : Binary64) : String :=
  let sign := if negative then ['-'] else []
  .ofList <| sign ++
    if x.mantissa = 0 then ['0', '.', '0']
    else
      let (digits, power) := x.shortest
      let point : Int := power + digits.length
      if 0 ≤ power ∧ point ≤ 16 then
        digits ++ List.replicate power.toNat '0' ++ ['.', '0']
      else if 0 < point ∧ point ≤ 16 then
        digits.take point.toNat ++ '.' :: digits.drop point.toNat
      else if -5 < point ∧ point ≤ 0 then
        ['0', '.'] ++ List.replicate (-point).toNat '0' ++ digits
      else
        let exponent := 'e' :: (toString (point - 1)).toList
        match digits with
        | first :: second :: rest => first :: '.' :: second :: rest ++ exponent
        | digits => digits ++ exponent

end Binary64

end Shortlink.Number
