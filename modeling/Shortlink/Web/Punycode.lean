import Shortlink.Number.Bounds

/-!
# Punycode

A label of a domain name with characters beyond ASCII is written in ASCII: its ASCII
characters come first, and after the last hyphen stand the others, as numbers that say
which character goes in and where. Only reading is needed here.
-/

namespace Shortlink.Web.Punycode

/-- The base of the numbers. -/
def base : Nat := 36

/-- Numbers do not go beyond 32 bits. -/
def maxNumber : Nat := Number.maxWord32

/-- The value of a digit, in either case. -/
def digit? (c : Char) : Option Nat :=
  let n := c.toNat
  if 97 ≤ n ∧ n ≤ 122 then some (n - 97)
  else if 65 ≤ n ∧ n ≤ 90 then some (n - 65)
  else if 48 ≤ n ∧ n ≤ 57 then some (n - 48 + 26)
  else none

/-- The digit below which a number ends at the place with weight index `k`. -/
def threshold (k bias : Nat) : Nat :=
  if k ≤ bias then 1 else if bias + 26 ≤ k then 26 else k - bias

/-- Divides a distance down to what the bias is computed from; `steps` bounds the
divisions. -/
def settle : Nat → Nat → Nat → Nat
  | 0, _, k => k
  | steps + 1, delta, k =>
    if 455 < delta then settle steps (delta / 35) (k + base)
    else k + base * delta / (delta + 38)

/-- The bias after a number `delta` that made the label `count` characters long. -/
def adapt (delta count : Nat) (isFirst : Bool) : Nat :=
  let delta := if isFirst then delta / 700 else delta / 2
  settle 16 (delta + delta / count) 0

/-- Reads one number, to be added to `value`: the digit at hand counts `weight`. -/
def readNumber (bias : Nat) : Nat → Nat → Nat → List Char → Option (Nat × List Char)
  | _, _, _, [] => none
  | k, weight, value, c :: rest =>
    match digit? c with
    | none => none
    | some digit =>
      let value := value + digit * weight
      let threshold := threshold k bias
      if maxNumber < value then none
      else if digit < threshold then some (value, rest)
      else if maxNumber < weight * (base - threshold) then none
      else readNumber bias (k + base) (weight * (base - threshold)) value rest

/-- The character with a code point, if there is one. -/
def charAt? (code : Nat) : Option Char :=
  if code.isValidChar then some (Char.ofNat code) else none

/-- Inserts the characters that the numbers in `digits` stand for into `label`: the next
one has a code point from `code` on, at the place `place` or behind it; `steps` bounds
their count. -/
def insertAll : Nat → Nat → Nat → Nat → List Char → List Char → Option (List Char)
  | _, _, _, _, label, [] => some label
  | 0, _, _, _, _, _ => none
  | steps + 1, code, bias, place, label, digits => do
    let (number, rest) ← readNumber bias base 1 place digits
    let count := label.length + 1
    let code := code + number / count
    let c ← charAt? code
    let found := number % count
    insertAll steps code (adapt (number - place) count (place == 0)) (found + 1)
      (label.take found ++ c :: label.drop found) rest

/-- What stands before the last hyphen and after it. A hyphen at the very front does not
count. -/
def splitBasic (text : List Char) : List Char × List Char :=
  let tail := (text.reverse.takeWhile (· != '-')).reverse
  if tail.length + 1 < text.length then (text.take (text.length - tail.length - 1), tail)
  else ([], text)

/-- Reads a label. Its ASCII letters come out in lower case. -/
def decode? (text : List Char) : Option (List Char) :=
  let (basic, digits) := splitBasic text
  insertAll digits.length 128 72 0 (basic.map Char.toLower) digits

end Shortlink.Web.Punycode
