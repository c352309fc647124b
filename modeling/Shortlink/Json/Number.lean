import Shortlink.Json.Reader
import Shortlink.Number.Bounds

/-!
# Numbers in JSON

A number is an integer while it has neither point nor exponent and fits in 64 bits, and a
binary number otherwise. The binary value is formed from at most 64 bits of leading
digits, scaled once by a power of ten.
-/

namespace Shortlink.Json

open Number (Binary64)

/-- A number that has been read. -/
inductive NumberToken where
  | integer (value : Int)
  | float (negative : Bool) (value : Binary64)

/-- What is found where a number stands. -/
def NumberToken.found : NumberToken → Found
  | .integer value => .integer value
  | .float negative value => .float negative value

namespace Reader

/-- The greatest unsigned integer. -/
def maxNatural : Nat := Number.maxWord64

/-- The value of a decimal digit. -/
def decimalDigit? (c : Char) : Option Nat :=
  if 48 ≤ c.toNat ∧ c.toNat ≤ 57 then some (c.toNat - 48) else none

/-- The next character is a decimal digit. -/
def digitNext (text : List Char) : Bool := (text.head?.bind decimalDigit?).isSome

/-- Divides by ten to the power 308 until the exponent is a power of the table; `steps`
bounds the divisions. -/
def scaleDown : Nat → Binary64 → Int → Option (Binary64 × Int)
  | 0, value, exponent => some (value, exponent)
  | steps + 1, value, exponent =>
    if -308 ≤ exponent ∨ value.mantissa = 0 then some (value, exponent)
    else do
      let divisor ← Binary64.tenTo? 308
      scaleDown steps (← value.div? divisor) (exponent + 308)

/-- `digits * 10 ^ exponent` as a binary number. -/
def scaled (digits : Nat) (exponent : Int) : Except ReadError Binary64 :=
  match Binary64.ofRatio? digits 1 with
  | none => .error .numberOutOfRange
  | some value =>
    if value.mantissa = 0 then .ok .zero
    else if 308 < exponent then .error .numberOutOfRange
    else if 0 ≤ exponent then
      match (Binary64.tenTo? exponent.toNat).bind value.mul? with
      | some product => .ok product
      | none => .error .numberOutOfRange
    else
      match scaleDown 8 value exponent with
      | none => .ok .zero
      | some (value, exponent) =>
        if value.mantissa = 0 ∨ exponent < -308 then .ok .zero
        else
          match (Binary64.tenTo? (-exponent).toNat).bind value.div? with
          | some quotient => .ok quotient
          | none => .error .numberOutOfRange

/-- Passes over decimal digits. -/
def skipDigits (text : List Char) : List Char := text.dropWhile fun c => (decimalDigit? c).isSome

/-- The digits of an exponent after `value`; none when it no longer fits in 32 bits. -/
def exponentDigits : Nat → List Char → Option Nat × List Char
  | value, [] => (some value, [])
  | value, c :: rest =>
    match decimalDigit? c with
    | none => (some value, c :: rest)
    | some digit =>
      if value * 10 + digit ≤ Number.maxSigned32 then exponentDigits (value * 10 + digit) rest
      else (none, rest)

/-- The exponent of a number, from its letter on. -/
def exponentPart (digits : Nat) (start : Int) : Reader Binary64 := do
  skip
  let negative := (← get).head? == some '-'
  if (← get).head? == some '+' || negative then skip
  match ← get with
  | [] => fail .eofInValue
  | c :: rest =>
    match decimalDigit? c with
    | none => fail .invalidNumber
    | some digit =>
      let (exponent, rest) := exponentDigits digit rest
      set rest
      match exponent with
      | some exponent =>
        let exponent : Int := if negative then start - exponent else start + exponent
        fun text => (scaled digits exponent).map fun value => (value, text)
      | none =>
        if digits ≠ 0 ∧ !negative then fail .numberOutOfRange
        else
          modify skipDigits
          pure .zero

/-- The binary number made of the digits read so far, with an exponent if one follows. -/
def withExponent (digits : Nat) (exponent : Int) : Reader Binary64 := do
  match (← get).head? with
  | some 'e' | some 'E' => exponentPart digits exponent
  | _ => fun text => (scaled digits exponent).map fun value => (value, text)

/-- The decimal places that still fit in 64 bits with the digits before them: the digits,
the number of places, and the text after all places. -/
def decimalPlaces : Nat → Nat → List Char → Nat × Nat × List Char
  | digits, places, [] => (digits, places, [])
  | digits, places, c :: rest =>
    match decimalDigit? c with
    | none => (digits, places, c :: rest)
    | some digit =>
      if digits * 10 + digit ≤ maxNatural then
        decimalPlaces (digits * 10 + digit) (places + 1) rest
      else (digits, places, skipDigits rest)

/-- The decimal places of a number, from its point on. -/
def fraction (digits : Nat) (exponent : Int) : Reader Binary64 := do
  skip
  let text ← get
  if digitNext text then
    let (digits, places, rest) := decimalPlaces digits 0 text
    set rest
    withExponent digits (exponent - places)
  else if text.isEmpty then fail .eofInValue
  else fail .invalidNumber

/-- The integer digits of a number after `value`. The third part counts the digits that no
longer fit in 64 bits. -/
def integerDigits : Nat → List Char → Nat × List Char × Nat
  | value, [] => (value, [], 0)
  | value, c :: rest =>
    match decimalDigit? c with
    | none => (value, c :: rest, 0)
    | some digit =>
      if value * 10 + digit ≤ maxNatural then integerDigits (value * 10 + digit) rest
      else
        let dropped := (c :: rest).takeWhile fun c => (decimalDigit? c).isSome
        (value, skipDigits rest, dropped.length)

/-- A number after its sign. -/
def number (negative : Bool) : Reader NumberToken := do
  match ← get with
  | [] => fail .eofInValue
  | c :: rest =>
    match decimalDigit? c with
    | none => fail .invalidNumber
    | some 0 =>
      set rest
      if digitNext rest then fail .invalidNumber else finish 0 0
    | some digit =>
      let (value, rest, dropped) := integerDigits digit rest
      set rest
      finish value dropped
where
  /-- Decides what the number is by what follows its integer digits. -/
  finish (value dropped : Nat) : Reader NumberToken := do
    match (← get).head? with
    | some '.' => .float negative <$> fraction value dropped
    | some 'e' | some 'E' => .float negative <$> exponentPart value dropped
    | _ =>
      if dropped ≠ 0 then .float negative <$> withExponent value dropped
      else if !negative then pure (.integer value)
      else if value = 0 then pure (.float true .zero)
      else if value ≤ Number.maxSigned64 + 1 then pure (.integer (-value))
      else fun text => (scaled value 0).map fun magnitude => (.float true magnitude, text)

/-- Passes over the exponent of a number, from its letter on. -/
def skipExponent : Reader Unit := do
  skip
  match (← get).head? with
  | some '+' | some '-' => skip
  | _ => pure ()
  if digitNext (← get) then modify skipDigits else fail .invalidNumber

/-- Passes over a number after its sign. Its size does not matter. -/
def skipNumber : Reader Unit := do
  match ← get with
  | [] => fail .invalidNumber
  | c :: rest =>
    match decimalDigit? c with
    | none => fail .invalidNumber
    | some 0 =>
      set rest
      if digitNext rest then fail .invalidNumber else finish
    | some _ =>
      set (skipDigits rest)
      finish
where
  /-- Passes over the fraction and the exponent. -/
  finish : Reader Unit := do
    match (← get).head? with
    | some '.' =>
      skip
      if digitNext (← get) then
        modify skipDigits
        match (← get).head? with
        | some 'e' | some 'E' => skipExponent
        | _ => pure ()
      else fail .invalidNumber
    | some 'e' | some 'E' => skipExponent
    | _ => pure ()

end Reader

end Shortlink.Json
