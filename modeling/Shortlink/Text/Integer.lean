/-!
# Integers as text

The reader of decimal integers with a range. It goes from left to right and reports the
first problem that it meets, so a number that leaves its range is reported before a stray
character further on.
-/

namespace Shortlink.Text

/-- Why a text is not an integer of the range asked for. -/
inductive IntegerError where
  | empty
  | invalidDigit
  | tooLarge
  | tooSmall
  deriving DecidableEq, Repr

/-- The wording of an integer error. -/
def IntegerError.message : IntegerError → String
  | .empty => "cannot parse integer from empty string"
  | .invalidDigit => "invalid digit found in string"
  | .tooLarge => "number too large to fit in target type"
  | .tooSmall => "number too small to fit in target type"

/-- The value of a decimal digit. -/
def digit? (c : Char) : Option Nat :=
  if '0' ≤ c ∧ c ≤ '9' then some (c.toNat - '0'.toNat) else none

/-- Reads the digits of a number of at most `bound` after `value`, or reports the
character or the digit at which reading stops. -/
def readDigits (bound : Nat) (outOfRange : IntegerError) :
    Nat → List Char → Except IntegerError Nat
  | value, [] => .ok value
  | value, c :: rest =>
    match digit? c with
    | none => .error .invalidDigit
    | some digit =>
      if value * 10 + digit ≤ bound then readDigits bound outOfRange (value * 10 + digit) rest
      else .error outOfRange

/-- Reads a number of at most `bound` without a minus sign; one plus sign is allowed. -/
def readNatural (bound : Nat) : List Char → Except IntegerError Nat
  | [] => .error .empty
  | ['+'] => .error .invalidDigit
  | '+' :: digits => readDigits bound .tooLarge 0 digits
  | digits => readDigits bound .tooLarge 0 digits

/-- Reads a number from `-(bound + 1)` to `bound`, with a sign or without. -/
def readSigned (bound : Nat) : List Char → Except IntegerError Int
  | ['-'] => .error .invalidDigit
  | '-' :: digits => (readDigits (bound + 1) .tooSmall 0 digits).map fun value => -(value : Int)
  | digits => (readNatural bound digits).map fun value => (value : Int)

end Shortlink.Text
