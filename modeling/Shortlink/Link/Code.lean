import Shortlink.Number.Bounds
import Shortlink.Script
import Shortlink.Uuid

/-!
# Short codes

A code is a fixed number of characters of an alphabet. It is made from a random 128-bit
number, of which it keeps the last digits in the alphabet's base. A code that there cannot be
room for is not made.
-/

namespace Shortlink

/-- Why a length and an alphabet make no codes. -/
inductive CodeSettingsError where
  | zeroLength
  | smallAlphabet
  | repeatedCharacter
  deriving DecidableEq, Repr

/-- The wording of a code settings error. -/
def CodeSettingsError.message : CodeSettingsError → String
  | .zeroLength => "code length must be greater than 0"
  | .smallAlphabet => "alphabet must contain at least 2 characters"
  | .repeatedCharacter => "alphabet must not contain duplicate characters"

/-- The length and the alphabet of codes. -/
structure CodeSettings where
  length : Nat
  alphabet : List Char
  length_pos : 0 < length
  alphabet_size : 2 ≤ alphabet.length
  alphabet_nodup : alphabet.Nodup
  deriving Repr

namespace CodeSettings

/-- The number of characters of a code where nothing else is asked for. -/
def defaultLength : Nat := 7

/-- The characters of codes where nothing else is asked for. -/
def defaultAlphabet : String :=
  "ABCDEFGHIJKLMNOPQRSTUVWXYZabcdefghijklmnopqrstuvwxyz0123456789"

/-- Checks a length and an alphabet, the length first. -/
def of (length : Nat) (alphabet : List Char) : Except CodeSettingsError CodeSettings :=
  if length_pos : 0 < length then
    if alphabet_size : 2 ≤ alphabet.length then
      if alphabet_nodup : alphabet.Nodup then
        .ok ⟨length, alphabet, length_pos, alphabet_size, alphabet_nodup⟩
      else .error .repeatedCharacter
    else .error .smallAlphabet
  else .error .zeroLength

/-- The settings where nothing else is asked for. -/
def standard : CodeSettings where
  length := defaultLength
  alphabet := defaultAlphabet.toList
  length_pos := by decide
  alphabet_size := by decide +kernel
  alphabet_nodup := by decide +kernel

/-- The alphabet as one text. -/
def alphabetText (settings : CodeSettings) : String := .ofList settings.alphabet

end CodeSettings

namespace Code

/-- The digits of a number in the base of the alphabet, the last one first; `steps` bounds
their count. -/
def digitsReversed (alphabet : List Char) : Nat → Nat → List Char
  | 0, _ => []
  | steps + 1, value =>
    if value = 0 then []
    else
      alphabet.getD (value % alphabet.length) ' ' ::
        digitsReversed alphabet steps (value / alphabet.length)

/-- The last `length` digits of a number in the base of the alphabet, with the alphabet's
first character for zero in front where there are fewer. -/
def numeral (value : BitVec 128) (alphabet : List Char) (length : Nat) : List Char :=
  let digits := (digitsReversed alphabet 128 value.toNat).take length
  (digits ++ List.replicate (length - digits.length) (alphabet.headD ' ')).reverse

/-- The greatest number of characters in a row. Each of them takes four bytes, whose number is a
signed one of 64 bits. -/
def maxRow : Nat := Number.maxSigned64 / 4

/-- For how many characters there is to be room when some digits are filled up to a length. Room
is made for the characters in front; if digits follow them it is made larger, and then it is
doubled at least. -/
def room (digits length : Nat) : Nat :=
  if digits = 0 then length else max length (2 * (length - digits))

/-- The code that is made from a number, unless there is no room for it. -/
def encode (value : BitVec 128) (alphabet : List Char) (length : Nat) :
    Except Abort (List Char) :=
  if room (digitsReversed alphabet 128 value.toNat).length length ≤ maxRow then
    .ok (numeral value alphabet length)
  else .error .capacityOverflow

/-- The code made from a random id. -/
def ofUuid (settings : CodeSettings) (id : Uuid) : Except Abort String :=
  (encode id.bits settings.alphabet settings.length).map .ofList

end Code

end Shortlink
