import Shortlink.Json
import Shortlink.Json.Scalar

/-!
# Identifiers

Ids of 128 bits. They are written as 32 lower-case hexadecimal digits in five groups, and
read with or without the hyphens, in braces, or as a `urn:uuid:`.
-/

namespace Shortlink

/-- An id of 128 bits. -/
structure Uuid where
  bits : BitVec 128
  deriving DecidableEq, Repr

namespace Uuid

/-- The id as a number. -/
def toNat (id : Uuid) : Nat := id.bits.toNat

/-- The id of version 4 that agrees with `bits` outside the six bits that the version
fixes. -/
def ofRandom (bits : BitVec 128) : Uuid :=
  ⟨(bits &&& ~~~ 0x000000000000F000C000000000000000#128) |||
    0x00000000000040008000000000000000#128⟩

/-- The last `count` hexadecimal digits of a number. -/
def hexTail : Nat → Nat → List Char
  | 0, _ => []
  | count + 1, n => hexTail count (n / 16) ++ [Text.hexDigit (n % 16)]

/-- The text of an id: groups of 8, 4, 4, 4 and 12 digits. -/
def text (id : Uuid) : List Char :=
  let n := id.toNat
  hexTail 8 (n >>> 96) ++ '-' :: hexTail 4 (n >>> 80) ++ '-' :: hexTail 4 (n >>> 64) ++
    '-' :: hexTail 4 (n >>> 48) ++ '-' :: hexTail 12 n

/-- The text of an id, as a string. -/
def toString (id : Uuid) : String := .ofList id.text

/-- An id as JSON. -/
def toJson (id : Uuid) : Json := .text id.toString

/-- The number that hexadecimal digits of either case stand for. -/
def readHex (digits : List Char) : Option Nat :=
  digits.foldlM (fun value c => (Json.Reader.hexValue? c).map (value * 16 + ·)) 0

/-- The id with the given digits. -/
def ofDigits? (digits : List Char) : Option Uuid :=
  if digits.length = 32 then (readHex digits).map fun value => ⟨BitVec.ofNat 128 value⟩ else none

/-- The digits of the hyphenated form. -/
def groups? (text : List Char) : Option (List Char) :=
  if text.length = 36 ∧ text[8]? = some '-' ∧ text[13]? = some '-' ∧ text[18]? = some '-' ∧
      text[23]? = some '-' then
    some (text.take 8 ++ (text.drop 9).take 4 ++ (text.drop 14).take 4 ++
      (text.drop 19).take 4 ++ text.drop 24)
  else none

/-- The id in the hyphenated form. -/
def ofGroups? (text : List Char) : Option Uuid := (groups? text).bind ofDigits?

/-- Reads an id in any of its four forms. -/
def parse? (text : List Char) : Option Uuid :=
  match text with
  | '\x7b' :: rest => if rest.getLast? = some '\x7d' then ofGroups? rest.dropLast else none
  | _ =>
    if text.length = 32 then ofDigits? text
    else if (text.take 9).map Char.toLower = ['u', 'r', 'n', ':', 'u', 'u', 'i', 'd', ':'] then
      ofGroups? (text.drop 9)
    else ofGroups? text

/-- Ids as strings of a JSON text. -/
def form : Json.Reader.TextForm Uuid where
  expected := "a formatted UUID string"
  parse value :=
    match parse? value.toList with
    | some id => .ok id
    | none => .error (.malformed "UUID parsing failed")

end Uuid

end Shortlink
