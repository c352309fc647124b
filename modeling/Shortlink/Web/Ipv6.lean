import Shortlink.Web.Ipv4

/-!
# IPv6 addresses

Addresses of eight 16-bit pieces. One run of zero pieces may be left out between two
colons, and the last two pieces may be written as an address of four bytes.
-/

namespace Shortlink.Web.Ipv6

/-- Reads at most `count` hexadecimal digits after `value`. -/
def readPiece : Nat → Nat → List Char → Nat × List Char
  | 0, value, rest => (value, rest)
  | _, value, [] => (value, [])
  | count + 1, value, c :: rest =>
    match Ipv4.digit? c with
    | some digit => readPiece count (value * 16 + digit) rest
    | none => (value, c :: rest)

/-- A byte in decimal, without leading zeros. -/
def byte? (digits : List Char) : Option Nat := do
  if digits.isEmpty ∨ (1 < digits.length ∧ digits.head? = some '0') then none
  let value ← Ipv4.readBase 10 digits
  if value < 256 then some value else none

/-- The two pieces of an address of four bytes. -/
def fourBytes? (text : List Char) : Option (List Nat) := do
  match ← (Text.piecesAt '.' text).mapM byte? with
  | [a, b, c, d] => some [a * 256 + b, c * 256 + d]
  | _ => none

/-- The pieces of an address, and how many of them stand before the run that was left out.
`pieces` are those that have been read; `steps` bounds the rest. -/
def pieces? : Nat → List Nat → Option Nat → List Char → Option (List Nat × Option Nat)
  | _, pieces, gap, [] => some (pieces, gap)
  | 0, _, _, _ => none
  | steps + 1, pieces, gap, text =>
    if pieces.length = 8 then none
    else if text.head? = some ':' then
      if gap.isSome then none
      else pieces? steps (pieces ++ [0]) (some (pieces.length + 1)) (text.drop 1)
    else
      let (value, rest) := readPiece 4 0 text
      match rest with
      | [] => some (pieces ++ [value], gap)
      | '.' :: _ =>
        if rest.length = text.length ∨ 6 < pieces.length then none
        else (fourBytes? text).map fun last => (pieces ++ last, gap)
      | ':' :: more =>
        if more.isEmpty then none else pieces? steps (pieces ++ [value]) gap more
      | _ => none

/-- Fills the run of zero pieces that was left out. -/
def fill? : List Nat × Option Nat → Option (List Nat)
  | (pieces, some gap) =>
    some (pieces.take gap ++ List.replicate (8 - pieces.length) 0 ++ pieces.drop gap)
  | (pieces, none) => if pieces.length = 8 then some pieces else none

/-- Reads an address as its eight pieces. -/
def parse? (text : List Char) : Option (List Nat) :=
  match text with
  | [] | [_] => none
  | ':' :: ':' :: rest => (pieces? text.length [0] (some 1) rest).bind fill?
  | ':' :: _ => none
  | _ => (pieces? text.length [] none text).bind fill?

end Shortlink.Web.Ipv6
