import Shortlink.Text.Search

/-!
# IPv4 addresses

Addresses of four bytes as the host of a URL may write them: up to four numbers, decimal,
octal or hexadecimal, of which the last fills all remaining bytes.
-/

namespace Shortlink.Web.Ipv4

/-- The value of a hexadecimal digit. -/
def digit? (c : Char) : Option Nat :=
  let n := c.toNat
  if 48 ≤ n ∧ n ≤ 57 then some (n - 48)
  else if 97 ≤ n ∧ n ≤ 102 then some (n - 87)
  else if 65 ≤ n ∧ n ≤ 70 then some (n - 55)
  else none

/-- The number that digits of a base stand for. -/
def readBase (base : Nat) (digits : List Char) : Option Nat :=
  digits.foldlM (fun value c =>
    (digit? c).bind fun digit => if digit < base then some (value * base + digit) else none) 0

/-- A number of an address: `0x` leads a hexadecimal one and `0` an octal one. -/
def number? : List Char → Option Nat
  | [] => none
  | '0' :: 'x' :: digits => readBase 16 digits
  | '0' :: 'X' :: digits => readBase 16 digits
  | '0' :: d :: digits => readBase 8 (d :: digits)
  | digits => readBase 10 digits

/-- A text that would have to be an address: its last piece between dots, not counting an
empty one at the end, is a number or consists of digits. -/
def endsInNumber (host : List Char) : Bool :=
  let pieces := Text.piecesAt '.' host
  let last? :=
    match pieces.reverse with
    | [] :: rest => rest.head?
    | pieces => pieces.head?
  match last? with
  | none => false
  | some last => (!last.isEmpty && last.all Char.isDigit) || (number? last).isSome

/-- The address of the numbers: all but the last are bytes. -/
def ofNumbers? : List Nat → Nat → Option Nat
  | [], _ => none
  | [last], room => if last < Nat.pow 256 room then some last else none
  | byte :: rest, room =>
    if byte < 256 then
      (ofNumbers? rest (room - 1)).map (byte * Nat.pow 256 (room - 1) + ·)
    else none

/-- Reads an address. -/
def parse? (host : List Char) : Option Nat := do
  let pieces := Text.piecesAt '.' host
  let pieces := if pieces.getLast? = some [] then pieces.dropLast else pieces
  if 4 < pieces.length then none
  else ofNumbers? (← pieces.mapM number?) 4

end Shortlink.Web.Ipv4
