import Shortlink.Number.Bounds
import Shortlink.Text.Integer
import Shortlink.Web.Ipv4

/-!
# Socket addresses

The address at which a server listens: an IP address in its plain form and a port. Names of
hosts are no addresses.
-/

namespace Shortlink.Web

/-- The address at which a server listens. -/
inductive Socket where
  | ipv4 (octets : List Nat) (port : Nat)
  | ipv6 (groups : List Nat) (port : Nat)
  deriving DecidableEq, Repr

namespace Socket

/-- Reads something from the front of a text. -/
abbrev Scan := StateT (List Char) Option

/-- The value of a digit in a base. -/
def digit? (base : Nat) (c : Char) : Option Nat :=
  (Ipv4.digit? c).bind fun value => if value < base then some value else none

/-- Reads the digits of a number after `value`, and counts them. -/
def readDigits (base : Nat) : Nat → Nat → List Char → Nat × Nat × List Char
  | value, count, [] => (value, count, [])
  | value, count, c :: rest =>
    match digit? base c with
    | some digit => readDigits base (value * base + digit) (count + 1) rest
    | none => (value, count, c :: rest)

/-- Reads a number of at most so many digits and of at most a value. Unless `zeros` is set,
no zero may stand in front of other digits. -/
def readNumber (base : Nat) (maxDigits : Option Nat) (maxValue : Nat) (zeros : Bool) :
    Scan Nat := fun text =>
  let (value, count, rest) := readDigits base 0 0 text
  let isPadded := text.head? == some '0' && 1 < count
  if 1 ≤ count ∧ count ≤ maxDigits.getD count ∧ value ≤ maxValue ∧ (zeros ∨ !isPadded) then
    some (value, rest)
  else none

/-- Reads a character. -/
def readMark (mark : Char) : Scan Unit
  | c :: rest => if c = mark then some ((), rest) else none
  | [] => none

/-- Reads an octet of an IPv4 address. -/
def readOctet : Scan Nat := readNumber 10 (some 3) 255 false

/-- Reads an IPv4 address. -/
def readIpv4 : Scan (List Nat) := do
  let a ← readOctet
  readMark '.'
  let b ← readOctet
  readMark '.'
  let c ← readOctet
  readMark '.'
  let d ← readOctet
  pure [a, b, c, d]

/-- The greatest port. -/
def maxPort : Nat := 65535

/-- Reads a colon and a port. -/
def readPort : Scan Nat := do
  readMark ':'
  readNumber 10 none maxPort true

/-- The groups at the front of an IPv6 address. -/
structure Groups where
  values : List Nat
  /-- The last two groups are written as an IPv4 address. -/
  endsInIpv4 : Bool
  rest : List Char

/-- The two groups that an IPv4 address stands for. -/
def groupsOf : List Nat → List Nat
  | [a, b, c, d] => [a * 256 + b, c * 256 + d]
  | _ => []

/-- Reads at most so many groups of an IPv6 address. Between groups stands a colon. -/
def readGroups : Nat → Bool → List Char → Groups
  | 0, _, text => ⟨[], false, text⟩
  | left + 1, isFirst, text =>
    match if isFirst then some text else (readMark ':' text).map Prod.snd with
    | none => ⟨[], false, text⟩
    | some start =>
      match if left = 0 then none else readIpv4 start with
      | some (octets, rest) => ⟨groupsOf octets, true, rest⟩
      | none =>
        match readNumber 16 (some 4) 65535 true start with
        | none => ⟨[], false, text⟩
        | some (value, rest) =>
          let more := readGroups left false rest
          { more with values := value :: more.values }

/-- Reads an IPv6 address. Two colons stand for at least one group of zeros. -/
def readIpv6 : Scan (List Nat) := do
  let head := readGroups 8 true (← get)
  set head.rest
  if head.values.length = 8 then pure head.values
  else if head.endsInIpv4 then failure
  else
    readMark ':'
    readMark ':'
    let tail := readGroups (7 - head.values.length) true (← get)
    set tail.rest
    let zeros := List.replicate (8 - head.values.length - tail.values.length) 0
    pure (head.values ++ zeros ++ tail.values)

/-- Reads the number of a scope. -/
def readScope : Scan Nat := do
  readMark '%'
  readNumber 10 none Number.maxWord32 true

/-- Reads the address of a socket with an IPv4 address. -/
def readSocketIpv4 : Scan Socket := do
  let octets ← readIpv4
  let port ← readPort
  pure (.ipv4 octets port)

/-- Reads the address of a socket with an IPv6 address, which stands in brackets; its scope
does not matter. -/
def readSocketIpv6 : Scan Socket := do
  readMark '['
  let groups ← readIpv6
  let _ ← readScope <|> pure 0
  readMark ']'
  let port ← readPort
  pure (.ipv6 groups port)

/-- The address that is the whole text. -/
def whole? (scan : Scan Socket) (text : List Char) : Option Socket :=
  (scan text).bind fun (socket, rest) => if rest.isEmpty then some socket else none

/-- The address that a text is. -/
def parse? (text : List Char) : Option Socket :=
  match whole? readSocketIpv4 text with
  | some socket => some socket
  | none => whole? readSocketIpv6 text

/-- What is said about a text that is no address. -/
def unreadable : String := "invalid socket address syntax"

end Socket

end Shortlink.Web
