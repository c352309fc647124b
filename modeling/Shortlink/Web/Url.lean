import Shortlink.Text.Blank
import Shortlink.Text.Search
import Shortlink.Text.Utf8
import Shortlink.Web.Domain
import Shortlink.Web.Ipv6

/-!
# URLs

The reader of absolute URLs, with the rules by which browsers read them: controls and
blanks at the ends and tabs and line breaks anywhere are dropped, the schemes of the web
take any number of slashes or backslashes, and their hosts are addresses or
internationalised domain names.
-/

namespace Shortlink.Web

/-- Why a text is not a URL. -/
inductive UrlError where
  | relative
  | emptyHost
  | invalidPort
  | invalidIpv4
  | invalidIpv6
  | invalidDomain
  | invalidHostCharacter
  deriving DecidableEq, Repr

/-- The wording of a URL error. -/
def UrlError.message : UrlError → String
  | .relative => "relative URL without a base"
  | .emptyHost => "empty host"
  | .invalidPort => "invalid port number"
  | .invalidIpv4 => "invalid IPv4 address"
  | .invalidIpv6 => "invalid IPv6 address"
  | .invalidDomain => "invalid international domain name"
  | .invalidHostCharacter => "invalid domain character"

/-- The host of a URL. -/
inductive Host where
  | domain (name : List Char)
  | ipv4 (address : Nat)
  | ipv6 (pieces : List Nat)
  /-- The host of a URL whose scheme is not one of the web's. -/
  | plain (text : List Char)
  deriving DecidableEq, Repr

/-- How the schemes differ. -/
inductive SchemeKind where
  | web
  | file
  | other
  deriving DecidableEq, Repr

/-- The kind of a scheme, which is in lower case. -/
def SchemeKind.of (scheme : List Char) : SchemeKind :=
  let scheme := String.ofList scheme
  if ["http", "https", "ws", "wss", "ftp"].contains scheme then .web
  else if scheme = "file" then .file
  else .other

/-- A URL in its parts. Scheme and host are in their one form; the other parts are as they
stand in the text. -/
structure Url where
  scheme : List Char
  /-- What stands before the last at sign. -/
  credentials : Option (List Char)
  host : Option Host
  port : Option Nat
  path : List Char
  query : Option (List Char)
  fragment : Option (List Char)
  deriving DecidableEq, Repr

namespace Host

/-- The byte that a percent sign and two hexadecimal digits say. -/
def escapedByte? (mark a b : UInt8) : Option UInt8 :=
  if mark = 37 then
    match Ipv4.digit? (Char.ofNat a.toNat), Ipv4.digit? (Char.ofNat b.toNat) with
    | some high, some low => some (UInt8.ofNat (high * 16 + low))
    | _, _ => none
  else none

/-- Replaces each percent sign with two hexadecimal digits by the byte that they say. -/
def percentDecode : List UInt8 → List UInt8
  | byte :: a :: b :: more =>
    match escapedByte? byte a b with
    | some value => value :: percentDecode more
    | none => byte :: percentDecode (a :: b :: more)
  | short => short

/-- The characters of a byte sequence; the replacement character stands for bytes that are
part of none. -/
def decodeText (bytes : List UInt8) : List Char :=
  (Text.utf8Pieces bytes).map fun
    | .char c => c
    | .stray _ => '\ufffd'

/-- An address in brackets. -/
def bracketed (text : List Char) : Except UrlError Host :=
  if text.getLast? = some ']' then
    match Ipv6.parse? (text.drop 1).dropLast with
    | some pieces => .ok (.ipv6 pieces)
    | none => .error .invalidIpv6
  else .error .invalidIpv6

/-- The host of a URL of the web. -/
def parse (text : List Char) : Except UrlError Host :=
  if text.head? = some '[' then bracketed text
  else
    match Domain.readable? (decodeText (percentDecode (Text.encodeUtf8 text))) with
    | none => .error .invalidDomain
    | some [] => .error .emptyHost
    | some name =>
      if Ipv4.endsInNumber name then
        match Ipv4.parse? name with
        | some address => .ok (.ipv4 address)
        | none => .error .invalidIpv4
      else .ok (.domain name)

/-- Characters that no host holds, whatever the scheme. -/
def isForbidden (c : Char) : Bool :=
  ['\x00', '\t', '\n', '\r', ' ', '#', '/', ':', '<', '>', '?', '@', '[', '\\', ']', '^',
    '|'].contains c

/-- The host of a URL whose scheme is not one of the web's. -/
def parsePlain (text : List Char) : Except UrlError Host :=
  if text.head? = some '[' then bracketed text
  else if text.any isForbidden then .error .invalidHostCharacter
  else .ok (.plain text)

end Host

namespace Url

/-! ## Parts -/

/-- Controls and blanks, which do not count at the ends of a URL. -/
def isEdge (c : Char) : Bool := c.toNat ≤ 0x20

/-- Tabs and line breaks, which do not count anywhere. -/
def isSkipped (c : Char) : Bool := c == '\t' || c == '\n' || c == '\r'

/-- The text of a URL without what does not count. -/
def clean (text : List Char) : List Char :=
  (Text.dropTrailing isEdge (Text.dropLeading isEdge text)).filter fun c => !isSkipped c

/-- A letter of ASCII. -/
def isLetter (c : Char) : Bool := ('a' ≤ c && c ≤ 'z') || ('A' ≤ c && c ≤ 'Z')

/-- A character of a scheme. -/
def isSchemeChar (c : Char) : Bool :=
  isLetter c || ('0' ≤ c && c ≤ '9') || c == '+' || c == '-' || c == '.'

/-- The scheme in lower case, and what stands after its colon. -/
def scheme? (text : List Char) : Option (List Char × List Char) :=
  match text.takeWhile isSchemeChar, text.dropWhile isSchemeChar with
  | first :: more, ':' :: rest =>
    if isLetter first then some ((first :: more).map Char.toLower, rest) else none
  | _, _ => none

/-- A slash or a backslash. -/
def isSlash (c : Char) : Bool := c == '/' || c == '\\'

/-- The character ends the part of a URL that names the host. -/
def endsAuthority (kind : SchemeKind) (c : Char) : Bool :=
  c == '/' || c == '?' || c == '#' || (kind != .other && c == '\\')

/-- The host and what follows it up to the end of its part: the first colon outside
brackets ends the host. -/
def splitHost : Bool → List Char → List Char × List Char
  | _, [] => ([], [])
  | inside, c :: rest =>
    if c = ':' ∧ ¬ inside then ([], c :: rest)
    else
      let inside := if c = '[' then true else if c = ']' then false else inside
      let (host, tail) := splitHost inside rest
      (c :: host, tail)

/-- The greatest port. -/
def maxPort : Nat := 65535

/-- Reads a port after the digits of `value`; a slash or a backslash ends it. -/
def readPort : Option Nat → List Char → Except UrlError (Option Nat × List Char)
  | value, [] => .ok (value, [])
  | value, c :: rest =>
    if '0' ≤ c ∧ c ≤ '9' then
      let next := value.getD 0 * 10 + (c.toNat - '0'.toNat)
      if next ≤ maxPort then readPort (some next) rest else .error .invalidPort
    else if isSlash c then .ok (value, c :: rest)
    else .error .invalidPort

/-- A URL with the given front whose path, query and fragment stand in `rest`. -/
def withRest (scheme : List Char) (credentials : Option (List Char)) (host : Option Host)
    (port : Option Nat) (rest : List Char) : Url :=
  let (front, fragment) :=
    match Text.splitAtFirst? '#' rest with
    | some (front, fragment) => (front, some fragment)
    | none => (rest, none)
  let (path, query) :=
    match Text.splitAtFirst? '?' front with
    | some (path, query) => (path, some query)
    | none => (front, none)
  ⟨scheme, credentials, host, port, path, query, fragment⟩

/-! ## Reading -/

/-- Reads what follows the slashes of a URL that names a host. -/
def afterSlashes (scheme : List Char) (kind : SchemeKind) (text : List Char) :
    Except UrlError Url := do
  let authority := text.takeWhile fun c => !endsAuthority kind c
  let rest := text.dropWhile fun c => !endsAuthority kind c
  let (credentials, place) :=
    match Text.splitAtLast? '@' authority with
    | some (credentials, place) => (some credentials, place)
    | none => (none, authority)
  if credentials = some [] ∧ place = [] ∧ rest ≠ [] then throw .emptyHost
  let (hostText, tail) := splitHost false place
  let host ←
    if kind = .web then
      if hostText.isEmpty then throw .emptyHost else Host.parse hostText
    else Host.parsePlain hostText
  if hostText.isEmpty ∧ tail ≠ [] then throw .emptyHost
  let (port, tail) ←
    match tail with
    | ':' :: digits => readPort none digits
    | _ => pure (none, tail)
  let isNamed := credentials.any fun text => text ≠ [] ∧ text ≠ [':']
  if hostText.isEmpty ∧ isNamed then throw .emptyHost
  pure (withRest scheme credentials (if hostText.isEmpty then none else some host) port
    (tail ++ rest))

/-- The letter of a drive stands in the place of a host. -/
def isDrive : List Char → Bool
  | [letter, mark] => isLetter letter && (mark == ':' || mark == '|')
  | _ => false

/-- Reads what follows the scheme of a file URL. -/
def afterFileScheme (scheme : List Char) (text : List Char) : Except UrlError Url := do
  match text with
  | a :: b :: more =>
    if isSlash a ∧ isSlash b then
      let hostText := more.takeWhile fun c => !endsAuthority .file c
      let rest := more.dropWhile fun c => !endsAuthority .file c
      if isDrive hostText then pure (withRest scheme none none none more)
      else if hostText.isEmpty then pure (withRest scheme none none none rest)
      else
        let host ← Host.parse hostText
        let isLocal := host = .domain ['l', 'o', 'c', 'a', 'l', 'h', 'o', 's', 't']
        pure (withRest scheme none (if isLocal then none else some host) none rest)
    else pure (withRest scheme none none none text)
  | _ => pure (withRest scheme none none none text)

/-- Reads an absolute URL. -/
def parse (text : List Char) : Except UrlError Url :=
  match scheme? (clean text) with
  | none => .error .relative
  | some (scheme, rest) =>
    match SchemeKind.of scheme with
    | .web => afterSlashes scheme .web (rest.dropWhile isSlash)
    | .file => afterFileScheme scheme rest
    | .other =>
      match rest with
      | '/' :: '/' :: more => afterSlashes scheme .other more
      | _ => .ok (withRest scheme none none none rest)

end Url

end Shortlink.Web
