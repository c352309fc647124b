import Shortlink.Json
import Shortlink.Json.Scalar
import Shortlink.Number.Bounds
import Shortlink.Text.Blank
import Shortlink.Time.Moment

/-!
# Time stamps

The text of a moment. It is written in UTC with as many fraction digits as are needed, in
groups of three, and read in a relaxed form: parts may have fewer digits, blanks may stand
around them, and the offset from UTC may be any of less than a day.
-/

namespace Shortlink.Time

/-- Why a text is not a time stamp. -/
inductive StampError where
  | tooShort
  | invalid
  | outOfRange
  | tooLong
  | impossible
  deriving DecidableEq, Repr

/-- The wording of a time stamp error. -/
def StampError.message : StampError → String
  | .tooShort => "premature end of input"
  | .invalid => "input contains invalid characters"
  | .outOfRange => "input is out of range"
  | .tooLong => "trailing input"
  | .impossible => "no possible date and time matching input"

namespace Stamp

/-! ## Writing -/

/-- The last `count` decimal digits of a number. -/
def decimals : Nat → Nat → List Char
  | 0, _ => []
  | count + 1, n => decimals count (n / 10) ++ [Char.ofNat (48 + n % 10)]

/-- A year: four digits, or a sign and at least four. -/
def yearText (year : Int) : List Char :=
  if 0 ≤ year ∧ year ≤ 9999 then decimals 4 year.toNat
  else
    let digits := Nat.toDigits 10 year.natAbs
    (if year < 0 then '-' else '+') :: (List.replicate (4 - digits.length) '0' ++ digits)

/-- The fraction of a second: as few groups of three digits as lose nothing. -/
def fractionText (nanos : Nat) : List Char :=
  if nanos = 0 then []
  else if nanos % 1000000 = 0 then '.' :: decimals 3 (nanos / 1000000)
  else if nanos % 1000 = 0 then '.' :: decimals 6 (nanos / 1000)
  else '.' :: decimals 9 nanos

/-- A moment without its offset. -/
def civilText (moment : Moment) : List Char :=
  yearText moment.date.year ++ '-' :: decimals 2 moment.date.month ++
    '-' :: decimals 2 moment.date.day ++ 'T' :: decimals 2 moment.hour ++
    ':' :: decimals 2 moment.minute ++ ':' :: decimals 2 moment.second ++
    fractionText moment.nanos

/-- A moment with the offset `Z`. -/
def text (moment : Moment) : List Char := civilText moment ++ ['Z']

/-- A moment with the offset `Z`, as a string. -/
def toString (moment : Moment) : String := .ofList (text moment)

/-- A moment with the offset `+00:00`. -/
def numericText (moment : Moment) : String :=
  .ofList (civilText moment ++ ['+', '0', '0', ':', '0', '0'])

/-! ## Reading -/

/-- A reader of the front of a text. -/
abbrev Parser (α : Type) := StateT (List Char) (Except StampError) α

/-- Stops reading. -/
def fail {α : Type} (error : StampError) : Parser α := fun _ => .error error

/-- The value of a decimal digit. -/
def digit? (c : Char) : Option Nat :=
  if 48 ≤ c.toNat ∧ c.toNat ≤ 57 then some (c.toNat - 48) else none

/-- The greatest number that a run of digits may stand for. -/
def maxNumber : Nat := Number.maxSigned64

/-- The digits after the first `count` ones, of which there may be `more`; a number beyond
`maxNumber` is out of range. -/
def numberTail : Nat → Nat → List Char → Except StampError (Nat × List Char)
  | 0, value, rest => .ok (value, rest)
  | _, value, [] => .ok (value, [])
  | more + 1, value, c :: rest =>
    match digit? c with
    | none => .ok (value, c :: rest)
    | some digit =>
      if value * 10 + digit ≤ maxNumber then numberTail more (value * 10 + digit) rest
      else .error .outOfRange

/-- A number of one to `width` digits. -/
def number (width : Nat) : Parser Nat := fun text =>
  match text with
  | [] => .error .tooShort
  | c :: _ => if (digit? c).isSome then numberTail width 0 text else .error .invalid

/-- Skips blanks. -/
def blanks : Parser Unit := modify Text.trimLeading

/-- A number of at most two digits between two bounds, after blanks. -/
def twoDigits (low high : Nat) : Parser Nat := do
  blanks
  let value ← number 2
  if low ≤ value ∧ value ≤ high then pure value else fail .outOfRange

/-- A separator, after blanks. -/
def separator (mark : Char) : Parser Unit := do
  blanks
  match ← get with
  | [] => fail .tooShort
  | c :: rest => if c = mark then set rest else fail .invalid

/-- A year: up to four digits, or any number of them after a sign. -/
def year : Parser Int := do
  blanks
  let value ← match ← get with
    | '-' :: rest => do
      set rest
      let value ← number rest.length
      pure (-(value : Int))
    | '+' :: rest => do
      set rest
      let value ← number rest.length
      pure (value : Int)
    | _ => do
      let value ← number 4
      pure (value : Int)
  if -(Number.maxSigned32 : Int) - 1 ≤ value ∧ value ≤ Number.maxSigned32 then pure value
  else fail .outOfRange

/-- The fraction of a second in nanoseconds, if there is one. Digits after the ninth are
dropped. -/
def fraction : Parser Nat := do
  match ← get with
  | '.' :: rest => do
    set rest
    let value ← number 9
    let places := rest.length - (← get).length
    modify (·.dropWhile fun c => (digit? c).isSome)
    pure (value * Nat.pow 10 (9 - places))
  | _ => pure 0

/-- Two digits of an offset. -/
def offsetDigits : Parser (Char × Char) := do
  match ← get with
  | a :: b :: rest => do
    set rest
    pure (a, b)
  | [a] => if 2 ≤ a.utf8Size then fail .invalid else fail .tooShort
  | [] => fail .tooShort

/-- The offset from UTC in minutes. -/
def offset : Parser Int := do
  match ← get with
  | [] => fail .tooShort
  | sign :: rest =>
    if sign = 'Z' ∨ sign = 'z' then
      set rest
      pure 0
    else if sign = '+' ∨ sign = '-' ∨ sign = '\u2212' then
      set rest
      let hours ← match ← offsetDigits with
        | (a, b) =>
          match digit? a, digit? b with
          | some a, some b => pure (a * 10 + b)
          | _, _ => fail .invalid
      modify (·.dropWhile fun c => c == ':' || Text.isBlank c)
      let minutes ← match ← offsetDigits with
        | (a, b) =>
          match digit? a, digit? b with
          | some a, some b => if a < 6 then pure (a * 10 + b) else fail .outOfRange
          | _, _ => fail .invalid
      let total : Int := (hours * 60 + minutes : Nat)
      pure (if sign = '+' then total else -total)
    else fail .invalid

/-- The offset from UTC, or the word for UTC itself in either case. -/
def zone : Parser Int := do
  match ← get with
  | a :: b :: c :: rest =>
    if [a, b, c].map Char.toLower = ['u', 't', 'c'] then
      set rest
      pure 0
    else offset
  | _ => offset

/-- Reads a time stamp from the front of a text. -/
def stamp : Parser Moment := do
  let year ← year
  separator '-'
  let month ← twoDigits 1 12
  separator '-'
  let day ← twoDigits 1 31
  match ← get with
  | [] => fail .tooShort
  | c :: rest => if c = 'T' ∨ c = 't' ∨ c = ' ' then set rest else fail .invalid
  let hour ← twoDigits 0 23
  separator ':'
  let minute ← twoDigits 0 59
  separator ':'
  let second ← twoDigits 0 60
  let nanos ← fraction
  blanks
  let offset ← zone
  blanks
  if (← get).isEmpty then
    match Date.of? year month day with
    | none => fail .outOfRange
    | some date =>
      if offset ≤ -1440 ∨ 1440 ≤ offset then fail .outOfRange
      else
        match (Moment.of? date hour minute second nanos).bind (·.ofLocal? offset) with
        | some moment => pure moment
        | none => fail .impossible
  else fail .tooLong

/-- Reads a text that holds one time stamp. -/
def parse (text : List Char) : Except StampError Moment :=
  match stamp text with
  | .ok (moment, _) => .ok moment
  | .error error => .error error

/-- Time stamps as strings of a JSON text. -/
def form : Json.Reader.TextForm Moment where
  expected := "an RFC 3339 formatted date and time string"
  parse value := (parse value.toList).mapError fun error => .malformed error.message

end Stamp

/-- A moment as JSON. -/
def Moment.toJson (moment : Moment) : Json := .text (Stamp.toString moment)

end Shortlink.Time
