/-!
# Cron expressions

The grammar of schedules: six or seven fields, each a list of points, ranges and steps, or
a word that stands for a common schedule. Blanks may stand around numbers and names and at
the ends of fields, and are not needed between fields.
-/

namespace Shortlink.Cron

/-- What a part of a field ranges over. -/
inductive Span where
  | all
  | point (value : Nat)
  | range (first last : Nat)
  | names (first last : List Char)
  deriving DecidableEq, Repr

/-- A part of a field. -/
inductive Entry where
  | span (span : Span)
  /-- Every so many values of a span; of a point, up to the end of the field. -/
  | stepped (span : Span) (step : Nat)
  | name (name : List Char)
  deriving DecidableEq, Repr

/-- The parts of a field. -/
abbrev Field := List Entry

/-- The words that stand for common schedules. -/
inductive Shorthand where
  | yearly
  | monthly
  | weekly
  | daily
  | hourly
  deriving DecidableEq, Repr

/-- A schedule as it is written. -/
inductive Expression where
  | shorthand (word : Shorthand)
  | fields (second minute hour day month weekday : Field) (year : Option Field)
  deriving DecidableEq, Repr

namespace Expression

/-! ## Words and numbers -/

/-- A reader of the front of a text. -/
abbrev Parser (α : Type) := List Char → Option (α × List Char)

/-- White space of an expression. -/
def isBlank (c : Char) : Bool := c == ' ' || c == '\t' || c == '\r' || c == '\n'

/-- Drops blanks. -/
def skipBlanks (text : List Char) : List Char := text.dropWhile isBlank

/-- A letter of ASCII. -/
def isLetter (c : Char) : Bool := ('a' ≤ c && c ≤ 'z') || ('A' ≤ c && c ≤ 'Z')

/-- A decimal digit. -/
def isDigit (c : Char) : Bool := '0' ≤ c && c ≤ '9'

/-- The value of decimal digits. -/
def digitsValue (digits : List Char) : Nat :=
  digits.foldl (fun value c => value * 10 + (c.toNat - '0'.toNat)) 0

/-- One or more characters of a class with blanks around them. -/
def run (inClass : Char → Bool) : Parser (List Char) := fun text =>
  let text := skipBlanks text
  match text.takeWhile inClass with
  | [] => none
  | found => some (found, skipBlanks (text.dropWhile inClass))

/-- A number. -/
def number : Parser Nat := fun text =>
  (run isDigit text).map fun (digits, rest) => (digitsValue digits, rest)

/-- A name. -/
def name : Parser (List Char) := run isLetter

/-- The given character. -/
def mark (c : Char) : Parser Unit := fun text =>
  match text with
  | d :: rest => if d = c then some ((), rest) else none
  | [] => none

/-- Two things with a character between them. -/
def pair {α : Type} (item : Parser α) (between : Char) : Parser (α × α) := fun text => do
  let (first, rest) ← item text
  let (_, rest) ← mark between rest
  let (last, rest) ← item rest
  pure ((first, last), rest)

/-! ## Fields -/

/-- What a part of a field ranges over. A question mark stands for all values where it is
allowed. -/
def span (questionMark : Bool) : Parser Span := fun text =>
  if questionMark ∧ text.head? = some '?' then some (.all, text.drop 1)
  else if text.head? = some '*' then some (.all, text.drop 1)
  else
    match pair number '-' text with
    | some ((first, last), rest) => some (.range first last, rest)
    | none =>
      match number text with
      | some (value, rest) => some (.point value, rest)
      | none => (pair name '-' text).map fun ((first, last), rest) => (.names first last, rest)

/-- A part of a field. -/
def entry (questionMark : Bool) : Parser Entry := fun text =>
  match span questionMark text with
  | none => (name text).map fun (found, rest) => (.name found, rest)
  | some (found, rest) =>
    match mark '/' rest >>= fun (_, rest) => number rest with
    | some (step, rest) => some (.stepped found step, rest)
    | none => some (.span found, rest)

/-- More parts of a field after a comma each; `steps` bounds their count. -/
def moreEntries (questionMark : Bool) : Nat → List Char → List Entry × List Char
  | 0, text => ([], text)
  | steps + 1, text =>
    match mark ',' text >>= fun (_, rest) => entry questionMark rest with
    | none => ([], text)
    | some (found, rest) =>
      let (more, rest) := moreEntries questionMark steps rest
      (found :: more, rest)

/-- A field. -/
def field (questionMark : Bool) : Parser Field := fun text => do
  let (first, rest) ← entry questionMark (skipBlanks text)
  let (more, rest) := moreEntries questionMark rest.length rest
  pure (first :: more, skipBlanks rest)

/-! ## Expressions -/

/-- The words that stand for common schedules. -/
def shorthands : List (String × Shorthand) :=
  [("@yearly", .yearly), ("@monthly", .monthly), ("@weekly", .weekly), ("@daily", .daily),
    ("@hourly", .hourly)]

/-- Reads an expression. -/
def parse? (text : List Char) : Option Expression := do
  let trimmed := (skipBlanks (skipBlanks text).reverse).reverse
  match shorthands.lookup (.ofList trimmed) with
  | some word => some (.shorthand word)
  | none =>
    let (second, rest) ← field false text
    let (minute, rest) ← field false rest
    let (hour, rest) ← field false rest
    let (day, rest) ← field true rest
    let (month, rest) ← field false rest
    let (weekday, rest) ← field true rest
    if rest.isEmpty then some (.fields second minute hour day month weekday none)
    else
      let (year, rest) ← field false rest
      if rest.isEmpty then some (.fields second minute hour day month weekday (some year))
      else none

end Expression

end Shortlink.Cron
