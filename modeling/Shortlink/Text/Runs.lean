/-!
# Run lengths

Tables over the code points. A set is written as the lengths of its runs, one after another
from zero on, which alternate between outside and inside, starting outside. A table of
classes writes a length and a class for each run, and a table of characters that stand for
others writes a row for each of them or for a series of neighbours.
-/

namespace Shortlink.Text

/-- Reads decimal numbers separated by anything else; `value` is the number begun. -/
def readNumbers : Option Nat → List Char → List Nat
  | none, [] => []
  | some value, [] => [value]
  | none, c :: rest =>
    if c.isDigit then readNumbers (some (c.toNat - 48)) rest else readNumbers none rest
  | some value, c :: rest =>
    if c.isDigit then readNumbers (some (value * 10 + (c.toNat - 48))) rest
    else value :: readNumbers none rest

/-- The numbers written in a text. -/
def numbersOf (text : String) : List Nat := readNumbers none text.toList

/-- The sums of the leading entries of a list, from `start` on. -/
def runEnds : Nat → List Nat → List Nat
  | _, [] => []
  | start, length :: rest => (start + length) :: runEnds (start + length) rest

/-- The number of entries in `low ≤ i < high` that are at most `place`, given that all before
`low` are and none from `high` on is; `steps` bounds the halvings. -/
def countWithin (ends : Array Nat) (place : Nat) : Nat → Nat → Nat → Nat
  | 0, low, _ => low
  | steps + 1, low, high =>
    if low < high then
      let middle := (low + high) / 2
      match ends[middle]? with
      | some fin =>
        if fin ≤ place then countWithin ends place steps (middle + 1) high
        else countWithin ends place steps low middle
      | none => low
    else low

/-- The number of entries of an ascending array that are at most `place`. -/
def countUpTo (ends : Array Nat) (place : Nat) : Nat :=
  countWithin ends place (ends.size + 1) 0 ends.size

/-! ## Sets -/

/-- A set by runs: the places at which its runs end, in ascending order. -/
structure Runs where
  ends : Array Nat

/-- The set whose run lengths are written in `text`. -/
def Runs.ofText (text : String) : Runs := ⟨(runEnds 0 (numbersOf text)).toArray⟩

/-- Membership in a set written as runs. -/
def Runs.contains (runs : Runs) (c : Char) : Bool := countUpTo runs.ends c.toNat % 2 == 1

/-! ## Classes -/

/-- A table of classes: the places at which its runs end, and the class of each run. -/
structure Classes where
  ends : Array Nat
  classes : Array Nat

/-- The table whose run lengths and classes are written in `text`. -/
def Classes.ofText (text : String) : Classes :=
  let rec split : List Nat → List Nat × List Nat
    | length :: number :: rest =>
      let (lengths, numbers) := split rest
      (length :: lengths, number :: numbers)
    | _ => ([], [])
  let (lengths, numbers) := split (numbersOf text)
  ⟨(runEnds 0 lengths).toArray, numbers.toArray⟩

/-- The class at a place; zero beyond the last run. -/
def Classes.find (table : Classes) (place : Nat) : Nat :=
  table.classes.getD (countUpTo table.ends place) 0

/-! ## Characters that stand for others -/

/-- A table of rows by their places, in ascending order. -/
structure Places (α : Type) where
  places : Array Nat
  rows : Array α

/-- The table with the given rows. -/
def Places.ofRows {α : Type} (rows : List (Nat × α)) : Places α :=
  ⟨(rows.map (·.1)).toArray, (rows.map (·.2)).toArray⟩

/-- The last row at or before a place, and how far before it is. -/
def Places.before? {α : Type} (table : Places α) (place : Nat) : Option (Nat × α) :=
  match countUpTo table.places place with
  | 0 => none
  | count + 1 =>
    match table.places[count]?, table.rows[count]? with
    | some start, some row => some (place - start, row)
    | _, _ => none

/-- A table of characters that stand for any number of others. -/
abbrev Spellings := Places (List Char)

namespace Spellings

/-- The rows written as numbers, the first of them at a distance from `start`; `steps` bounds
their count. -/
def readRows : Nat → Nat → List Nat → List (Nat × List Char)
  | steps + 1, start, gap :: count :: rest =>
    (start + gap, (rest.take count).map Char.ofNat) ::
      readRows steps (start + gap) (rest.drop count)
  | _, _, _ => []

/-- The table written in `text`. -/
def ofText (text : String) : Spellings :=
  let numbers := numbersOf text
  .ofRows (readRows numbers.length 0 numbers)

/-- What a character stands for. -/
def find? (table : Spellings) (c : Char) : Option (List Char) :=
  match table.before? c.toNat with
  | some (0, row) => some row
  | _ => none

end Spellings

/-- A row of characters at equal distances that stand for characters at the same
distances. -/
structure SeriesRow where
  count : Nat
  step : Nat
  target : Nat

/-- A table of characters that stand for one other each. -/
abbrev Series := Places SeriesRow

namespace Series

/-- The rows written as numbers, the first of them at a distance from `start`. -/
def readRows : Nat → List Nat → List (Nat × SeriesRow)
  | start, gap :: count :: step :: target :: rest =>
    (start + gap, ⟨count, step, target⟩) :: readRows (start + gap + (count - 1) * step) rest
  | _, _ => []

/-- The table written in `text`. -/
def ofText (text : String) : Series := .ofRows (readRows 0 (numbersOf text))

/-- What a character stands for. -/
def find? (table : Series) (c : Char) : Option Char :=
  match table.before? c.toNat with
  | some (distance, row) =>
    if distance % row.step = 0 ∧ distance / row.step < row.count then
      some (Char.ofNat (row.target + distance))
    else none
  | none => none

end Series

end Shortlink.Text
