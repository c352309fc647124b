import Shortlink.Text.Runs

/-!
# Writing directions

The direction classes of the characters that a domain name may hold, and the rule for the
labels of a name that has characters written from right to left.
-/

namespace Shortlink.Web.Domain

open Text (Classes)

/-- A direction class. -/
inductive Direction where
  | left
  | right
  | arabicLetter
  | arabicNumber
  | europeanNumber
  | europeanSeparator
  | commonSeparator
  | europeanTerminator
  | otherNeutral
  | boundaryNeutral
  | nonspacingMark
  | forbidden
  deriving DecidableEq, Repr

/-- The direction classes by their number. -/
def Direction.ofNumber : Nat → Direction
  | 0 => .left
  | 1 => .right
  | 2 => .arabicLetter
  | 3 => .arabicNumber
  | 4 => .europeanNumber
  | 5 => .europeanSeparator
  | 6 => .commonSeparator
  | 7 => .europeanTerminator
  | 8 => .otherNeutral
  | 9 => .boundaryNeutral
  | 10 => .nonspacingMark
  | _ => .forbidden

/-- The numbers of the direction classes. -/
def directions : Classes := .ofText
  "9 9 5 11 14 9 5 11 2 8 3 7 5 8 1 5 1 6 1 5 2 6 10 4 1 6 38 8 26 0 4 8 34 9 1 8 4 7 10 8 6 7
    41 8 24 0 1 8 449 0 2 8 7 0 14 8 2 0 28 8 1 0 17 8 113 10 3 0 3 8 7 0 18 8 102 0 2 8 139 0
    8 10 255 0 5 8 2 7 45 10 1 1 1 10 1 1 2 10 1 1 2 10 1 1 9 10 54 1 2 8 1 2 2 7 1 2 1 6 1 2 2
    8 11 10 48 2 21 10 10 3 1 7 2 3 3 2 1 10 101 2 8 10 1 8 6 10 2 2 2 10 1 8 4 10 2 2 10 4 23
    2 1 10 30 2 29 10 89 2 11 10 15 2 43 1 9 10 2 1 4 8 3 1 1 10 24 1 4 10 1 1 9 10 1 1 3 10 1
    1 7 10 41 1 5 10 2 1 55 2 9 10 42 2 57 10 55 0 1 10 1 0 1 10 4 0 8 10 4 0 1 10 3 0 7 10 10
    0 2 10 29 0 1 10 58 0 1 10 4 0 6 10 6 0 1 10 20 0 4 10 12 0 2 7 7 0 1 7 2 0 5 10 57 0 2 10
    3 0 24 10 23 0 2 10 3 0 1 10 11 0 2 10 57 0 1 10 4 0 8 10 4 0 3 10 18 0 4 10 11 0 8 7 1 0 8
    10 58 0 1 10 2 0 1 10 1 0 6 10 6 0 10 10 11 0 4 10 28 0 1 10 61 0 1 10 12 0 3 10 35 0 6 8 1
    7 6 8 1 10 3 0 1 10 55 0 1 10 1 0 3 10 5 0 18 10 10 0 4 10 18 0 7 8 2 0 1 10 58 0 1 10 15 0
    9 10 13 0 4 10 26 0 2 10 57 0 2 10 4 0 5 10 7 0 1 10 20 0 4 10 27 0 1 10 72 0 5 10 3 0 6 10
    89 0 1 10 2 0 11 10 1 7 7 0 8 10 98 0 1 10 2 0 9 10 11 0 8 10 72 0 2 10 27 0 1 10 1 0 1 10
    1 0 1 10 4 8 51 0 14 10 1 0 5 10 1 0 2 10 5 0 49 10 8 0 1 10 102 0 4 10 1 0 6 10 1 0 2 10 2
    0 2 10 25 0 2 10 4 0 3 10 16 0 4 10 13 0 1 10 2 0 2 10 6 0 1 10 15 0 1 10 703 0 3 10 48 0
    16 8 96 0 1 8 666 0 5 8 114 0 3 10 29 0 2 10 30 0 14 10 18 0 14 10 55 0 7 10 8 0 1 10 2 0
    11 10 7 0 1 7 1 0 3 10 16 0 32 8 117 0 2 10 34 0 1 10 118 0 3 10 4 0 2 10 9 0 1 10 6 0 7 10
    6 8 152 0 34 8 23 0 2 10 2 0 3 10 56 0 1 10 1 0 9 10 1 0 1 10 2 0 8 10 6 0 13 10 48 0 84 10
    48 0 1 10 1 0 5 10 1 0 1 10 5 0 1 10 40 0 9 10 12 0 2 10 32 0 4 10 2 0 2 10 1 0 3 10 56 0 1
    10 1 0 2 10 3 0 1 10 1 0 3 10 58 0 8 10 2 0 5 10 149 0 3 10 1 0 13 10 1 0 7 10 4 0 1 10 6 0
    1 10 3 0 2 10 198 0 65 10 494 0 7 8 22 0 4 9 32 8 5 7 15 8 1 6 91 8 33 7 15 8 52 10 42 8 12
    7 20 8 60 0 136 8 1 5 1 7 290 8 69 0 26 8 1 0 790 8 1 0 339 8 256 0 816 8 181 0 7 8 3 0 4
    10 6 0 7 8 127 0 1 10 96 0 32 10 517 8 3 0 25 8 9 0 4 10 2 0 1 8 6 0 4 8 2 0 4 8 88 0 4 10
    3 0 1 8 90 0 1 8 196 0 48 8 7120 0 64 8 22160 0 64 8 317 0 3 8 95 0 4 10 1 8 10 10 3 8 29 0
    2 10 80 0 2 10 14 0 35 8 101 0 1 8 121 0 1 10 3 0 1 10 4 0 1 10 25 0 2 10 1 0 4 8 4 10 8 0
    8 7 52 0 12 8 68 0 10 10 18 0 18 10 13 0 1 10 38 0 8 10 25 0 11 10 46 0 3 10 48 0 1 10 2 0
    4 10 2 0 2 10 39 0 1 10 67 0 6 10 2 0 2 10 2 0 11 10 3 0 1 10 8 0 1 10 47 0 1 10 51 0 1 10
    1 0 3 10 2 0 2 10 5 0 2 10 1 0 1 10 42 0 2 10 8 0 11 10 105 0 86 8 37 0 1 10 2 0 1 10 4 0 3
    10 20269 0 1 1 1 10 147 1 17 2 605 8 37 10 46 8 397 2 257 0 1 8 62 0 77 8 3 0 64 8 45 0 131
    10 96 0 1 10 31 4 118 0 10 10 1152 0 287 1 1 8 225 1 15 10 40 1 8 10 165 1 6 10 78 1 7 8
    448 1 36 2 12 10 16 3 10 4 31 1 5 10 1 8 241 1 32 3 43 1 2 10 21 1 14 2 42 8 6 10 48 1 22 2
    11 10 31 2 18 1 4 10 122 1 1 0 1 10 54 0 15 10 11 0 20 8 10 0 1 10 2 0 2 10 10 0 3 10 49 0
    4 10 2 0 2 10 7 0 14 10 48 0 3 10 36 0 5 10 1 0 9 10 61 0 1 10 12 0 2 10 52 0 9 10 10 0 4
    10 2 0 1 10 95 0 3 10 2 0 1 10 1 0 2 10 6 0 1 10 2 0 63 10 95 0 1 10 3 0 13 10 16 0 2 10 57
    0 2 10 3 0 1 10 37 0 26 10 59 0 7 10 12 0 1 10 1 0 1 10 1 0 1 10 14 0 31 10 56 0 8 10 2 0 3
    10 1 0 1 10 23 0 1 10 84 0 6 10 1 0 1 10 4 0 2 10 1 0 2 10 238 0 6 10 4 0 2 10 1 0 2 10 27
    0 36 10 51 0 8 10 2 0 1 10 1 0 2 10 31 0 32 8 43 0 1 10 1 0 1 10 2 0 6 10 1 0 1 10 101 0 3
    10 2 0 4 10 1 0 9 10 255 0 9 10 1 0 2 10 256 0 2 10 1 0 1 10 4 0 1 10 144 0 8 10 4 0 1 10
    32 0 6 10 2 0 2 10 40 0 6 10 2 0 4 10 8 0 9 10 1 0 6 10 2 0 3 10 46 0 13 10 1 0 2 10 198 0
    1 10 1 0 3 10 1 0 1 10 201 0 14 10 84 0 23 10 1 0 7 10 1 0 2 10 1 0 75 10 49 0 21 10 1 0 9
    10 64 0 3 10 2 0 1 10 1 0 1 10 347 0 2 10 11 0 2 10 52 0 8 10 2 0 1 10 1 0 1 10 23 0 86 10
    37 0 8 8 4 7 30 8 5185 0 1 10 6 0 25 10 11454 0 12 10 3 0 3 10 2496 0 5 10 59 0 7 10 1048 0
    1 10 63 0 4 10 79 0 1 8 1 0 12 10 19629 0 2 10 3937 0 768 8 80 10 535 0 3 10 17 0 8 10 2 0
    7 10 30 0 4 10 59 0 89 8 3 10 123 8 64 0 96 8 1696 0 55 10 4 0 50 10 8 0 1 10 14 0 1 10 22
    0 1125 10 256 0 256 10 48 0 7 10 375 0 18 10 44 0 4 10 15 0 465 7 28 0 4 10 254 0 2 10 243
    0 1 10 2 0 1 10 7 0 2 10 5 0 9 10 258 0 208 1 82 10 34 1 7 10 806 1 639 2 608 8 29 0 3 8 61
    0 57 8 122 0 3488 8 983040 0"

/-- The direction class of a character. -/
def direction (c : Char) : Direction := .ofNumber (directions.find c.toNat)

/-- The class belongs to writing from right to left. -/
def Direction.isRightToLeft : Direction → Bool
  | .right | .arabicLetter | .arabicNumber => true
  | _ => false

/-- The class may stand in any label. -/
def Direction.isNeutral : Direction → Bool
  | .europeanNumber | .europeanSeparator | .commonSeparator | .europeanTerminator
  | .otherNeutral | .boundaryNeutral | .nonspacingMark => true
  | _ => false

/-- The last class of a label that is not that of a nonspacing mark. -/
def lastDirection? (classes : List Direction) : Option Direction :=
  (classes.reverse.dropWhile (· == .nonspacingMark)).head?

/-- The rule for a label that starts from right to left. -/
def leftwardLabel (classes : List Direction) : Bool :=
  classes.all (fun d => d.isRightToLeft || d.isNeutral) &&
    (match lastDirection? classes with
      | some d => d.isRightToLeft || d == .europeanNumber
      | none => false) &&
    !(classes.contains .europeanNumber && classes.contains .arabicNumber)

/-- The rule for a label that starts from left to right. -/
def rightwardLabel (classes : List Direction) : Bool :=
  classes.all (fun d => d == .left || d.isNeutral) &&
    (match lastDirection? classes with
      | some d => d == .left || d == .europeanNumber
      | none => false)

/-- A label keeps to the rule for names with characters written from right to left: its
first character settles the direction, and the others go along with it. -/
def keepsDirection (label : List Char) : Bool :=
  match label.map direction with
  | [] => true
  | .left :: rest => rightwardLabel (.left :: rest)
  | .right :: rest => leftwardLabel (.right :: rest)
  | .arabicLetter :: rest => leftwardLabel (.arabicLetter :: rest)
  | _ => false

/-- A label has a character that is written from right to left. -/
def runsLeftward (label : List Char) : Bool := label.any fun c => (direction c).isRightToLeft

end Shortlink.Web.Domain
