import Shortlink.Text.Runs

/-!
# Joiners

The invisible joiner and non-joiner are allowed in a label only where they make a
difference: after a mark that suppresses a vowel, or, for the non-joiner, between letters
that would join.
-/

namespace Shortlink.Web.Domain

open Text (Runs Classes)

/-- How a character joins its neighbours. -/
inductive Joining where
  | none
  | transparent
  | left
  | right
  | both
  deriving DecidableEq, Repr

/-- The ways of joining by their number. -/
def Joining.ofNumber : Nat → Joining
  | 1 => .transparent
  | 2 => .left
  | 3 => .right
  | 4 => .both
  | _ => .none

/-- The numbers of the ways of joining. -/
def joinings : Classes := .ofText
  "768 0 113 1 274 0 8 1 262 0 45 1 1 0 1 1 1 0 2 1 1 0 2 1 1 0 9 1 64 0 11 1 5 0 1 4 1 0 4 3
    1 4 1 3 1 4 1 3 5 4 4 3 13 4 1 0 7 4 1 3 2 4 21 1 14 0 2 4 1 1 3 3 5 0 15 4 18 3 38 4 1 3 2
    4 9 3 1 4 1 3 1 4 1 3 2 4 2 3 1 0 1 3 8 1 1 0 6 1 2 0 2 1 1 0 4 1 2 3 10 0 3 4 2 0 1 4 16 0
    1 3 1 1 3 4 5 3 4 4 1 3 9 4 1 3 1 4 1 3 1 4 1 3 2 4 1 3 29 1 1 3 11 4 3 3 15 4 2 3 4 4 1 3
    1 4 2 3 3 4 2 3 6 4 38 0 11 1 25 0 33 4 9 1 9 0 1 1 24 0 4 1 1 0 9 1 1 0 3 1 1 0 7 1 16 0 1
    3 5 4 2 3 1 4 1 3 10 4 1 3 1 4 3 3 5 1 2 0 1 4 1 0 4 4 1 0 1 3 1 4 26 3 3 0 1 4 2 0 5 4 1 3
    8 4 9 1 10 4 3 3 1 0 1 3 2 4 2 3 6 4 1 3 15 4 1 0 57 1 55 0 1 1 1 0 1 1 4 0 8 1 4 0 1 1 3 0
    7 1 10 0 2 1 29 0 1 1 58 0 1 1 4 0 6 1 6 0 1 1 20 0 4 1 24 0 5 1 57 0 2 1 3 0 24 1 23 0 2 1
    3 0 1 1 11 0 2 1 57 0 1 1 4 0 8 1 4 0 3 1 18 0 4 1 20 0 8 1 58 0 1 1 2 0 1 1 1 0 6 1 6 0 10
    1 11 0 4 1 28 0 1 1 61 0 1 1 12 0 3 1 48 0 1 1 3 0 1 1 55 0 1 1 1 0 3 1 5 0 18 1 10 0 4 1
    27 0 1 1 58 0 1 1 2 0 1 1 6 0 1 1 5 0 9 1 13 0 4 1 26 0 2 1 57 0 2 1 4 0 5 1 7 0 1 1 20 0 4
    1 27 0 1 1 72 0 5 1 3 0 6 1 89 0 1 1 2 0 11 1 8 0 8 1 98 0 1 1 2 0 9 1 11 0 8 1 72 0 2 1 27
    0 1 1 1 0 1 1 1 0 1 1 55 0 14 1 1 0 5 1 1 0 2 1 5 0 49 1 8 0 1 1 102 0 4 1 1 0 6 1 1 0 2 1
    2 0 2 1 25 0 2 1 4 0 3 1 16 0 4 1 13 0 1 1 2 0 2 1 6 0 1 1 15 0 1 1 703 0 3 1 946 0 3 1 29
    0 2 1 30 0 14 1 18 0 14 1 55 0 7 1 8 0 1 1 2 0 11 1 9 0 3 1 39 0 1 4 24 0 96 4 5 0 2 1 34 4
    1 1 6 4 112 0 3 1 4 0 2 1 9 0 1 1 6 0 7 1 215 0 2 1 2 0 3 1 56 0 1 1 1 0 9 1 1 0 1 1 2 0 8
    1 6 0 13 1 48 0 84 1 48 0 1 1 1 0 5 1 1 0 1 1 5 0 1 1 40 0 9 1 12 0 2 1 32 0 4 1 2 0 2 1 1
    0 3 1 56 0 1 1 1 0 2 1 3 0 1 1 1 0 3 1 58 0 8 1 2 0 5 1 149 0 3 1 1 0 13 1 1 0 7 1 4 0 1 1
    6 0 1 1 3 0 2 1 198 0 65 1 719 0 52 1 3051 0 4 1 140 0 1 1 96 0 32 1 554 0 4 1 107 0 4 1
    30162 0 4 1 1 0 10 1 32 0 2 1 80 0 2 1 272 0 1 1 3 0 1 1 4 0 1 1 25 0 2 1 5 0 4 1 16 0 50 4
    1 2 81 0 10 1 18 0 18 1 13 0 1 1 38 0 8 1 25 0 11 1 46 0 3 1 48 0 1 1 2 0 4 1 2 0 2 1 39 0
    1 1 67 0 6 1 2 0 2 1 2 0 11 1 3 0 1 1 8 0 1 1 47 0 1 1 51 0 1 1 1 0 3 1 2 0 2 1 5 0 2 1 1 0
    1 1 42 0 2 1 8 0 11 1 228 0 1 1 2 0 1 1 4 0 3 1 20270 0 1 1 769 0 37 1 952 0 131 1 96 0 1 1
    149 0 10 1 1665 0 15 1 40 0 8 1 128 0 5 4 1 3 1 0 1 3 1 0 2 3 2 0 1 2 5 3 4 4 1 2 5 4 1 3 3
    4 1 3 2 0 1 3 6 1 4 4 1 3 144 0 1 4 1 3 1 4 3 3 3 4 1 3 2 4 1 3 1 4 2 3 1 4 8 3 16 0 4 3 2
    4 337 0 1 2 33 4 1 3 1 4 12 1 57 0 5 1 317 0 2 1 21 0 1 3 2 4 1 0 10 4 42 0 6 1 48 0 3 4 1
    3 17 4 1 0 11 1 3 4 1 3 27 0 4 4 2 3 12 4 4 1 42 0 1 4 1 0 2 4 3 3 1 0 1 4 2 3 2 4 1 3 2 4
    1 0 1 4 2 3 1 4 4 0 1 3 1 4 21 2 33 0 1 1 54 0 15 1 41 0 1 1 2 0 2 1 10 0 3 1 49 0 4 1 2 0
    2 1 7 0 14 1 48 0 3 1 36 0 5 1 1 0 9 1 61 0 1 1 12 0 2 1 52 0 9 1 10 0 4 1 2 0 1 1 95 0 3 1
    2 0 1 1 1 0 2 1 6 0 1 1 2 0 63 1 95 0 1 1 3 0 13 1 16 0 2 1 57 0 2 1 3 0 1 1 37 0 26 1 59 0
    7 1 12 0 1 1 1 0 1 1 1 0 1 1 14 0 31 1 56 0 8 1 2 0 3 1 1 0 1 1 23 0 1 1 84 0 6 1 1 0 1 1 4
    0 2 1 1 0 2 1 238 0 6 1 4 0 2 1 1 0 2 1 27 0 36 1 51 0 8 1 2 0 1 1 1 0 2 1 106 0 1 1 1 0 1
    1 2 0 6 1 1 0 1 1 101 0 1 1 1 0 1 1 2 0 4 1 1 0 9 1 255 0 9 1 1 0 2 1 256 0 2 1 1 0 1 1 4 0
    1 1 144 0 8 1 4 0 1 1 32 0 10 1 40 0 6 1 2 0 4 1 8 0 9 1 1 0 6 1 2 0 3 1 46 0 13 1 1 0 2 1
    198 0 1 1 1 0 3 1 1 0 1 1 201 0 14 1 1 0 1 1 82 0 23 1 1 0 7 1 1 0 2 1 1 0 75 1 49 0 21 1 1
    0 9 1 64 0 3 1 2 0 1 1 1 0 1 1 347 0 2 1 11 0 2 1 52 0 8 1 2 0 1 1 1 0 1 1 23 0 86 1 5264 0
    1 1 6 0 25 1 11454 0 12 1 3 0 3 1 2496 0 5 1 59 0 7 1 1048 0 1 1 63 0 4 1 81 0 12 1 19629 0
    2 1 4705 0 80 1 535 0 3 1 17 0 8 1 2 0 7 1 30 0 4 1 148 0 3 1 1979 0 55 1 4 0 50 1 8 0 1 1
    14 0 1 1 22 0 1125 1 256 0 256 1 48 0 7 1 375 0 18 1 44 0 4 1 508 0 4 1 254 0 2 1 243 0 1 1
    2 0 1 1 7 0 2 1 5 0 9 1 466 0 82 1 34 4 12 1 988848 0"

/-- Characters that combine with the one before. -/
def marks : Runs := .ofText
  "768 113 274 8 262 45 1 1 1 2 1 2 1 9 64 11 48 21 16 1 101 8 1 6 2 2 1 4 35 1 30 29 89 11 58
    9 9 1 24 4 1 9 1 3 1 7 41 5 57 9 42 58 54 3 1 18 1 7 10 2 29 4 55 1 1 16 9 5 6 4 24 7 55 29
    23 2 3 1 11 4 55 1 1 18 18 4 20 11 55 1 1 30 6 4 28 1 59 18 7 15 26 5 55 1 1 26 10 4 27 3
    56 1 1 30 6 4 13 17 55 2 1 16 9 1 10 4 27 4 69 28 12 2 61 1 2 11 8 8 98 1 2 9 11 8 72 2 27
    1 1 1 1 1 4 2 49 20 1 2 5 49 8 1 100 20 23 4 4 3 1 3 2 7 3 4 13 12 1 1 10 4 703 3 946 13 19
    3 29 14 18 14 54 30 9 3 165 2 34 1 118 32 215 7 55 43 48 85 47 17 38 9 12 3 30 13 56 22 40
    23 149 3 1 21 4 1 6 1 2 3 198 65 719 52 3051 4 140 1 96 32 554 6 105 4 30162 4 1 10 32 2 80
    2 272 1 3 1 4 1 23 5 4 4 80 2 50 26 18 18 13 1 38 8 25 24 33 4 47 14 36 1 67 23 3 1 8 4 43
    3 50 1 1 3 2 2 5 2 1 1 41 5 5 12 226 8 1 4 20270 1 769 37 952 131 96 1 149 10 1665 15 40 8
    165 6 569 12 57 5 317 2 77 6 70 11 49 4 122 3 53 15 41 1 2 2 10 4 45 11 7 14 48 3 36 15 15
    2 44 1 12 3 48 14 8 4 1 2 92 12 6 1 2 63 95 17 16 5 54 2 1 18 7 6 5 30 56 25 1 1 14 31 53
    18 23 1 81 20 235 18 27 36 48 17 106 13 101 19 252 15 245 15 1 1 1 2 141 16 3 28 1 10 40 7
    1 4 8 9 1 11 46 16 198 96 111 17 82 110 49 21 1 9 58 14 347 4 9 2 1 1 48 15 23 86 5264 1 6
    25 11454 18 2496 5 59 7 1048 1 1 66 81 14 19627 2 4705 80 533 5 3 22 2 7 30 4 148 3 1979 55
    4 50 8 1 14 1 22 1125 256 256 48 7 375 18 44 4 508 4 254 2 243 1 2 1 7 2 5 9 466 82 34 7"

/-- How a character joins its neighbours. -/
def joining (c : Char) : Joining := .ofNumber (joinings.find c.toNat)

/-- Whether the first character that is not transparent joins on the side asked for. -/
def joinsAt (side : Joining) (text : List Char) : Bool :=
  match (text.map joining).dropWhile (· == .transparent) with
  | [] => false
  | found :: _ => found == side || found == .both

/-- The class of the marks that suppress a vowel. -/
def vowelKiller : Nat := 9

end Shortlink.Web.Domain
