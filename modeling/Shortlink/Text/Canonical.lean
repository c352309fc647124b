import Shortlink.Text.Canonical.Table

/-!
# Canonical composition

Texts that differ only in whether a letter and its marks are one character or several have
one composed form: every character is taken apart, marks are put in the order of their
classes, and what can be composed is composed from left to right.
-/

namespace Shortlink.Text

namespace Canonical

/-! ## Syllables

Korean syllables are composed by arithmetic from a lead, a vowel and an optional tail. -/

/-- The first syllable. -/
def syllableBase : Nat := 0xAC00

/-- The character before the first lead, vowel or tail in question, plus a number. -/
def leadBase : Nat := 0x1100

/-- The first vowel. -/
def vowelBase : Nat := 0x1161

/-- The place before the first tail. -/
def tailBase : Nat := 0x11A7

/-- The parts of a syllable. -/
def syllableParts? (c : Char) : Option (List Char) :=
  if syllableBase ≤ c.toNat ∧ c.toNat < syllableBase + 11172 then
    let place := c.toNat - syllableBase
    let front := [Char.ofNat (leadBase + place / 588), Char.ofNat (vowelBase + place % 588 / 28)]
    some (if place % 28 = 0 then front else front ++ [Char.ofNat (tailBase + place % 28)])
  else none

/-- The syllable that two neighbours make. -/
def syllable? (a b : Char) : Option Char :=
  if leadBase ≤ a.toNat ∧ a.toNat < leadBase + 19 ∧ vowelBase ≤ b.toNat ∧
      b.toNat < vowelBase + 21 then
    some (Char.ofNat
      (syllableBase + ((a.toNat - leadBase) * 21 + (b.toNat - vowelBase)) * 28))
  else if syllableBase ≤ a.toNat ∧ a.toNat < syllableBase + 11172 ∧
      (a.toNat - syllableBase) % 28 = 0 ∧ tailBase < b.toNat ∧ b.toNat < tailBase + 28 then
    some (Char.ofNat (a.toNat + (b.toNat - tailBase)))
  else none

/-! ## Taking apart -/

/-- The parts of a character, their parts and so on, for `steps` rounds. -/
def partsWithin : Nat → Char → List Char
  | 0, c => [c]
  | steps + 1, c =>
    match decompositions.find? c with
    | some parts => parts.flatMap (partsWithin steps)
    | none => (syllableParts? c).getD [c]

/-- The characters that a character is composed of. No chain of parts is longer than
four. -/
def parts (c : Char) : List Char := partsWithin 4 c

/-- The class of a combining mark; zero for all other characters. -/
def markClass (c : Char) : Nat := combiningClasses.find c.toNat

/-- Puts a character in front of a text whose marks are in order, behind the leading marks
of lower classes. -/
def place (c : Char) : List Char → List Char
  | [] => [c]
  | d :: rest =>
    if markClass d ≠ 0 ∧ markClass d < markClass c then d :: place c rest else c :: d :: rest

/-- Puts neighbouring marks in the order of their classes. -/
def order : List Char → List Char
  | [] => []
  | c :: rest => place c (order rest)

/-! ## Composing -/

/-- The composed characters of two parts, by their parts. -/
def pairs : List ((Nat × Nat) × Char) :=
  (decompositions.places.zip decompositions.rows).toList.filterMap fun (code, row) =>
    match row with
    | [a, b] =>
      if (leftApart.find? (Char.ofNat code)).isSome then none
      else some ((a.toNat, b.toNat), Char.ofNat code)
    | _ => none

/-- The composed characters in the order of a number made from their parts. -/
def composites : Places Char :=
  let keyed := pairs.map fun ((a, b), c) => (a * 0x110000 + b, c)
  .ofRows (keyed.mergeSort fun x y => x.1 ≤ y.1)

/-- The character composed of two. -/
def composite? (a b : Char) : Option Char :=
  match syllable? a b with
  | some c => some c
  | none =>
    match composites.before? (a.toNat * 0x110000 + b.toNat) with
    | some (0, c) => some c
    | _ => none

/-- Composes a text behind a starter; `marks` are those between that stay, the last one
first. -/
def composeAfter (starter : Char) (marks : List Char) : List Char → List Char
  | [] => starter :: marks.reverse
  | c :: rest =>
    let isClose :=
      match marks with
      | [] => true
      | last :: _ => markClass last < markClass c
    match if isClose then composite? starter c else none with
    | some whole => composeAfter whole marks rest
    | none =>
      if markClass c = 0 then starter :: (marks.reverse ++ composeAfter c [] rest)
      else composeAfter starter (c :: marks) rest

/-- Composes a text whose marks are in order. -/
def compose : List Char → List Char
  | [] => []
  | c :: rest => if markClass c = 0 then composeAfter c [] rest else c :: compose rest

end Canonical

/-- The composed form of a text. -/
def canonical (text : List Char) : List Char :=
  Canonical.compose (Canonical.order (text.flatMap Canonical.parts))

end Shortlink.Text
