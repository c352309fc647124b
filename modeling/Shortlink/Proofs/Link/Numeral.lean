import Mathlib.Data.List.GetD
import Mathlib.Data.Nat.Digits.Lemmas
import Shortlink.Proofs.Link.Code

/-!
# Codes as numerals

A code is a numeral in the base of its alphabet: a character counts as much as its place in the
alphabet, and the first character counts most. The number is divided until nothing is left of it,
and the code has the last of its digits, so it stands for the number up to multiples of as many
codes as there are. Everything is read off the digits as numbers, which the alphabet only spells.
Whether a code is made at all depends on its length and on how many digits there are.
-/

namespace Shortlink.Code

/-- The digits of a number, the last one first, as repeated division gives them: it goes on until
nothing is left, and each remainder needs a character of the alphabet. -/
inductive DividesInto (alphabet : List Char) : Nat → List Char → Prop where
  | nothing : DividesInto alphabet 0 []
  | digit {value : Nat} {c : Char} {digits : List Char} (positive : 0 < value)
      (spelt : alphabet[value % alphabet.length]? = some c)
      (rest : DividesInto alphabet (value / alphabet.length) digits) :
      DividesInto alphabet value (c :: digits)

/-- The number that a text stands for, where a character is the digit of its place in the
alphabet and the first one counts most. -/
def valueOf (alphabet text : List Char) : Nat :=
  text.foldl (fun value c => value * alphabet.length + alphabet.idxOf c) 0

/-- The last digits of a number as numbers, the last one first, with zeros for those that it does
not have. -/
def lastDigits (base length value : Nat) : List Nat :=
  let digits := (Nat.digits base value).take length
  digits ++ List.replicate (length - digits.length) 0

/-- The text that digits are written as, the last one first. -/
def spell (alphabet : List Char) (digits : List Nat) : List Char :=
  digits.map (alphabet.getD · ' ')

section numerals

variable {base length value other : Nat}

theorem length_lastDigits (base length value : Nat) :
    (lastDigits base length value).length = length := by
  have cut : ((Nat.digits base value).take length).length ≤ length := List.length_take_le _ _
  rw [lastDigits, List.length_append, List.length_replicate]
  exact Nat.add_sub_cancel' cut

theorem lt_of_mem_lastDigits (isBase : 1 < base) {digit : Nat}
    (member : digit ∈ lastDigits base length value) : digit < base := by
  rcases List.mem_append.mp member with inDigits | isFilled
  · exact Nat.digits_lt_base isBase (List.mem_of_mem_take inDigits)
  · rw [List.eq_of_mem_replicate isFilled]
    exact Nat.zero_lt_of_lt isBase

theorem ofDigits_lastDigits (isBase : 1 < base) :
    Nat.ofDigits base (lastDigits base length value) = value % base ^ length := by
  rw [lastDigits, Nat.ofDigits_append_replicate_zero,
    Nat.self_mod_pow_eq_ofDigits_take length value isBase]

/-- As many digits are the same exactly if the numbers differ by a multiple of what these digits
can count. -/
theorem lastDigits_eq_iff (isBase : 1 < base) :
    lastDigits base length value = lastDigits base length other ↔
      value ≡ other [MOD base ^ length] := by
  rw [Nat.ModEq, ← ofDigits_lastDigits isBase, ← ofDigits_lastDigits isBase]
  constructor
  · exact congrArg (Nat.ofDigits base)
  · apply Nat.ofDigits_inj_of_len_eq isBase
    · rw [length_lastDigits, length_lastDigits]
    · exact fun digit => lt_of_mem_lastDigits isBase
    · exact fun digit => lt_of_mem_lastDigits isBase

end numerals

variable {alphabet : List Char}

/-! ## Spelling -/

theorem getElem?_of_lt {digit : Nat} (isDigit : digit < alphabet.length) :
    alphabet[digit]? = some (alphabet.getD digit ' ') := by
  rw [List.getD_eq_getElem _ _ isDigit, List.getElem?_eq_getElem isDigit]

theorem mem_of_mem_spell {digits : List Nat} (isDigits : ∀ digit ∈ digits, digit < alphabet.length)
    {c : Char} (member : c ∈ spell alphabet digits) : c ∈ alphabet := by
  obtain ⟨digit, isDigit, rfl⟩ := List.mem_map.mp member
  exact List.mem_of_getElem? (getElem?_of_lt (isDigits digit isDigit))

/-- Where no character occurs twice, its place is the digit that it was written for. -/
theorem map_idxOf_spell (distinct : alphabet.Nodup) {digits : List Nat}
    (isDigits : ∀ digit ∈ digits, digit < alphabet.length) :
    (spell alphabet digits).map alphabet.idxOf = digits := by
  rw [spell, List.map_map]
  refine (List.map_congr_left fun digit member => ?_).trans (List.map_id digits)
  have isDigit := isDigits digit member
  rw [Function.comp_apply, List.getD_eq_getElem _ _ isDigit]
  exact distinct.idxOf_getElem digit isDigit

theorem valueOf_eq (alphabet text : List Char) :
    valueOf alphabet text =
      Nat.ofDigits alphabet.length (text.map alphabet.idxOf).reverse := by
  rw [Nat.ofDigits_eq_foldr, List.foldr_reverse, List.foldl_map]
  simp only [valueOf, Nat.cast_id, Nat.add_comm, Nat.mul_comm]

/-! ## The digits of a code -/

/-- The bound on the number of digits is never reached before the number is used up. -/
theorem dividesInto_digitsReversed (isBase : 1 < alphabet.length) {steps value : Nat}
    (small : value < 2 ^ steps) :
    DividesInto alphabet value (digitsReversed alphabet steps value) := by
  induction steps generalizing value with
  | zero =>
      obtain rfl : value = 0 := by omega
      exact .nothing
  | succ steps ih =>
      rw [digitsReversed]
      split
      next isZero =>
        subst isZero
        exact .nothing
      next nonzero =>
        have positive : 0 < value := Nat.pos_of_ne_zero nonzero
        have isDigit : value % alphabet.length < alphabet.length :=
          Nat.mod_lt _ (Nat.zero_lt_of_lt isBase)
        have smaller : value / alphabet.length < 2 ^ steps := by
          have halved : value / alphabet.length ≤ value / 2 :=
            Nat.div_le_div_left isBase Nat.two_pos
          rw [Nat.pow_succ] at small
          omega
        exact .digit positive (getElem?_of_lt isDigit) (ih smaller)

/-- Division gives the digits of the number, however far they go. -/
theorem DividesInto.eq_spell {value : Nat} {digits : List Char}
    (divides : DividesInto alphabet value digits) (isBase : 1 < alphabet.length) :
    digits = spell alphabet (Nat.digits alphabet.length value) := by
  induction divides with
  | nothing => rw [Nat.digits_zero]; rfl
  | @digit value c digits positive spelt rest ih =>
      have isDigit : value % alphabet.length < alphabet.length :=
        Nat.mod_lt _ (Nat.zero_lt_of_lt isBase)
      rw [getElem?_of_lt isDigit, Option.some.injEq] at spelt
      rw [Nat.digits_eq_cons_digits_div isBase (Nat.ne_of_gt positive), spell, List.map_cons,
        ← spell, ← ih, spelt]

theorem dividesInto_value (isBase : 1 < alphabet.length) (value : BitVec 128) :
    DividesInto alphabet value.toNat (digitsReversed alphabet 128 value.toNat) :=
  dividesInto_digitsReversed isBase value.isLt

/-- A code is the spelling of the last digits. -/
theorem numeral_eq_spell (isBase : 1 < alphabet.length) (value : BitVec 128) (length : Nat) :
    numeral value alphabet length =
      (spell alphabet (lastDigits alphabet.length length value.toNat)).reverse := by
  have first : alphabet.headD ' ' = alphabet.getD 0 ' ' := by cases alphabet <;> rfl
  rw [numeral, (dividesInto_value isBase value).eq_spell isBase, first]
  simp only [spell, lastDigits, List.map_append, List.map_take, List.map_replicate,
    List.length_take, List.length_map]

/-- What is cut off and what is filled up: a number with too few digits gets the first character
of the alphabet in front, and of one with enough of them the last ones are kept. -/
theorem numeral_eq_ite {digits : List Char} {value : BitVec 128}
    (divides : DividesInto alphabet value.toNat digits) (isBase : 1 < alphabet.length)
    {zero : Char} (isFirst : alphabet.head? = some zero) (length : Nat) :
    numeral value alphabet length =
      if digits.length < length then
        List.replicate (length - digits.length) zero ++ digits.reverse
      else digits.reverse.drop (digits.length - length) := by
  have same : digitsReversed alphabet 128 value.toNat = digits := by
    rw [(dividesInto_value isBase value).eq_spell isBase, divides.eq_spell isBase]
  have first : alphabet.headD ' ' = zero := by
    rw [List.headD_eq_head?_getD, isFirst, Option.getD_some]
  rw [numeral, same, first]
  split
  next short =>
    rw [List.take_of_length_le (Nat.le_of_lt short), List.reverse_append, List.reverse_replicate]
  next long =>
    have full : (digits.take length).length = length := by
      rw [List.length_take]
      omega
    rw [full, Nat.sub_self, List.replicate_zero, List.append_nil, List.reverse_take]

/-! ## What a code stands for -/

theorem mem_alphabet_of_mem_numeral (isBase : 1 < alphabet.length) {value : BitVec 128}
    {length : Nat} {c : Char} (member : c ∈ numeral value alphabet length) : c ∈ alphabet := by
  rw [numeral_eq_spell isBase, List.mem_reverse] at member
  exact mem_of_mem_spell (fun digit => lt_of_mem_lastDigits isBase) member

theorem map_idxOf_numeral (isBase : 1 < alphabet.length) (distinct : alphabet.Nodup)
    (value : BitVec 128) (length : Nat) :
    (numeral value alphabet length).map alphabet.idxOf =
      (lastDigits alphabet.length length value.toNat).reverse := by
  rw [numeral_eq_spell isBase, List.map_reverse,
    map_idxOf_spell distinct fun digit => lt_of_mem_lastDigits isBase]

theorem valueOf_numeral (isBase : 1 < alphabet.length) (distinct : alphabet.Nodup)
    (value : BitVec 128) (length : Nat) :
    valueOf alphabet (numeral value alphabet length) =
      value.toNat % alphabet.length ^ length := by
  rw [valueOf_eq, map_idxOf_numeral isBase distinct, List.reverse_reverse,
    ofDigits_lastDigits isBase]

theorem numeral_eq_numeral_iff (isBase : 1 < alphabet.length) (distinct : alphabet.Nodup)
    {value other : BitVec 128} {length : Nat} :
    numeral value alphabet length = numeral other alphabet length ↔
      value.toNat ≡ other.toNat [MOD alphabet.length ^ length] := by
  rw [← lastDigits_eq_iff isBase]
  constructor
  · intro same
    have images := congrArg (List.map alphabet.idxOf) same
    rwa [map_idxOf_numeral isBase distinct, map_idxOf_numeral isBase distinct,
      List.reverse_inj] at images
  · intro same
    rw [numeral_eq_spell isBase, numeral_eq_spell isBase, same]

/-- Where an alphabet has two characters at least and none of them twice, the division ends and
finds a character for each remainder. If there is room for it, the code is made that is cut to the
length, or filled up to it; there always is for half of the greatest row of characters, and never
for more than that row. A code that is made has just this length and no other characters, stands
for the number modulo the number of all codes, and is the same for another number exactly if both
are congruent. -/
theorem codes_are_numerals {alphabet : List Char} (isBase : 2 ≤ alphabet.length)
    (distinct : alphabet.Nodup) (value : BitVec 128) (length : Nat) :
    (∃ digits zero, DividesInto alphabet value.toNat digits ∧ alphabet.head? = some zero ∧
        encode value alphabet length =
          if room digits.length length ≤ maxRow then
            .ok (if digits.length < length then
              List.replicate (length - digits.length) zero ++ digits.reverse
            else digits.reverse.drop (digits.length - length))
          else .error .capacityOverflow) ∧
      (length ≤ 2 ^ 60 → ∃ code, encode value alphabet length = .ok code) ∧
      (2 ^ 61 ≤ length → encode value alphabet length = .error .capacityOverflow) ∧
      ∀ code, encode value alphabet length = .ok code →
        code.length = length ∧
        (∀ c ∈ code, c ∈ alphabet) ∧
        valueOf alphabet code = value.toNat % alphabet.length ^ length ∧
        ∀ other otherCode, encode other alphabet length = .ok otherCode →
          (otherCode = code ↔ other.toNat ≡ value.toNat [MOD alphabet.length ^ length]) := by
  obtain ⟨zero, isFirst⟩ : ∃ zero, alphabet.head? = some zero :=
    Option.isSome_iff_exists.mp (List.isSome_head?.mpr (List.ne_nil_of_length_pos (by omega)))
  have divides := dividesInto_value isBase value
  refine ⟨⟨_, zero, divides, isFirst, ?_⟩, fun short => ⟨_, encode_of_short short value alphabet⟩,
    fun long => encode_of_long long value alphabet, ?_⟩
  · rw [← numeral_eq_ite divides isBase isFirst]
    rfl
  · intro code made
    obtain rfl := eq_numeral_of_encode made
    refine ⟨length_numeral value alphabet length, fun c => mem_alphabet_of_mem_numeral isBase,
      valueOf_numeral isBase distinct value length, fun other otherCode otherMade => ?_⟩
    obtain rfl := eq_numeral_of_encode otherMade
    exact numeral_eq_numeral_iff isBase distinct

/-- The binary numeral of 45 is `101101`. Its last four digits stand for 13, and those of 61 are
the same. -/
theorem codes_are_numerals_of_binary :
    let alphabet := ['0', '1']
    let code := ['1', '1', '0', '1']
    2 ≤ alphabet.length ∧ alphabet.Nodup ∧ encode 45#128 alphabet 4 = .ok code ∧
      valueOf alphabet code = 13 ∧ encode 61#128 alphabet 4 = .ok code ∧
      encode 60#128 alphabet 4 ≠ .ok code := by
  intro alphabet code
  have isBase : 2 ≤ alphabet.length := by decide
  have distinct : alphabet.Nodup := by decide
  have made : encode 45#128 alphabet 4 = .ok code :=
    (encode_of_short (by decide) 45#128 alphabet).trans (congrArg Except.ok (by decide))
  obtain ⟨-, short, -, laws⟩ := codes_are_numerals isBase distinct 45#128 4
  obtain ⟨-, -, stands, same⟩ := laws code made
  obtain ⟨otherCode, otherMade⟩ :=
    (codes_are_numerals isBase distinct 61#128 4).2.1 (by decide)
  refine ⟨isBase, distinct, made, stands.trans (by decide), ?_, fun otherMade => ?_⟩
  · rw [otherMade, (same 61#128 otherCode otherMade).mpr (by decide)]
  · exact absurd ((same 60#128 code otherMade).mp rfl) (by decide)

/-- There is no code of so many characters. -/
theorem breaks_off_of_length :
    let alphabet := ['0', '1']
    2 ≤ alphabet.length ∧ alphabet.Nodup ∧
      encode 0#128 alphabet (2 ^ 62) = .error .capacityOverflow :=
  ⟨by decide, by decide, encode_of_long (by decide) 0#128 ['0', '1']⟩

end Shortlink.Code
