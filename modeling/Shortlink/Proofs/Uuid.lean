import Mathlib.Algebra.Group.Nat.Defs
import Shortlink.Proofs.Json.Reading
import Shortlink.Uuid

/-!
# Ids are read back

The text of an id has its digits in five groups. Without the hyphens they are the digits of
one number, so reading gives the id back.
-/

namespace Shortlink.Uuid

theorem length_hexTail (count n : Nat) : (hexTail count n).length = count := by
  induction count generalizing n with
  | zero => rfl
  | succ count ih => simp [hexTail, ih]

/-- The digits of a number in two groups. -/
theorem hexTail_append (front back n : Nat) :
    hexTail front (n >>> (4 * back)) ++ hexTail back n = hexTail (front + back) n := by
  induction back generalizing n with
  | zero => simp [hexTail]
  | succ back ih =>
      have shifted : n >>> (4 * (back + 1)) = (n / 16) >>> (4 * back) := by
        rw [Nat.mul_succ, Nat.add_comm, Nat.shiftRight_add, Nat.shiftRight_eq_div_pow n 4]
      rw [shifted, hexTail, ← List.append_assoc, ih, Nat.add_succ, hexTail]

theorem readHex_append (digits : List Char) (last : Char) :
    readHex (digits ++ [last]) =
      (readHex digits).bind fun value =>
        (Json.Reader.hexValue? last).map (value * 16 + ·) := by
  simp only [readHex, List.foldlM_append, List.foldlM_cons, List.foldlM_nil, bind_pure]
  rfl

theorem readHex_hexTail (count n : Nat) : readHex (hexTail count n) = some (n % 16 ^ count) := by
  induction count generalizing n with
  | zero => simp [hexTail, readHex, Nat.mod_one]
  | succ count ih =>
      have digit := Json.Reader.hexValue?_hexDigit (n % 16) (Nat.mod_lt n (by decide))
      have value : n / 16 % 16 ^ count * 16 + n % 16 = n % 16 ^ (count + 1) := by
        rw [Nat.pow_succ, Nat.mul_comm (16 ^ count) 16, Nat.mod_mul]
        omega
      rw [hexTail, readHex_append, ih, digit]
      simp [value]

/-- Five groups of digits, without their hyphens. -/
theorem groups?_append {a b c d e : List Char} (first : a.length = 8) (second : b.length = 4)
    (third : c.length = 4) (fourth : d.length = 4) (fifth : e.length = 12) :
    groups? (a ++ '-' :: b ++ '-' :: c ++ '-' :: d ++ '-' :: e) =
      some (a ++ b ++ c ++ d ++ e) := by
  simp [groups?, first, second, third, fourth, fifth, List.take_append, List.drop_append]
  simp (disch := omega) [List.drop_eq_nil_of_le]

/-- The groups of a text are the digits of the number. -/
theorem groups?_text (id : Uuid) : groups? id.text = some (hexTail 32 id.toNat) := by
  have split (front back skipped : Nat) :
      hexTail (front + back) (id.toNat >>> skipped) =
        hexTail front (id.toNat >>> (skipped + 4 * back)) ++
          hexTail back (id.toNat >>> skipped) := by
    rw [Nat.shiftRight_add, hexTail_append]
  have digits : hexTail 32 id.toNat =
      hexTail 8 (id.toNat >>> 96) ++ hexTail 4 (id.toNat >>> 80) ++ hexTail 4 (id.toNat >>> 64) ++
        hexTail 4 (id.toNat >>> 48) ++ hexTail 12 id.toNat :=
    calc hexTail 32 id.toNat
      _ = hexTail 20 (id.toNat >>> 48) ++ hexTail 12 id.toNat := split 20 12 0
      _ = hexTail 16 (id.toNat >>> 64) ++ hexTail 4 (id.toNat >>> 48) ++ hexTail 12 id.toNat := by
        rw [split 16 4 48]
      _ = hexTail 12 (id.toNat >>> 80) ++ hexTail 4 (id.toNat >>> 64) ++
          hexTail 4 (id.toNat >>> 48) ++ hexTail 12 id.toNat := by rw [split 12 4 64]
      _ = _ := by rw [split 8 4 80]
  rw [digits]
  exact groups?_append (length_hexTail _ _) (length_hexTail _ _) (length_hexTail _ _)
    (length_hexTail _ _) (length_hexTail _ _)

theorem hexDigit_ne_brace : ∀ n < 16, Text.hexDigit n ≠ '\x7b' := by decide

theorem brace_not_mem_hexTail (count n : Nat) : '\x7b' ∉ hexTail count n := by
  induction count generalizing n with
  | zero => simp [hexTail]
  | succ count ih =>
      have digit := hexDigit_ne_brace (n % 16) (Nat.mod_lt n (by decide))
      simp [hexTail, ih, Ne.symm digit]

/-- A text of eight characters and a hyphen is no `urn:uuid:`. -/
theorem take_ne_urn {front : List Char} (length : front.length = 8) (rest : List Char) :
    ((front ++ '-' :: rest).take 9).map Char.toLower ≠
      ['u', 'r', 'n', ':', 'u', 'u', 'i', 'd', ':'] := by
  intro same
  have ninth : (((front ++ '-' :: rest).take 9).map Char.toLower)[8]? = some '-' := by
    simp [List.take_append, length]
  rw [same] at ninth
  exact absurd ninth (by decide)

theorem append_ne_brace_cons {front : List Char} (length : front.length = 8)
    (plain : '\x7b' ∉ front) (rest inner : List Char) : front ++ rest ≠ '\x7b' :: inner := by
  intro same
  cases front with
  | nil => contradiction
  | cons head tail =>
      rw [List.cons_append, List.cons.injEq] at same
      rw [same.1] at plain
      exact plain List.mem_cons_self

/-- An id is read back from its text. -/
theorem parse?_text (id : Uuid) : parse? id.text = some id := by
  have digits : ofGroups? id.text = some id := by
    have bound : id.toNat % 16 ^ 32 = id.toNat := Nat.mod_eq_of_lt id.bits.isLt
    rw [ofGroups?, groups?_text, Option.bind_some, ofDigits?, if_pos (length_hexTail 32 _),
      readHex_hexTail, bound]
    simp [toNat]
  obtain ⟨rest, spelled⟩ :
      ∃ rest, id.text = hexTail 8 (id.toNat >>> 96) ++ '-' :: rest := by
    simp only [text, List.append_assoc, List.cons_append]
    exact ⟨_, rfl⟩
  have notShort : id.text.length ≠ 32 := by simp [text, length_hexTail]
  have noUrn : (id.text.take 9).map Char.toLower ≠
      ['u', 'r', 'n', ':', 'u', 'u', 'i', 'd', ':'] := by
    rw [spelled]
    exact take_ne_urn (length_hexTail 8 _) rest
  unfold parse?
  split
  · next inner braced =>
      rw [spelled] at braced
      exact absurd braced
        (append_ne_brace_cons (length_hexTail 8 _) (brace_not_mem_hexTail 8 _) _ inner)
  · rw [if_neg notShort, if_neg noUrn, digits]

end Shortlink.Uuid
