import Mathlib.Tactic.SplitIfs
import Shortlink.Json.Record
import Shortlink.Json.Printer
import Shortlink.Proofs.Text.Reads

/-!
# Printed JSON is read back

Strings with their escapes, and the records and lists that are made of them. A printed text
has no blanks between its parts, so a reader that looks ahead sees the character that has
been printed.
-/

namespace Shortlink.Json.Reader

variable {α β : Type}

/-! ## Steps -/

/-- Looking ahead at a character that is no blank. -/
theorem peek_eq {c : Char} (solid : isBlank c = false) (rest : List Char) :
    peek (c :: rest) = .ok (some c, c :: rest) := by
  rw [peek, List.dropWhile_cons_of_neg (by simp [solid])]
  rfl

theorem peek_bind {c : Char} (solid : isBlank c = false) (next : Option Char → Reader β)
    (rest : List Char) : (peek >>= next) (c :: rest) = next (some c) (c :: rest) :=
  bind_eq_of_ok (peek_eq solid rest)

theorem skip_bind (c : Char) (next : Unit → Reader β) (rest : List Char) :
    (skip >>= next) (c :: rest) = next () rest := by
  have skipped : skip (c :: rest) = .ok ((), rest) := rfl
  exact bind_eq_of_ok skipped

/-! ## Strings -/

/-- A hexadecimal digit is read as the number that it was written for. -/
theorem hexValue?_hexDigit : ∀ n < 16, hexValue? (Text.hexDigit n) = some n := by
  decide

theorem isSolid_quote : isBlank '"' = false := by decide

/-- The four digits of the escape of a control character. -/
theorem fourDigits_control {code : Nat} (low : code < 32) (rest : List Char) :
    fourDigits ('0' :: '0' :: Text.hexDigit (code / 16) :: Text.hexDigit (code % 16) :: rest) =
      .ok (code, rest) := by
  have zero : hexValue? '0' = some 0 := by decide
  have high := hexValue?_hexDigit (code / 16) (by omega)
  have last := hexValue?_hexDigit (code % 16) (by omega)
  have value : ((0 * 16 + 0) * 16 + code / 16) * 16 + code % 16 = code := by omega
  simp only [fourDigits, zero, high, last, value]

/-- An escaped character is read back in one step. -/
theorem stringTail_escapeChar (steps : Nat) (taken : List Char) (c : Char) (rest : List Char) :
    stringTail (steps + 1) taken (escapeChar c ++ rest) = stringTail steps (c :: taken) rest := by
  have same : Char.ofNat c.toNat = c := Char.ofNat_toNat c
  unfold escapeChar
  split
  · next isQuote => subst isQuote; rfl
  split
  · next isSlash => subst isSlash; rfl
  split
  · next code => rw [← same, code]; rfl
  split
  · next code => rw [← same, code]; rfl
  split
  · next code => rw [← same, code]; rfl
  split
  · next code => rw [← same, code]; rfl
  split
  · next code => rw [← same, code]; rfl
  split
  · next low =>
      have noSurrogate : ¬(0xDC00 ≤ c.toNat ∧ c.toNat ≤ 0xDFFF) := by omega
      have single : c.toNat < 0xD800 ∨ 0xDBFF < c.toNat := by omega
      have read : escapedChar c.toNat rest = .ok (c, rest) := by
        simp only [escapedChar, if_neg noSurrogate, if_pos single, same]
      simp [stringTail, fourDigits_control low, read]
  · next notQuote notSlash _ _ _ _ _ notControl =>
      simp [stringTail, notQuote, notSlash, notControl]

theorem stringTail_escaped (chars : List Char) {steps : Nat} (enough : chars.length < steps)
    (taken rest : List Char) :
    stringTail steps taken (chars.flatMap escapeChar ++ '"' :: rest) =
      .ok (taken.reverse ++ chars, rest) := by
  induction chars generalizing steps taken with
  | nil =>
      cases steps with
      | zero => contradiction
      | succ steps => simp [stringTail]
  | cons c chars ih =>
      cases steps with
      | zero => contradiction
      | succ steps =>
          rw [List.length_cons, Nat.add_lt_add_iff_right] at enough
          rw [List.flatMap_cons, List.append_assoc, stringTail_escapeChar, ih enough]
          simp

theorem length_le_escaped (chars : List Char) :
    chars.length ≤ (chars.flatMap escapeChar).length := by
  induction chars with
  | nil => exact Nat.le_refl _
  | cons c chars ih =>
      have atLeastOne : 1 ≤ (escapeChar c).length := by
        unfold escapeChar
        split_ifs <;> simp
      rw [List.flatMap_cons, List.length_append, List.length_cons]
      omega

/-- A string is read back after its opening quote. -/
theorem reads_stringRest (chars : List Char) :
    Reads stringRest (chars.flatMap escapeChar ++ ['"']) (String.ofList chars) := by
  intro rest
  have enough : chars.length < (chars.flatMap escapeChar ++ ['"'] ++ rest).length + 1 := by
    have shorter := length_le_escaped chars
    simp only [List.length_append]
    omega
  rw [stringRest, List.append_assoc]
  rw [List.append_assoc] at enough
  change (stringTail _ [] (chars.flatMap escapeChar ++ '"' :: rest)).map _ = _
  rw [stringTail_escaped chars enough]
  rfl

/-- A printed text is read back as whatever its form makes of it. -/
theorem reads_textOf {form : TextForm α} {text : String} {value : α}
    (parsed : form.parse text = .ok value) :
    Reads (textOf form) (printText text.toList) value := by
  intro rest
  have string := reads_stringRest text.toList rest
  rw [String.ofList_toList] at string
  rw [printText, List.cons_append, textOf, peek_bind isSolid_quote]
  change (skip >>= fun _ => stringRest >>= _) _ = _
  rw [skip_bind, bind_eq_of_ok string, parsed]
  rfl

end Shortlink.Json.Reader
