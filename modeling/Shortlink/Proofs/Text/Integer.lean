import Shortlink.Proofs.Time.Stamp
import Shortlink.Text.Integer

/-!
# Integers are read back

The decimal text of an integer in a range is read as that integer.
-/

namespace Shortlink.Text

variable {bound : Nat}

theorem digit?_of_isDigit {c : Char} (isDigit : c.isDigit = true) :
    digit? c = some (c.toNat - '0'.toNat) := by
  simp only [Char.isDigit, Bool.and_eq_true, decide_eq_true_eq] at isDigit
  exact if_pos isDigit

theorem readDigits_eq_ok {outOfRange : IntegerError} {digits : List Char} {value : Nat}
    (isDigits : ∀ c ∈ digits, c.isDigit = true)
    (small : Nat.ofDigitChars 10 digits value ≤ bound) :
    readDigits bound outOfRange value digits = .ok (Nat.ofDigitChars 10 digits value) := by
  induction digits generalizing value with
  | nil => rfl
  | cons c rest ih =>
      rw [List.forall_mem_cons] at isDigits
      rw [Nat.ofDigitChars_cons, Nat.mul_comm] at small ⊢
      have fits : value * 10 + (c.toNat - '0'.toNat) ≤ bound :=
        Nat.le_trans (Time.Stamp.le_ofDigitChars rest _) small
      simp only [readDigits, digit?_of_isDigit isDigits.1, if_pos fits]
      exact ih isDigits.2 small

/-- What is read of digits is their value. -/
theorem eq_of_readDigits {outOfRange : IntegerError} {digits : List Char} {value n : Nat}
    (isDigits : ∀ c ∈ digits, c.isDigit = true)
    (isRead : readDigits bound outOfRange value digits = .ok n) :
    n = Nat.ofDigitChars 10 digits value := by
  induction digits generalizing value with
  | nil => exact (Except.ok.inj isRead).symm
  | cons c rest ih =>
      rw [List.forall_mem_cons] at isDigits
      simp only [readDigits, digit?_of_isDigit isDigits.1] at isRead
      split at isRead
      · rw [Nat.ofDigitChars_cons, Nat.mul_comm]
        exact ih isDigits.2 isRead
      · contradiction

theorem isDigit_of_mem_repr {n : Nat} {c : Char} (member : c ∈ n.repr.toList) :
    c.isDigit = true := by
  rw [Nat.toList_repr] at member
  exact Nat.isDigit_of_mem_toDigits (by decide) (by decide) member

theorem value_repr (n : Nat) : Nat.ofDigitChars 10 n.repr.toList 0 = n := by
  rw [Nat.toList_repr]
  exact Nat.ofDigitChars_ten_toDigits

theorem readDigits_repr {n : Nat} {outOfRange : IntegerError} (small : n ≤ bound) :
    readDigits bound outOfRange 0 n.repr.toList = .ok n := by
  rw [readDigits_eq_ok (fun c => isDigit_of_mem_repr) ((value_repr n).symm ▸ small), value_repr]

theorem exists_repr_eq_cons (n : Nat) :
    ∃ c rest, n.repr.toList = c :: rest ∧ c.isDigit = true := by
  have nonempty : n.repr.toList ≠ [] := by
    rw [Nat.toList_repr]
    exact Nat.toDigits_ne_nil
  obtain ⟨c, rest, isText⟩ := List.exists_cons_of_ne_nil nonempty
  refine ⟨c, rest, isText, isDigit_of_mem_repr (n := n) ?_⟩
  rw [isText]
  exact List.mem_cons_self

/-- A text that begins with a digit is read as a number without a sign. -/
theorem readSigned_of_isDigit {c : Char} {rest : List Char} (isDigit : c.isDigit = true) :
    readSigned bound (c :: rest) =
      (readDigits bound .tooLarge 0 (c :: rest)).map fun value => (value : Int) := by
  have notMinus : c ≠ '-' := by
    rintro rfl
    contradiction
  have notPlus : c ≠ '+' := by
    rintro rfl
    contradiction
  have natural : readNatural bound (c :: rest) = readDigits bound .tooLarge 0 (c :: rest) := by
    unfold readNatural
    split <;> simp_all
  unfold readSigned
  split <;> simp_all

/-- Whatever is read of the decimal text of a natural number is that number. -/
theorem eq_of_readSigned_repr {n : Nat} {m : Int}
    (isRead : readSigned bound n.repr.toList = .ok m) : m = n := by
  obtain ⟨c, rest, isText, isDigit⟩ := exists_repr_eq_cons n
  rw [isText, readSigned_of_isDigit isDigit, ← isText] at isRead
  cases found : readDigits bound .tooLarge 0 n.repr.toList with
  | error error =>
      rw [found] at isRead
      contradiction
  | ok value =>
      rw [found] at isRead
      have same := eq_of_readDigits (fun c => isDigit_of_mem_repr) found
      rw [value_repr] at same
      cases isRead
      exact congrArg Int.ofNat same

/-- The decimal text of an integer is read back. -/
theorem readSigned_toString {n : Int} (low : -(bound + 1) ≤ n) (high : n ≤ bound) :
    readSigned bound (toString n).toList = .ok n := by
  rw [Int.toString_eq_repr, Int.repr_eq_if]
  split
  · next nonneg =>
      obtain ⟨c, rest, isText, isDigit⟩ := exists_repr_eq_cons n.toNat
      rw [isText, readSigned_of_isDigit isDigit, ← isText, readDigits_repr (by omega)]
      exact congrArg Except.ok (Int.toNat_of_nonneg nonneg)
  · next negative =>
      obtain ⟨c, rest, isText, -⟩ := exists_repr_eq_cons (-n).toNat
      have isRead : readDigits (bound + 1) .tooSmall 0 (c :: rest) = .ok (-n).toNat := by
        rw [← isText]
        exact readDigits_repr (by omega)
      have sign : "-".toList = ['-'] := rfl
      rw [String.toList_append, isText, sign, List.singleton_append, readSigned, isRead]
      · refine congrArg Except.ok ?_
        have same : -((-n).toNat : Int) = n := by omega
        exact same
      · simp

end Shortlink.Text
