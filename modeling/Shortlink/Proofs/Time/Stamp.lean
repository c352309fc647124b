import Mathlib.Algebra.Group.Nat.Defs
import Shortlink.Proofs.Text.Reads
import Shortlink.Time.Stamp

/-!
# Time stamps are read back

A stamp has digits of known widths between fixed separators. Only a year beyond four digits
and a fraction have runs of digits whose end is found by what follows them.
-/

namespace Shortlink.Time.Stamp

/-! ## Runs of digits -/

/-- A text of decimal digits. -/
def IsDigits (text : List Char) : Prop := ∀ c ∈ text, c.isDigit = true

/-- What follows does not begin with a digit. -/
def Stops (rest : List Char) : Prop := ∀ c ∈ rest.head?, digit? c = none

theorem digit?_of_isDigit {c : Char} (isDigit : c.isDigit = true) :
    digit? c = some (c.toNat - 48) := by
  simp only [Char.isDigit, Bool.and_eq_true, decide_eq_true_eq] at isDigit
  have bounds : 48 ≤ c.toNat ∧ c.toNat ≤ 57 := isDigit
  rw [digit?, if_pos bounds]

theorem isDigit_digit {n : Nat} (small : n < 10) : (Char.ofNat (48 + n)).isDigit = true := by
  revert n
  decide

theorem toNat_digit {n : Nat} (small : n < 10) : (Char.ofNat (48 + n)).toNat = 48 + n := by
  revert n
  decide

theorem length_decimals (count n : Nat) : (decimals count n).length = count := by
  induction count generalizing n with
  | zero => rfl
  | succ count ih => simp [decimals, ih]

theorem isDigits_decimals (count n : Nat) : IsDigits (decimals count n) := by
  induction count generalizing n with
  | zero => simp [decimals, IsDigits]
  | succ count ih =>
      intro c member
      rcases List.mem_append.mp member with inFront | isLast
      · exact ih (n / 10) c inFront
      · rw [List.mem_singleton.mp isLast]
        exact isDigit_digit (Nat.mod_lt n (by decide))

theorem value_decimals (count n : Nat) :
    Nat.ofDigitChars 10 (decimals count n) 0 = n % 10 ^ count := by
  induction count generalizing n with
  | zero => simp [decimals, Nat.mod_one]
  | succ count ih =>
      have last := toNat_digit (Nat.mod_lt n (show 0 < 10 by decide))
      rw [decimals, Nat.ofDigitChars_append, ih, Nat.ofDigitChars_cons, Nat.ofDigitChars_nil, last,
        Nat.pow_succ, Nat.mul_comm (10 ^ count) 10, Nat.mod_mul]
      change 10 * (n / 10 % 10 ^ count) + (48 + n % 10 - 48) = _
      omega

theorem le_ofDigitChars (digits : List Char) (value : Nat) :
    value ≤ Nat.ofDigitChars 10 digits value := by
  rw [Nat.ofDigitChars_eq_ofDigitChars_zero]
  have positive : 0 < 10 ^ digits.length := Nat.pow_pos (by decide)
  have grown : value ≤ 10 ^ digits.length * value := Nat.le_mul_of_pos_left value positive
  omega

/-- A run of digits is taken as a number, as far as there may be so many. -/
theorem numberTail_append {digits : List Char} (isDigits : IsDigits digits) {more value : Nat}
    (few : digits.length ≤ more) (small : Nat.ofDigitChars 10 digits value ≤ maxNumber)
    (rest : List Char) :
    numberTail more value (digits ++ rest) =
      numberTail (more - digits.length) (Nat.ofDigitChars 10 digits value) rest := by
  induction digits generalizing more value with
  | nil => simp
  | cons c digits ih =>
      cases more with
      | zero => contradiction
      | succ more =>
          rw [IsDigits, List.forall_mem_cons] at isDigits
          rw [List.length_cons, Nat.add_le_add_iff_right] at few
          have step : value * 10 + (c.toNat - 48) = 10 * value + (c.toNat - '0'.toNat) := by
            rw [Nat.mul_comm]
            rfl
          rw [Nat.ofDigitChars_cons, ← step] at small ⊢
          have bound : value * 10 + (c.toNat - 48) ≤ maxNumber :=
            Nat.le_trans (le_ofDigitChars digits _) small
          rw [List.cons_append, numberTail, digit?_of_isDigit isDigits.1]
          simp only [if_pos bound]
          rw [ih isDigits.2 few small, List.length_cons, Nat.add_sub_add_right]

theorem numberTail_stop {rest : List Char} (stops : Stops rest) (more value : Nat) :
    numberTail more value rest = .ok (value, rest) := by
  cases more with
  | zero => cases rest <;> rfl
  | succ more =>
      cases rest with
      | nil => rfl
      | cons c rest =>
          have noDigit : digit? c = none := stops c rfl
          rw [numberTail, noDigit]

/-- A number ends with its width or with what is no digit. -/
theorem number_eq {digits rest : List Char} (isDigits : IsDigits digits) (some : digits ≠ [])
    {width : Nat} (few : digits.length ≤ width)
    (small : Nat.ofDigitChars 10 digits 0 ≤ maxNumber)
    (ends : digits.length = width ∨ Stops rest) :
    number width (digits ++ rest) = .ok (Nat.ofDigitChars 10 digits 0, rest) := by
  have started : number width (digits ++ rest) = numberTail width 0 (digits ++ rest) := by
    cases digits with
    | nil => contradiction
    | cons c digits =>
        have first := digit?_of_isDigit (isDigits c (by simp))
        simp [number, first]
  rw [started, numberTail_append isDigits few small]
  rcases ends with full | stops
  · rw [full, Nat.sub_self]
    cases rest <;> rfl
  · exact numberTail_stop stops _ _

theorem number_decimals {count n : Nat} (positive : 0 < count) (small : count ≤ 9)
    (bound : n < 10 ^ count) {width : Nat} (few : count ≤ width) {rest : List Char}
    (ends : count = width ∨ Stops rest) :
    number width (decimals count n ++ rest) = .ok (n, rest) := by
  have value : Nat.ofDigitChars 10 (decimals count n) 0 = n := by
    rw [value_decimals, Nat.mod_eq_of_lt bound]
  have nonempty : decimals count n ≠ [] := by
    rw [← List.length_pos_iff, length_decimals]
    exact positive
  have inRange : n ≤ maxNumber := by
    have power : 10 ^ count ≤ 10 ^ 9 := Nat.pow_le_pow_right (by decide) small
    have limit : 10 ^ 9 ≤ maxNumber := by decide
    omega
  rw [← length_decimals count n] at few ends
  have taken := number_eq (isDigits_decimals count n) nonempty few (value.symm ▸ inRange) ends
  rw [value] at taken
  exact taken

/-! ## The parts of a stamp -/

theorem isBlank_of_isDigit {c : Char} (isDigit : c.isDigit = true) : Text.isBlank c = false := by
  simp only [Char.isDigit, Bool.and_eq_true, decide_eq_true_eq] at isDigit
  have bounds : 48 ≤ c.toNat ∧ c.toNat ≤ 57 := isDigit
  simp [Text.isBlank]
  omega

theorem blanks_eq {c : Char} (solid : Text.isBlank c = false) (rest : List Char) :
    blanks (c :: rest) = .ok ((), c :: rest) := by
  change Except.ok ((), Text.trimLeading (c :: rest)) = _
  rw [Text.trimLeading, Text.dropLeading, List.dropWhile_cons_of_neg (by simp [solid])]

theorem blanks_decimals {count : Nat} (positive : 0 < count) (n : Nat) (rest : List Char) :
    blanks (decimals count n ++ rest) = .ok ((), decimals count n ++ rest) := by
  have isDigits := isDigits_decimals count n
  have length := length_decimals count n
  cases spelled : decimals count n with
  | nil =>
      rw [spelled] at length
      subst length
      contradiction
  | cons c digits =>
      rw [spelled] at isDigits
      exact blanks_eq (isBlank_of_isDigit (isDigits c (by simp))) _

/-- A number of two digits is read back between its bounds. -/
theorem reads_twoDigits {low high n : Nat} (lower : low ≤ n) (upper : n ≤ high)
    (two : n < 100) : Reads (twoDigits low high) (decimals 2 n) n := by
  intro rest
  rw [twoDigits, bind_eq_of_ok (blanks_decimals (by decide) n rest),
    bind_eq_of_ok (number_decimals (by decide) (by decide) two (Nat.le_refl 2) (.inl rfl))]
  simp only [lower, upper, and_self, if_true]
  rfl

theorem separator_eq {mark : Char} (solid : Text.isBlank mark = false) (rest : List Char) :
    separator mark (mark :: rest) = .ok ((), rest) := by
  have shown : (get : Parser (List Char)) (mark :: rest) = .ok (mark :: rest, mark :: rest) := rfl
  rw [separator, bind_eq_of_ok (blanks_eq solid rest), bind_eq_of_ok shown]
  simp only [if_true]
  rfl

/-- The digits of a year that is written with a sign. -/
def signedDigits (year : Int) : List Char :=
  List.replicate (4 - (Nat.toDigits 10 year.natAbs).length) '0' ++ Nat.toDigits 10 year.natAbs

theorem isDigits_signedDigits (year : Int) : IsDigits (signedDigits year) := by
  intro c member
  rcases List.mem_append.mp member with padding | digit
  · rw [List.eq_of_mem_replicate padding]
    decide
  · exact Nat.isDigit_of_mem_toDigits (by decide) (by decide) digit

theorem value_signedDigits (year : Int) :
    Nat.ofDigitChars 10 (signedDigits year) 0 = year.natAbs := by
  rw [signedDigits, Nat.ofDigitChars_append, Nat.ofDigitChars_replicate_zero, Nat.mul_zero,
    Nat.ofDigitChars_ten_toDigits]

theorem stops_hyphen (rest : List Char) : Stops ('-' :: rest) := by
  intro c isFirst
  rw [← Option.some.inj isFirst]
  decide

theorem number_signedDigits {year : Int} (bound : year.natAbs ≤ 262143) (rest : List Char) :
    number (signedDigits year ++ '-' :: rest).length (signedDigits year ++ '-' :: rest) =
      .ok (year.natAbs, '-' :: rest) := by
  have nonempty : signedDigits year ≠ [] := by
    intro empty
    exact Nat.toDigits_ne_nil (List.append_eq_nil_iff.mp empty).2
  have inRange : year.natAbs ≤ maxNumber := Nat.le_trans bound (by decide)
  have few : (signedDigits year).length ≤ (signedDigits year ++ '-' :: rest).length := by simp
  have taken := number_eq (isDigits_signedDigits year) nonempty few
    (by rw [value_signedDigits]; exact inRange) (.inr (stops_hyphen rest))
  rw [value_signedDigits] at taken
  exact taken

theorem exists_decimals_eq_cons {count : Nat} (positive : 0 < count) (n : Nat) :
    ∃ c more, decimals count n = c :: more ∧ c.isDigit = true := by
  have length := length_decimals count n
  have isDigits := isDigits_decimals count n
  cases spelled : decimals count n with
  | nil =>
      rw [spelled] at length
      subst length
      contradiction
  | cons c more =>
      rw [spelled] at isDigits
      exact ⟨c, more, rfl, isDigits c List.mem_cons_self⟩

/-- A year of four digits is read back. -/
theorem year_eq_of_four {value : Int} (lower : 0 ≤ value) (upper : value ≤ 9999)
    (rest : List Char) :
    year (decimals 4 value.toNat ++ '-' :: rest) = .ok (value, '-' :: rest) := by
  have inRange : -(Number.maxSigned32 : Int) - 1 ≤ value ∧ value ≤ Number.maxSigned32 := by
    simp only [Number.maxSigned32]
    omega
  have taken : number 4 (decimals 4 value.toNat ++ '-' :: rest) =
      .ok (value.toNat, '-' :: rest) :=
    number_decimals (by decide) (by decide) (by omega) (Nat.le_refl 4) (.inl rfl)
  have passed := blanks_decimals (show 0 < 4 by decide) value.toNat ('-' :: rest)
  obtain ⟨c, more, spelled, isDigit⟩ := exists_decimals_eq_cons (show 0 < 4 by decide) value.toNat
  have unsigned : ∀ sign more, decimals 4 value.toNat ++ '-' :: rest = sign :: more →
      sign.isDigit = true := by
    intro sign more same
    rw [spelled, List.cons_append, List.cons.injEq] at same
    exact same.1 ▸ isDigit
  generalize decimals 4 value.toNat ++ '-' :: rest = text at taken passed unsigned ⊢
  have shown : (get : Parser (List Char)) text = .ok (text, text) := rfl
  rw [year, bind_eq_of_ok passed, bind_eq_of_ok shown]
  split
  · next more => exact absurd (unsigned '-' more rfl) (by decide)
  · next more => exact absurd (unsigned '+' more rfl) (by decide)
  · rw [bind_eq_of_ok taken, pure_bind, Int.toNat_of_nonneg lower]
    simp only [if_pos inRange]
    rfl

/-- A year with a sign is read back. -/
theorem year_eq_of_signed {value : Int} (lower : minYear ≤ value) (upper : value ≤ maxYear)
    (rest : List Char) :
    year ((if value < 0 then '-' else '+') :: (signedDigits value ++ '-' :: rest)) =
      .ok (value, '-' :: rest) := by
  simp only [minYear, maxYear] at lower upper
  have inRange : -(Number.maxSigned32 : Int) - 1 ≤ value ∧ value ≤ Number.maxSigned32 := by
    simp only [Number.maxSigned32]
    omega
  have taken : number (signedDigits value ++ '-' :: rest).length
      (signedDigits value ++ '-' :: rest) = .ok (value.natAbs, '-' :: rest) :=
    number_signedDigits (by omega) rest
  have shown (text : List Char) : (get : Parser (List Char)) text = .ok (text, text) := rfl
  have moved (mark : Char) (text : List Char) :
    (set text : Parser PUnit) (mark :: text) = .ok (⟨⟩, text) := rfl
  by_cases negative : value < 0
  · have number : -(value.natAbs : Int) = value := by omega
    rw [if_pos negative, year, bind_eq_of_ok (blanks_eq (by decide) _), bind_eq_of_ok (shown _)]
    simp only []
    rw [bind_eq_of_ok (moved '-' _), bind_eq_of_ok taken, pure_bind, number]
    simp only [if_pos inRange]
    rfl
  · have number : (value.natAbs : Int) = value := by omega
    rw [if_neg negative, year, bind_eq_of_ok (blanks_eq (by decide) _), bind_eq_of_ok (shown _)]
    simp only []
    rw [bind_eq_of_ok (moved '+' _), bind_eq_of_ok taken, pure_bind, number]
    simp only [if_pos inRange]
    rfl

/-- A year is read back, with or without a sign. -/
theorem year_eq {value : Int} (lower : minYear ≤ value) (upper : value ≤ maxYear)
    (rest : List Char) : year (yearText value ++ '-' :: rest) = .ok (value, '-' :: rest) := by
  by_cases four : 0 ≤ value ∧ value ≤ 9999
  · rw [yearText, if_pos four]
    exact year_eq_of_four four.1 four.2 rest
  · rw [yearText, if_neg four]
    exact year_eq_of_signed lower upper rest

theorem stops_zulu (rest : List Char) : Stops ('Z' :: rest) := by
  intro c isFirst
  rw [← Option.some.inj isFirst]
  decide

/-- A fraction of up to nine digits is read back in nanoseconds. -/
theorem fraction_decimals {count n : Nat} (positive : 0 < count) (small : count ≤ 9)
    (bound : n < 10 ^ count) (rest : List Char) :
    fraction ('.' :: (decimals count n ++ 'Z' :: rest)) =
      .ok (n * 10 ^ (9 - count), 'Z' :: rest) := by
  have taken : number 9 (decimals count n ++ 'Z' :: rest) = .ok (n, 'Z' :: rest) :=
    number_decimals positive small bound small (.inr (stops_zulu rest))
  have places : (decimals count n ++ 'Z' :: rest).length - ('Z' :: rest).length = count := by
    simp [length_decimals]
  have shown (text : List Char) : (get : Parser (List Char)) text = .ok (text, text) := rfl
  have moved : (set (decimals count n ++ 'Z' :: rest) : Parser PUnit)
      ('.' :: (decimals count n ++ 'Z' :: rest)) =
    .ok (⟨⟩, decimals count n ++ 'Z' :: rest) := rfl
  rw [fraction, bind_eq_of_ok (shown _)]
  simp only []
  rw [bind_eq_of_ok moved, bind_eq_of_ok taken, bind_eq_of_ok (shown _), places]
  rfl

/-- The fraction of a second is read back. -/
theorem fraction_eq {nanos : Nat} (bound : nanos < 1000000000) (rest : List Char) :
    fraction (fractionText nanos ++ 'Z' :: rest) = .ok (nanos, 'Z' :: rest) := by
  unfold fractionText
  split
  · next none =>
      subst none
      rfl
  split
  · next thousands =>
      have restored : nanos / 1000000 * 10 ^ (9 - 3) = nanos := by omega
      rw [List.cons_append, fraction_decimals (by decide) (by decide) (by omega), restored]
  split
  · next thousands =>
      have restored : nanos / 1000 * 10 ^ (9 - 6) = nanos := by omega
      rw [List.cons_append, fraction_decimals (by decide) (by decide) (by omega), restored]
  · rw [List.cons_append, fraction_decimals (by decide) (by decide) bound]
    simp

theorem blanks_nil : blanks [] = .ok ((), []) := rfl

theorem of?_parts (moment : Moment) :
    Moment.of? moment.date moment.hour moment.minute moment.second moment.nanos =
      some moment := by
  rw [Moment.of?, dif_pos ⟨moment.hour_lt, moment.minute_lt, moment.second_le, moment.nanos_lt⟩]

theorem of?_numbers (date : Date) : Date.of? date.year date.month date.day = some date := by
  rw [Date.of?, dif_pos ⟨date.year_bounds, date.month_bounds, date.day_bounds⟩]

/-- A local moment without an offset is the moment itself. -/
theorem ofLocal?_zero (moment : Moment) : moment.ofLocal? 0 = some moment := by
  have hour_lt := moment.hour_lt
  have minute_lt := moment.minute_lt
  have hours : (moment.hour * 60 + moment.minute) / 60 = moment.hour := by omega
  have minutes : (moment.hour * 60 + moment.minute) % 60 = moment.minute := by omega
  have notBefore : ¬((moment.hour * 60 + moment.minute : Nat) - (0 : Int) < 0) := by omega
  have notAfter : ¬(1440 ≤ (moment.hour * 60 + moment.minute : Nat) - (0 : Int)) := by omega
  have ofDay : (((moment.hour * 60 + moment.minute : Nat) - (0 : Int)) % 1440).toNat =
      moment.hour * 60 + moment.minute := by omega
  simp only [Moment.ofLocal?, if_neg notBefore, if_neg notAfter, ofDay, hours, minutes,
    Option.bind_some, of?_parts]

theorem daysInMonth_le (year : Int) (month : Nat) : daysInMonth year month ≤ 31 := by
  unfold daysInMonth
  split
  · split <;> decide
  all_goals decide

/-- The text of a moment, part by part. -/
theorem text_eq (moment : Moment) :
    text moment = yearText moment.date.year ++ '-' :: (decimals 2 moment.date.month ++
      '-' :: (decimals 2 moment.date.day ++ 'T' :: (decimals 2 moment.hour ++
        ':' :: (decimals 2 moment.minute ++ ':' :: (decimals 2 moment.second ++
          (fractionText moment.nanos ++ ['Z'])))))) := by
  simp only [text, civilText, List.append_assoc, List.cons_append]

/-- A moment is read back from its text. -/
theorem parse_text (moment : Moment) : parse (text moment) = .ok moment := by
  have months := moment.date.month_bounds
  have days := moment.date.day_bounds
  have daysOfMonth := daysInMonth_le moment.date.year moment.date.month
  have hours := moment.hour_lt
  have minutes := moment.minute_lt
  have seconds := moment.second_le
  have shown (text : List Char) : (get : Parser (List Char)) text = .ok (text, text) := rfl
  have zulu : zone ['Z'] = .ok (0, []) := rfl
  have read : stamp (text moment) = .ok (moment, []) := by
    rw [text_eq, stamp,
      bind_eq_of_ok (year_eq moment.date.year_bounds.1 moment.date.year_bounds.2 _),
      bind_eq_of_ok (separator_eq (by decide) _),
      bind_eq_of_ok (reads_twoDigits months.1 months.2 (by omega) _),
      bind_eq_of_ok (separator_eq (by decide) _),
      bind_eq_of_ok (reads_twoDigits days.1 (by omega) (by omega) _),
      bind_eq_of_ok (shown _)]
    simp only [true_or, if_true]
    have moved (rest : List Char) :
      (set rest : Parser PUnit) ('T' :: rest) = .ok (⟨⟩, rest) := rfl
    rw [bind_eq_of_ok (moved _),
      bind_eq_of_ok (reads_twoDigits (Nat.zero_le _) (by omega) (by omega) _),
      bind_eq_of_ok (separator_eq (by decide) _),
      bind_eq_of_ok (reads_twoDigits (Nat.zero_le _) (by omega) (by omega) _),
      bind_eq_of_ok (separator_eq (by decide) _),
      bind_eq_of_ok (reads_twoDigits (Nat.zero_le _) seconds (by omega) _),
      bind_eq_of_ok (fraction_eq moment.nanos_lt []),
      bind_eq_of_ok (blanks_eq (by decide) []),
      bind_eq_of_ok zulu, bind_eq_of_ok blanks_nil, bind_eq_of_ok (shown [])]
    simp only [List.isEmpty_nil, if_true, of?_numbers, of?_parts, Option.bind_some,
      ofLocal?_zero]
    rfl
  rw [parse, read]

end Shortlink.Time.Stamp
