import Mathlib.Algebra.Group.Nat.Defs
import Shortlink.Postgres.Migration
import Shortlink.Proofs.Settings.Check

/-!
# Codes and their column

A code has exactly as many characters as are asked for, whatever number it is made from, and there
is a code unless these are more than there can be room for. The column that codes are stored in
takes a limited number of characters, which only the script of the tables says. The check of a
configuration does not know of that limit, so it is the configured length alone that decides
whether the codes of a configuration fit, and then it decides for all of them.
-/

namespace Shortlink

/-! ## The length of a code -/

namespace Code

variable {digits length : Nat}

/-- Missing digits are filled up and the ones in excess are cut off. -/
theorem length_numeral (value : BitVec 128) (alphabet : List Char) (length : Nat) :
    (numeral value alphabet length).length = length := by
  have cut : ((digitsReversed alphabet 128 value.toNat).take length).length ≤ length :=
    List.length_take_le _ _
  rw [numeral, List.length_reverse, List.length_append, List.length_replicate]
  exact Nat.add_sub_cancel' cut

/-- Half of what can be held leaves room for everything. -/
theorem room_le_maxRow (short : length ≤ 2 ^ 60) (digits : Nat) : room digits length ≤ maxRow := by
  have most : maxRow = 2 ^ 61 - 1 := rfl
  rw [room, most]
  split <;> omega

theorem length_le_room (digits length : Nat) : length ≤ room digits length := by
  rw [room]
  split <;> omega

variable {alphabet : List Char} {value : BitVec 128}

/-- There is one code at most that is made from a number. -/
theorem eq_numeral_of_encode {code : List Char} (made : encode value alphabet length = .ok code) :
    code = numeral value alphabet length := by
  rw [encode] at made
  split at made
  · cases made
    rfl
  · contradiction

theorem encode_of_short (short : length ≤ 2 ^ 60) (value : BitVec 128) (alphabet : List Char) :
    encode value alphabet length = .ok (numeral value alphabet length) := by
  rw [encode, if_pos (room_le_maxRow short _)]

theorem encode_of_long (long : 2 ^ 61 ≤ length) (value : BitVec 128) (alphabet : List Char) :
    encode value alphabet length = .error .capacityOverflow := by
  have most : maxRow = 2 ^ 61 - 1 := rfl
  have atLeast := length_le_room (digitsReversed alphabet 128 value.toNat).length length
  rw [encode, if_neg (by omega)]

/-- Only very long codes are not made. -/
theorem encode_eq_error {cause : Abort} (broken : encode value alphabet length = .error cause) :
    cause = .capacityOverflow ∧ 2 ^ 60 < length := by
  rcases Nat.lt_or_ge (2 ^ 60) length with long | short
  · rw [encode] at broken
    split at broken
    · contradiction
    · cases broken
      exact ⟨rfl, long⟩
  · rw [encode_of_short short] at broken
    contradiction

end Code

theorem CodeSettings.of_eq_ok {length : Nat} {alphabet : List Char} {settings : CodeSettings}
    (made : CodeSettings.of length alphabet = .ok settings) :
    settings.length = length ∧ settings.alphabet = alphabet := by
  unfold CodeSettings.of at made
  split at made
  · split at made
    · split at made
      · cases made
        exact ⟨rfl, rfl⟩
      · cases made
    · cases made
  · cases made

/-- The settings of codes are the configured ones. -/
theorem Settings.Config.codes_eq_ok {config : Config} {settings : CodeSettings}
    (found : config.codes = .ok settings) :
    settings.length = config.codeLength ∧ settings.alphabet = config.codeAlphabet.toList := by
  unfold Config.codes at found
  cases made : CodeSettings.of config.codeLength config.codeAlphabet.toList with
  | error error =>
      rw [made] at found
      cases found
  | ok configured =>
      rw [made] at found
      cases found
      exact CodeSettings.of_eq_ok made

/-! ## The width of a column -/

namespace Postgres.Migration

/-- The words of a script, as blanks and line ends separate them. -/
def words (script : String) : List (List Char) :=
  (Text.piecesAt ' ' (script.toList.map fun c => if c = '\n' then ' ' else c)).filter
    fun word => !word.isEmpty

/-- The type of a column of a table that a migration makes: the word after the column's name. -/
def columnType? (migration : Migration) (table column : String) : Option (List Char) :=
  let fromTable := (words migration.script).dropWhile (· != table.toList)
  (fromTable.dropWhile (· != column.toList))[1]?

/-- The number of characters that a column takes, where its type is a text with a limit. -/
def columnWidth? (migration : Migration) (table column : String) : Option Nat := do
  let (kind, limit) ← Text.splitAtFirst? '(' (← migration.columnType? table column)
  let (digits, rest) ← Text.splitAtFirst? ')' limit
  if kind = "VARCHAR".toList ∧ rest = [] then
    (Text.readNatural Number.maxWord32 digits).toOption
  else none

/-- A text can be stored in a column with a limit. -/
def Fits (migration : Migration) (table column : String) (text : List Char) : Prop :=
  ∃ width, migration.columnWidth? table column = some width ∧ text.length ≤ width

set_option maxRecDepth 8000 in
theorem columnWidth?_code :
    initial.columnWidth? "shortened_urls" "code" = some 64 := by
  -- Evaluation alone would decode the script's bytes, which takes minutes.
  have letters : initial.script.toList = _ := String.toList_ofList
  rw [columnWidth?, columnType?, words, letters]
  decide +kernel

theorem fits_code_iff {text : List Char} :
    initial.Fits "shortened_urls" "code" text ↔ text.length ≤ 64 := by
  simp only [Fits, columnWidth?_code, Option.some.injEq, exists_eq_left']

end Postgres.Migration

/-! ## Codes of accepted configurations -/

namespace Settings.Config

open Postgres (Migration)

/-- With a configuration that is accepted, a code is made from every number, unless more than
`2 ^ 60` characters are asked for. A code that is made has the configured length, and it fits the
column of codes exactly if that length is at most 64. -/
theorem accepted_codes_fit_iff {config : Config} (accepted : config.check = .ok ()) :
    ∃ settings, config.codes = .ok settings ∧ ∀ value : BitVec 128,
      let made := Code.encode value settings.alphabet settings.length
      (config.codeLength ≤ 2 ^ 60 → ∃ code, made = .ok code) ∧
        ∀ code, made = .ok code →
          code.length = config.codeLength ∧
          (Migration.initial.Fits "shortened_urls" "code" code ↔ config.codeLength ≤ 64) := by
  obtain ⟨settings, found⟩ := (check_eq_ok.mp accepted).codes
  have configured : settings.length = config.codeLength := (codes_eq_ok found).1
  refine ⟨settings, found, fun value => ⟨fun short => ?_, fun code made => ?_⟩⟩
  · rw [← configured] at short
    exact ⟨_, Code.encode_of_short short value settings.alphabet⟩
  · have length : code.length = config.codeLength := by
      rw [Code.eq_numeral_of_encode made, Code.length_numeral, configured]
    refine ⟨length, ?_⟩
    rw [Migration.fits_code_iff, length]

/-- A configuration that asks for nothing but a database. -/
def withDatabase : Config := { databaseUrl := "postgres://localhost/links" }

theorem accepted_codes_fit_iff_of_standard :
    withDatabase.check = .ok () ∧
      ∃ settings, withDatabase.codes = .ok settings ∧ ∀ value : BitVec 128,
        ∃ code, Code.encode value settings.alphabet settings.length = .ok code ∧
          code.length = 7 ∧ Migration.initial.Fits "shortened_urls" "code" code := by
  have accepted : withDatabase.check = .ok () := by rfl
  obtain ⟨settings, found, fit⟩ := accepted_codes_fit_iff accepted
  refine ⟨accepted, settings, found, fun value => ?_⟩
  obtain ⟨always, laws⟩ := fit value
  obtain ⟨code, made⟩ := always (by decide)
  obtain ⟨length, fits⟩ := laws code made
  exact ⟨code, made, length, fits.mpr (by decide)⟩

/-- A length of 65 is accepted, and no code of that length can be stored. -/
theorem accepts_codes_too_wide :
    let config : Config := { withDatabase with codeLength := 65 }
    config.check = .ok () ∧
      ∃ settings, config.codes = .ok settings ∧ ∀ value : BitVec 128,
        ∃ code, Code.encode value settings.alphabet settings.length = .ok code ∧
          code.length = 65 ∧ ¬ Migration.initial.Fits "shortened_urls" "code" code := by
  refine ⟨by rfl, { CodeSettings.standard with length := 65, length_pos := by decide }, by rfl,
    fun value => ⟨_, Code.encode_of_short (by decide) _ _, Code.length_numeral _ _ _, ?_⟩⟩
  rw [Migration.fits_code_iff, Code.length_numeral]
  decide

end Settings.Config

end Shortlink
