import Shortlink.Proofs.Calls.Sequence
import Shortlink.Proofs.Link.Numeral
import Shortlink.Proofs.Link.Service

/-!
# Codes that can be drawn

Six bits of a random id are fixed: the version and the variant. Below them are 62 bits that can
have any value, so an id can stand for any number modulo the number of all codes, as long as
there are no more codes than these bits count. Then every text of the right length over the
alphabet is the code of some id. A search ends with the first code drawn that is free, so any free
code can be the next one to end it.
-/

namespace Shortlink

/-! ## Random ids -/

/-- A mask that has no bit in common with a number does not change it. -/
theorem and_not_of_apart {w : Nat} {bits mask : BitVec w} (apart : bits &&& mask = 0#w) :
    bits &&& ~~~mask = bits := by
  apply BitVec.eq_of_getElem_eq
  intro i inside
  have unset : (bits &&& mask)[i] = false := by rw [apart, BitVec.getElem_zero]
  rw [BitVec.getElem_and] at unset
  rw [BitVec.getElem_and, BitVec.getElem_not]
  cases isSet : bits[i] with
  | false => rfl
  | true =>
      rw [isSet, Bool.true_and] at unset
      rw [unset]
      rfl

namespace Uuid

/-- The id has the version of random ids, which is 4, and the variant of all ids, which is 2. -/
def IsRandom (id : Uuid) : Prop :=
  id.bits.extractLsb' 76 4 = 4#4 ∧ id.bits.extractLsb' 62 2 = 2#2

theorem isRandom_ofRandom (bits : BitVec 128) : (ofRandom bits).IsRandom := by
  constructor
  · apply BitVec.eq_of_getLsbD_eq
    intro i small
    interval_cases i <;> simp [ofRandom]
  · apply BitVec.eq_of_getLsbD_eq
    intro i small
    interval_cases i <;> simp [ofRandom]

theorem and_eq_zero_of_high {low : Nat} (small : low < 2 ^ 62) (mask : BitVec 128)
    (isHigh : mask.toNat % 2 ^ 62 = 0) : BitVec.ofNat 128 low &&& mask = 0#128 := by
  apply BitVec.eq_of_getLsbD_eq
  intro i _
  rw [BitVec.getLsbD_and, BitVec.getLsbD_ofNat, BitVec.getLsbD_zero]
  by_cases isLow : i < 62
  · have unset : (mask.toNat % 2 ^ 62).testBit i = false := by rw [isHigh, Nat.zero_testBit]
    rw [Nat.testBit_mod_two_pow, decide_eq_true isLow, Bool.true_and] at unset
    rw [BitVec.getLsbD, unset, Bool.and_false]
  · have below : low < 2 ^ i :=
      small.trans_le (Nat.pow_le_pow_right Nat.two_pos (not_lt.mp isLow))
    rw [Nat.testBit_lt_two_pow below, Bool.and_false, Bool.false_and]

/-- The number of a random id whose bits above the fixed ones are zero. -/
theorem toNat_ofRandom {low : Nat} (small : low < 2 ^ 62) :
    (ofRandom (.ofNat 128 low)).toNat = low + 0x40008000000000000000 := by
  have cleared := and_eq_zero_of_high small 0x000000000000F000C000000000000000#128 rfl
  have apart := and_eq_zero_of_high small 0x00000000000040008000000000000000#128 rfl
  rw [ofRandom, toNat, and_not_of_apart cleared, ← BitVec.add_eq_or_of_and_eq_zero _ _ apart,
    BitVec.toNat_add_of_and_eq_zero apart, BitVec.toNat_ofNat, Nat.mod_eq_of_lt (by omega)]
  rfl

/-- A random id can be any number modulo one that the free bits below the fixed ones can count
up to. -/
theorem exists_ofRandom {modulus : Nat} (positive : 0 < modulus) (few : modulus ≤ 2 ^ 62)
    (value : Nat) : ∃ bits, (ofRandom bits).toNat ≡ value [MOD modulus] := by
  let fixed := 0x40008000000000000000
  let low := (value + (modulus * fixed - fixed)) % modulus
  have small : low < 2 ^ 62 := (Nat.mod_lt _ positive).trans_le few
  have enough : fixed ≤ modulus * fixed := Nat.le_mul_of_pos_left fixed positive
  refine ⟨.ofNat 128 low, ?_⟩
  rw [toNat_ofRandom small]
  calc low + fixed
    _ ≡ value + (modulus * fixed - fixed) + fixed [MOD modulus] :=
      (Nat.mod_modEq _ _).add_right fixed
    _ = value + modulus * fixed := by omega
    _ ≡ value [MOD modulus] := by rw [Nat.ModEq, Nat.add_mul_mod_self_left]

end Uuid

/-! ## Searches -/

variable {codes : CodeSettings} {chances : Chances}

/-- A draw ends the search if its code is free; between a draw and the next one is a look into the
store. -/
theorem Shared.perform_freeCode_succ (shared : Shared) {code : String}
    (made : Code.ofUuid codes (chances 0).id = .ok code) (draws : Nat) :
    (shared.perform chances (LinkService.freeCode codes (draws + 1)).attempt).1 =
      if shared.store.hasCode code then
        (((shared.later (chances 0).elapsed).later (chances 1).elapsed).perform
          (fun n => chances (n + 2)) (LinkService.freeCode codes draws).attempt).1
      else .ok (.ok code) := by
  let id := (chances 0).id
  let later := shared.later (chances 0).elapsed
  have drawn : surroundings.answer (chances 0) .newId shared = (.ok id, later) := rfl
  have looked : surroundings.answer (chances 1) (.codeExists code) later =
    (.ok (.ok (shared.store.hasCode code)), later.later (chances 1).elapsed) := rfl
  rw [LinkService.freeCode_succ]
  refine (congrArg Prod.fst (Surroundings.perform_ask_of_ok drawn)).trans ?_
  simp only [id, made]
  refine (congrArg Prod.fst (Surroundings.perform_ask_of_ok looked)).trans ?_
  cases shared.store.hasCode code with
  | true => rfl
  | false => rfl

/-- The search ends with the first code drawn that is free. -/
theorem Shared.perform_freeCode {shared : Shared} {draws before : Nat} {code : String}
    (within : before < draws)
    (taken : ∀ earlier < before, ∃ other, Code.ofUuid codes (chances (2 * earlier)).id = .ok other ∧
      shared.store.hasCode other = true)
    (made : Code.ofUuid codes (chances (2 * before)).id = .ok code)
    (free : shared.store.hasCode code = false) :
    (shared.perform chances (LinkService.freeCode codes draws).attempt).1 = .ok (.ok code) := by
  induction before generalizing shared chances draws with
  | zero =>
      obtain ⟨draws, rfl⟩ := Nat.exists_eq_succ_of_ne_zero (Nat.ne_zero_of_lt within)
      rw [perform_freeCode_succ shared made, free]
      rfl
  | succ before ih =>
      obtain ⟨draws, rfl⟩ := Nat.exists_eq_succ_of_ne_zero (Nat.ne_zero_of_lt within)
      obtain ⟨other, otherMade, isTaken⟩ := taken 0 (Nat.succ_pos before)
      rw [perform_freeCode_succ shared otherMade, isTaken, if_pos rfl]
      exact ih (Nat.lt_of_succ_lt_succ within)
        (fun earlier isEarlier => taken (earlier + 1) (Nat.succ_lt_succ isEarlier)) made free

/-! ## Codes of given texts -/

namespace Code

variable {alphabet text : List Char}

/-- A text over the alphabet is spelt by the places of its characters. -/
theorem spell_map_idxOf (spelt : ∀ c ∈ text, c ∈ alphabet) :
    spell alphabet (text.map alphabet.idxOf) = text := by
  rw [spell, List.map_map]
  refine (List.map_congr_left fun c member => ?_).trans (List.map_id text)
  have isDigit : alphabet.idxOf c < alphabet.length := List.idxOf_lt_length_of_mem (spelt c member)
  rw [Function.comp_apply, List.getD_eq_getElem _ _ isDigit]
  exact List.getElem_idxOf isDigit

/-- A text over the alphabet is the code of the numbers that it stands for. -/
theorem numeral_eq_of_modEq (isBase : 1 < alphabet.length) (spelt : ∀ c ∈ text, c ∈ alphabet)
    {value : BitVec 128}
    (stands : value.toNat ≡ valueOf alphabet text [MOD alphabet.length ^ text.length]) :
    numeral value alphabet text.length = text := by
  have isDigit : ∀ digit ∈ (text.map alphabet.idxOf).reverse, digit < alphabet.length := by
    intro digit member
    obtain ⟨c, inText, rfl⟩ := List.mem_map.mp (List.mem_reverse.mp member)
    exact List.idxOf_lt_length_of_mem (spelt c inText)
  have length : ((text.map alphabet.idxOf).reverse).length = text.length := by simp
  have digits : lastDigits alphabet.length text.length value.toNat =
      (text.map alphabet.idxOf).reverse := by
    apply Nat.ofDigits_inj_of_len_eq isBase
    · rw [length_lastDigits, length]
    · exact fun digit => lt_of_mem_lastDigits isBase
    · exact isDigit
    · have bound := Nat.ofDigits_lt_base_pow_length isBase isDigit
      rw [length, ← valueOf_eq] at bound
      rw [ofDigits_lastDigits isBase, ← valueOf_eq, stands, Nat.mod_eq_of_lt bound]
  rw [numeral_eq_spell isBase, digits, spell, List.map_reverse, List.reverse_reverse, ← spell,
    spell_map_idxOf spelt]

/-- Few codes are short ones. -/
theorem length_le_of_few {length bound : Nat} (isBase : 2 ≤ alphabet.length)
    (few : alphabet.length ^ length ≤ 2 ^ bound) : length ≤ bound :=
  (Nat.pow_le_pow_iff_right Nat.one_lt_two).mp
    ((Nat.pow_le_pow_left isBase length).trans few)

/-- As long as there are at most `2 ^ 62` codes, each of them is made from an id with the version
and the variant of random ids. So a search over any store can end with any code that is free,
whatever taken codes have been drawn before: it does if this id is drawn next. -/
theorem every_code_can_be_drawn {length : Nat} {settings : CodeSettings}
    (made : CodeSettings.of length alphabet = .ok settings)
    (few : alphabet.length ^ length ≤ 2 ^ 62) (isLong : text.length = length)
    (spelt : ∀ c ∈ text, c ∈ alphabet) :
    ∃ bits, (Uuid.ofRandom bits).IsRandom ∧
      ofUuid settings (.ofRandom bits) = .ok (.ofList text) ∧
      ∀ (shared : Shared) (chances : Chances) (draws before : Nat), before < draws →
        (∀ earlier < before, ∀ other, ofUuid settings (chances (2 * earlier)).id = .ok other →
          shared.store.hasCode other = true) →
        shared.store.hasCode (.ofList text) = false →
        (chances (2 * before)).id = .ofRandom bits →
        (shared.perform chances (LinkService.freeCode settings draws).attempt).1 =
          .ok (.ok (.ofList text)) := by
  obtain ⟨rfl, rfl⟩ := CodeSettings.of_eq_ok made
  have isBase := settings.alphabet_size
  have positive : 0 < settings.alphabet.length ^ settings.length :=
    Nat.pow_pos (Nat.zero_lt_of_lt isBase)
  obtain ⟨bits, stands⟩ := Uuid.exists_ofRandom positive few (valueOf settings.alphabet text)
  rw [← isLong] at stands
  have short : settings.length ≤ 2 ^ 60 :=
    (length_le_of_few isBase few).trans (by decide)
  have isCode : ofUuid settings (.ofRandom bits) = .ok (.ofList text) := by
    rw [ofUuid, encode_of_short short, ← isLong, numeral_eq_of_modEq isBase spelt stands]
    rfl
  refine ⟨bits, Uuid.isRandom_ofRandom bits, isCode, ?_⟩
  intro shared chances draws before within taken free drawn
  refine Shared.perform_freeCode within (fun earlier isEarlier => ?_) (drawn ▸ isCode) free
  have made := congrArg (Except.map String.ofList)
    (encode_of_short short (chances (2 * earlier)).id.bits settings.alphabet)
  exact ⟨_, made, taken earlier isEarlier _ made⟩

/-- With two characters there are `2 ^ 62` codes of 62 characters. -/
theorem every_code_can_be_drawn_of_bits :
    let alphabet := ['0', '1']
    let text := List.replicate 62 '1'
    let shared : Shared := ⟨{}, none, 0⟩
    ∃ settings, CodeSettings.of 62 alphabet = .ok settings ∧ alphabet.length ^ 62 ≤ 2 ^ 62 ∧
      text.length = 62 ∧ (∀ c ∈ text, c ∈ alphabet) ∧
      ∃ bits, (Uuid.ofRandom bits).IsRandom ∧
        ofUuid settings (.ofRandom bits) = .ok (.ofList text) ∧
        ∀ chances : Chances, (chances 0).id = .ofRandom bits →
          (shared.perform chances (LinkService.freeCode settings 1).attempt).1 =
            .ok (.ok (.ofList text)) := by
  intro alphabet text shared
  have made : CodeSettings.of 62 alphabet =
      .ok ⟨62, alphabet, by decide, by decide, by decide⟩ := rfl
  have few : alphabet.length ^ 62 ≤ 2 ^ 62 := Nat.le_refl _
  have isLong : text.length = 62 := List.length_replicate
  have spelt : ∀ c ∈ text, c ∈ alphabet := by
    intro c member
    rw [List.eq_of_mem_replicate member]
    decide
  obtain ⟨bits, isRandom, isCode, ends⟩ := every_code_can_be_drawn made few isLong spelt
  refine ⟨_, made, few, isLong, spelt, bits, isRandom, isCode, fun chances drawn => ?_⟩
  exact ends shared chances 1 0 Nat.one_pos (fun _ isEarlier => nomatch isEarlier) rfl drawn

/-- With one character more the first digit is a bit of the variant, which is zero: half of the
codes are never drawn. -/
theorem valueOf_lt_of_bits (isBinary : alphabet.length = 2) (distinct : alphabet.Nodup)
    {bits : BitVec 128} (made : encode (Uuid.ofRandom bits).bits alphabet 63 = .ok text) :
    valueOf alphabet text < 2 ^ 62 := by
  rw [eq_numeral_of_encode made, valueOf_numeral (by omega) distinct, isBinary]
  apply Nat.lt_pow_two_of_testBit
  intro i high
  rw [Nat.testBit_mod_two_pow]
  rcases high.eq_or_lt with rfl | higher
  · have unset : (Uuid.ofRandom bits).bits.getLsbD 62 = false := by simp [Uuid.ofRandom]
    rw [← BitVec.getLsbD, unset, Bool.and_false]
  · rw [decide_eq_false (by omega), Bool.false_and]

end Code

end Shortlink
