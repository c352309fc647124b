import Shortlink.Proofs.Cache.Index
import Shortlink.Proofs.Cache.Memory
import Shortlink.Proofs.Text.Bytes

/-!
# The keys in a range

A server compares keys byte by byte, which is to compare them character by character. In this order
the keys that start with a stem stand together, the stem first. The range that is asked for begins
there and ends with the stem and the greatest character. It has all keys that start with the stem,
except for those that go on after the greatest character: a removal by stem, which takes them all
out of a cache in memory, leaves these in the server.
-/

namespace Shortlink.Cache.Redis

open Time (Moment)

/-! ## Between the bounds -/

/-- The key is between the bounds of the keys that start with the stem. -/
def isInRange (stem key : String) : Bool :=
  match Server.bound? (lowerBound stem), Server.bound? (upperBound stem) with
  | some low, some high => Server.isWithin low key && Server.isWithin key high
  | _, _ => false

/-- The key starts with the stem and the greatest character and goes on after that. -/
def IsBeyond (stem key : String) : Prop :=
  let last := stem ++ String.singleton lastChar
  Memory.hasStem last key = true ∧ key ≠ last

instance (stem key : String) : Decidable (IsBeyond stem key) :=
  inferInstanceAs (Decidable (_ ∧ _))

theorem le_lastChar (c : Char) : c ≤ lastChar := by
  have last : lastChar.val.toNat = 1114111 := by decide
  have valid := c.valid
  change c.val.toNat ≤ lastChar.val.toNat
  omega

/-- From a stem to the stem with the greatest character there is what starts with the stem, and
nothing that goes on after that character. -/
theorem between_iff {stem text : List Char} :
    ¬text < stem ∧ ¬stem ++ [lastChar] < text ↔
      stem <+: text ∧ ¬(stem ++ [lastChar] <+: text ∧ text ≠ stem ++ [lastChar]) := by
  constructor
  · rintro ⟨notBefore, notAfter⟩
    rcases List.le_iff_lt_or_eq.mp (List.not_lt.mp notAfter) with before | rfl
    · refine ⟨Memory.isPrefix_of_between notBefore before, ?_⟩
      rintro ⟨beyond, -⟩
      exact Memory.not_lt_of_isPrefix beyond before
    · exact ⟨List.prefix_append _ _, fun beyond => beyond.2 rfl⟩
  · rintro ⟨begins, notBeyond⟩
    refine ⟨Memory.not_lt_of_isPrefix begins, ?_⟩
    obtain ⟨rest, rfl⟩ := begins
    cases rest with
    | nil => exact Memory.not_lt_of_isPrefix (by simp)
    | cons c rest =>
        by_cases isLast : c = lastChar
        · subst isLast
          have atEnd : stem ++ lastChar :: rest = stem ++ [lastChar] := by
            by_contra other
            exact notBeyond ⟨by simp, other⟩
          rw [atEnd]
          exact List.lt_irrefl _
        · have less : c < lastChar := Char.not_le.mp fun greater =>
            isLast (Char.le_antisymm (le_lastChar c) greater)
          exact List.lt_asymm (List.append_left_lt (List.cons_lt_cons_iff.mpr (.inl less)))

theorem bound?_lowerBound (stem : String) : Server.bound? (lowerBound stem) = some stem := by
  simp [Server.bound?, lowerBound]

theorem bound?_upperBound (stem : String) :
    Server.bound? (upperBound stem) = some (stem ++ String.singleton lastChar) := by
  simp [Server.bound?, upperBound]

theorem isInRange_iff (stem key : String) :
    isInRange stem key = true ↔ Memory.hasStem stem key = true ∧ ¬IsBeyond stem key := by
  have same : key = stem ++ String.singleton lastChar ↔ key.toList = stem.toList ++ [lastChar] := by
    rw [← String.toList_inj, String.toList_append, String.toList_singleton]
  rw [isInRange, bound?_lowerBound, bound?_upperBound]
  simp only [Server.isWithin, Text.toUTF8_toList, ← List.not_lt, Text.bytes_lt_iff,
    Bool.and_eq_true, decide_eq_true_eq, String.toList_append, String.toList_singleton,
    between_iff, IsBeyond, Memory.hasStem_iff, ne_eq, same]

/-! ## What a removal by stem drops -/

namespace Server

variable {server : Server} {now : Moment} {second : Int}

/-- The answer has the members of the index that are in the range. -/
theorem command_range (holds : server.HoldsSet indexKey) (now : Moment) (stem : String) :
    ∃ found : List String,
      server.command now (rangeCommand stem) = (.list (found.map .text), server) ∧
        ∀ key, key ∈ found ↔ server.Lists key ∧ isInRange stem key = true := by
  rw [rangeCommand, command_of_ne (by decide)]
  simp only [carryOut, between, bound?_lowerBound, bound?_upperBound, entries_eq holds]
  refine ⟨_, rfl, fun key => ?_⟩
  rw [isInRange, bound?_lowerBound, bound?_upperBound]
  simp [inOrder, Lists]

/-- Between two states some keys were dropped, with their values, and nothing else has changed. -/
structure Drops (before after : Server) (isGone : String → Prop) : Prop where
  dropped : ∀ {key}, IsOrdinary key → isGone key → after.data key = none
  kept : ∀ {key}, IsOrdinary key → ¬isGone key → after.data key = before.data key
  lists : ∀ {key}, after.Lists key ↔ before.Lists key ∧ ¬isGone key

theorem drops_remove (indexed : Indexed server second) (now : Moment) {keys : List String}
    (ordinary : ∀ key ∈ keys, IsOrdinary key) :
    Drops server (server.transact now (removeCommands keys)).2 (· ∈ keys) := by
  have notIndex : indexKey ∉ keys := fun isKey => (ordinary indexKey isKey).1 rfl
  have notExpiry : expiryKey ∉ keys := fun isKey => (ordinary expiryKey isKey).2 rfl
  have leaves := transact_remove now notIndex notExpiry indexed.index indexed.expiry
  constructor
  · intro key isOrdinary isGone
    rw [leaves.others key isOrdinary.1 isOrdinary.2, data_without_of_mem isGone]
  · intro key isOrdinary notGone
    rw [leaves.others key isOrdinary.1 isOrdinary.2, data_without_of_not_mem server notGone]
  · intro key
    have same := members_of_data (data_without_of_not_mem server notIndex)
    simp only [lists_iff, leaves.members_index, mem_leave, same, exists_and_right]

/-- A removal by stem drops the members of the index that are in the range. -/
theorem removeAll_drops {state : Shared × Server} (indexed : Indexed state.2 second)
    (stem : String) :
    (Redis.removeAll stem).Assures surroundings (.alone _)
      (fun _ after => Drops state.2 after.2 fun key =>
        state.2.Lists key ∧ isInRange stem key = true) state := by
  rw [Eviction.removeAll_eq]
  apply Script.Assures.step_of_ok
  intro chance
  obtain ⟨found, listed, inRange⟩ := command_range indexed.index chance.now stem
  refine ⟨.list (found.map .text), state, ?_, ?_⟩
  · change (_, _, _) = _
    rw [listed]
    rfl
  · simp only [← inRange, texts_list]
    have ordinary : ∀ key ∈ found, IsOrdinary key := by
      intro key isFound
      obtain ⟨s, isEntry⟩ := lists_iff.mp ((inRange key).mp isFound).1
      exact indexed.ordinary_index _ isEntry
    cases found with
    | nil => exact ⟨fun _ isGone => absurd isGone List.not_mem_nil, fun _ _ => rfl, by simp⟩
    | cons page pages =>
        apply Script.Assures.step_of_ok
        intro later
        exact ⟨_, _, rfl, drops_remove indexed later.now ordinary⟩

end Server

namespace Change

/-- Of the keys that start with a stem a server is asked for those that do not go on after the
greatest character, and a removal by stem drops what is asked for. A cache in memory with the same
keys has the same keys after it, except for the ones that go on after the greatest character: these
are left in the server. -/
theorem removals_agree_iff {state : Shared × Server} {second : Int}
    (indexed : state.2.Indexed second) {cache : Memory} {time : Nat}
    (same : ∀ key, state.2.Lists key ↔ (cache.get? time key).isSome) (stem : String)
    (defaultTtl : Nat) (chance : Chance) :
    let after := ((removeAll stem).perform defaultTtl chance state).2
    let left := (cache.eraseAll time stem).2
    (∀ key, isInRange stem key = true ↔
        Memory.hasStem stem key = true ∧ ¬IsBeyond stem key) ∧
      state.2.Drops after (fun key => state.2.Lists key ∧ isInRange stem key = true) ∧
      ∀ key, (after.Lists key ↔ (left.get? time key).isSome) ↔
        ¬(state.2.Lists key ∧ IsBeyond stem key) := by
  intro after left
  have drops : state.2.Drops after _ :=
    (Server.removeAll_drops indexed stem).perform fun _ => chance
  refine ⟨isInRange_iff stem, drops, fun key => ?_⟩
  have inMemory : (left.get? time key).isSome ↔
      state.2.Lists key ∧ ¬Memory.hasStem stem key = true := by
    rw [same]
    cases isUnder : Memory.hasStem stem key with
    | true => simp [left, Memory.get?_eraseAll_of_hasStem isUnder]
    | false => simp [left, Memory.get?_eraseAll_of_not (Nat.le_refl time) isUnder]
  have isUnder (beyond : IsBeyond stem key) : Memory.hasStem stem key = true := by
    obtain ⟨rest, extended⟩ := Memory.hasStem_iff.mp beyond.1
    rw [Memory.hasStem_iff, ← extended, String.toList_append, List.append_assoc]
    exact List.prefix_append _ _
  rw [drops.lists, inMemory, isInRange_iff]
  tauto

/-- A key and one with the letter q are written at the same time. -/
def writes (key : String) (now : Moment) : List (Change × Chance) :=
  [(.set key "1" none, ⟨0, now, ⟨0⟩, false, ⟨0, .ok ()⟩⟩),
    (.set "q" "2" none, ⟨0, now, ⟨0⟩, false, ⟨0, .ok ()⟩⟩)]

theorem removals_agree_iff_of_two :
    let now : Moment := ⟨⟨2026, 1, 1, by decide, by decide, by decide⟩, 0, 0, 10, 0,
      by decide, by decide, by decide, by decide⟩
    let chance : Chance := ⟨0, now, ⟨0⟩, false, ⟨0, .ok ()⟩⟩
    let state := performAll 60 (⟨{}, none, 0⟩, {}) (writes "p1" now)
    let cache := (((Memory.empty 60).set 0 "p1" "1" none).2.set 0 "q" "2" none).2
    let after := ((removeAll "p").perform 60 chance state).2
    let left := (cache.eraseAll 0 "p").2
    state.2.Indexed now.unixSeconds ∧
      (∀ key, state.2.Lists key ↔ (cache.get? 0 key).isSome) ∧
      (∀ key, after.Lists key ↔ (left.get? 0 key).isSome) := by
  intro now chance state cache after left
  have indexed : state.2.Indexed now.unixSeconds := by
    refine performAll_indexed (Server.indexed_empty _) ?_ ?_
    · simp [writes, IsOrdinary, Redis.IsOrdinary, indexKey, expiryKey]
    · simp [writes]
  have members : state.2.members indexKey = [("p1", 0), ("q", 0)] := by decide +kernel
  have entries : cache.entries = [("p1", ⟨"1", 60000000000⟩), ("q", ⟨"2", 60000000000⟩)] := by
    decide +kernel
  have lists {key} : state.2.Lists key ↔ key = "p1" ∨ key = "q" := by
    simp [Server.Lists, members]
  have same (key : String) : state.2.Lists key ↔ (cache.get? 0 key).isSome := by
    rw [lists, Memory.get?, entries]
    by_cases first : key = "p1"
    · simp [first, Memory.isLive]
    · by_cases second : key = "q"
      · simp [second, List.lookup_cons, Memory.isLive]
      · simp [first, second, List.lookup_cons, beq_eq_false_iff_ne.mpr]
  refine ⟨indexed, same, fun key => ?_⟩
  refine ((removals_agree_iff indexed same "p" 60 chance).2.2 key).mpr ?_
  rw [lists]
  rintro ⟨rfl | rfl, beyond⟩
  · exact absurd beyond (by decide)
  · exact absurd beyond (by decide)

/-- A key that goes on after the greatest character starts with its first letter as well. A removal
of all keys with that letter takes it out of a cache in memory and leaves it in the server. -/
theorem removal_misses_key :
    let now : Moment := ⟨⟨2026, 1, 1, by decide, by decide, by decide⟩, 0, 0, 10, 0,
      by decide, by decide, by decide, by decide⟩
    let chance : Chance := ⟨0, now, ⟨0⟩, false, ⟨0, .ok ()⟩⟩
    let key := "p" ++ String.singleton lastChar ++ "x"
    let server := ((removeAll "p").perform 60 chance
      (performAll 60 (⟨{}, none, 0⟩, {}) (writes key now))).2
    let cache := ((Memory.empty 60).set 0 key "1" none).2
    Memory.hasStem "p" key = true ∧ isInRange "p" key = false ∧ server.Lists key ∧
      server.find now key = some (.text "1" (now.unixNanos + 60000000000)) ∧
      cache.eraseAll 0 "p" = (1, Memory.empty 60) := by
  decide +kernel

end Change

end Shortlink.Cache.Redis
