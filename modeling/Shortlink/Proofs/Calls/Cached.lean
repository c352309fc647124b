import Shortlink.Proofs.Cache.Memory
import Shortlink.Proofs.Calls.Shared

/-!
# What requests do to the cache

One lemma for each request to the cache: what it replies and which entries it leaves. All
entries count, also those that have expired, so nothing depends on the time but whether a
value can be cached at all.
-/

namespace Shortlink.Shared

open Cache (Entry Memory)

/-- The entries of the cache, expired ones included. -/
def entries (shared : Shared) : List (String × Entry) :=
  match shared.cache with
  | none => []
  | some cache => cache.entries

/-- A value that is cached for so many seconds expires at a moment that can be represented. -/
def CanKeep (shared : Shared) (ttl : Option Nat) : Prop :=
  ∀ cache ∈ shared.cache, Memory.CanExpire shared.ticks (ttl.getD cache.defaultTtl)

variable {shared : Shared} {key value : String}

theorem answer_cacheGet (chance : Chance) (key : String) (shared : Shared) :
    ∃ found, answer chance (.cacheGet key) shared =
        (.ok (.ok found), shared.later chance.elapsed) ∧
      ∀ text ∈ found, ∃ entry, (key, entry) ∈ shared.entries ∧ entry.value = text := by
  rcases shared with ⟨store, cache, ticks⟩
  cases cache with
  | none => exact ⟨none, rfl, fun text isFound => nomatch isFound⟩
  | some cache =>
      refine ⟨cache.get? (ticks + chance.elapsed) key, rfl, ?_⟩
      intro text isFound
      exact Memory.exists_of_get? isFound

/-- A write to the cache adds one entry at most, and fails only where the entry could not
expire. -/
theorem answer_cacheSet (chance : Chance) (key value : String) (ttl : Option Nat)
    (shared : Shared) :
    ∃ reply after, answer chance (.cacheSet key value ttl) shared = (reply, after) ∧
      after.store = shared.store ∧
      (∀ item ∈ after.entries, item ∈ shared.entries ∨ item.1 = key ∧ item.2.value = value) ∧
      (reply = .ok (.ok ()) ∨ reply = .error .expiryOverflow ∧ ¬after.CanKeep ttl) := by
  rcases shared with ⟨store, cache, ticks⟩
  cases cache with
  | none =>
      refine ⟨.ok (.ok ()), _, rfl, rfl, ?_, .inl rfl⟩
      intro item member
      exact .inl member
  | some cache =>
      let now := ticks + chance.elapsed
      refine ⟨(cache.set now key value ttl).1.map .ok,
        ⟨store, some (cache.set now key value ttl).2, now⟩, rfl, rfl, ?_, ?_⟩
      · intro item member
        exact Memory.mem_of_mem_set member
      · rcases Memory.set_cases cache now key value ttl with
          ⟨-, written⟩ | ⟨cannotExpire, refused⟩
        · left
          rw [written]
          rfl
        · right
          constructor
          · rw [refused]
            rfl
          · intro canKeep
            have kept := canKeep _ rfl
            rw [Memory.set_defaultTtl] at kept
            exact cannotExpire kept

theorem answer_cacheRemove (chance : Chance) (key : String) (shared : Shared) :
    ∃ after, answer chance (.cacheRemove key) shared = (.ok (.ok ()), after) ∧
      after.store = shared.store ∧
      ∀ item ∈ after.entries, item ∈ shared.entries ∧ item.1 ≠ key := by
  rcases shared with ⟨store, cache, ticks⟩
  cases cache with
  | none => exact ⟨_, rfl, rfl, fun item member => nomatch member⟩
  | some cache => exact ⟨_, rfl, rfl, fun item member => Memory.mem_erase.mp member⟩

theorem answer_cacheRemoveAll (chance : Chance) (stem : String) (shared : Shared) :
    ∃ count after, answer chance (.cacheRemoveAll stem) shared = (.ok (.ok count), after) ∧
      after.store = shared.store ∧
      ∀ item ∈ after.entries, item ∈ shared.entries ∧ Memory.hasStem stem item.1 = false := by
  rcases shared with ⟨store, cache, ticks⟩
  cases cache with
  | none => exact ⟨0, _, rfl, rfl, fun item member => nomatch member⟩
  | some cache =>
      refine ⟨_, _, rfl, rfl, ?_⟩
      intro item member
      obtain ⟨⟨earlier, -⟩, other⟩ := Memory.mem_eraseAll.mp member
      exact ⟨earlier, other⟩

/-- Only writes add entries, and the entries that a request drops are gone afterwards. -/
theorem mem_entries_of_mem_answer {request : Effect}
    (isNoWrite : ∀ key value ttl, request ≠ .cacheSet key value ttl) (chance : Chance)
    {shared : Shared} {item : String × Entry}
    (member : item ∈ (answer chance request shared).2.entries) :
    item ∈ shared.entries ∧ request ≠ .cacheRemove item.1 := by
  cases request with
  | cacheSet key value ttl => exact absurd rfl (isNoWrite key value ttl)
  | cacheRemove key =>
      obtain ⟨after, answered, -, entries⟩ := answer_cacheRemove chance key shared
      rw [answered] at member
      have kept := entries item member
      refine ⟨kept.1, ?_⟩
      intro same
      cases same
      exact kept.2 rfl
  | cacheRemoveAll stem =>
      obtain ⟨count, after, answered, -, entries⟩ := answer_cacheRemoveAll chance stem shared
      rw [answered] at member
      exact ⟨(entries item member).1, nofun⟩
  | cacheGet key =>
      obtain ⟨found, answered, -⟩ := answer_cacheGet chance key shared
      rw [answered] at member
      exact ⟨member, nofun⟩
  | _ => exact ⟨member, nofun⟩

end Shortlink.Shared
