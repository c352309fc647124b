import Shortlink.Cache.Through
import Shortlink.Proofs.Calls.Cached
import Shortlink.Proofs.Script.Alone
import Shortlink.Proofs.Script.Requests

/-!
# Reading through the cache

Where a load only looks at the store, a reading has four ways to end: a cached value that can
be read counts, or else the load decides, and what it gives is cached, unless it has no moment
to expire at.
-/

namespace Shortlink.Cache

variable {α : Type}

/-- What a look into the cache has come to. -/
def seen (codec : Codec α) : Except CacheError (Option String) → Option α
  | .ok (some text) => codec.decode? text
  | .ok none => none
  | .error _ => none

theorem keep_eq (codec : Codec α) (key : String) (ttl : Option Nat) (value : α) :
    keep codec key ttl value =
      match codec.encode? value with
      | some text => .ask (Effect.cacheSet key text ttl) fun _ => .done ()
      | none => .done () := by
  unfold keep
  cases codec.encode? value with
  | none => rfl
  | some text => rfl

theorem getOrLoad_eq (codec : Codec α) (key : String) (ttl : Option Nat) (load : Action α) :
    (getOrLoad codec key ttl load).attempt =
      .ask (Effect.cacheGet key) fun reply =>
        match seen codec reply with
        | some value => .done (.ok value)
        | none =>
          load.attempt.andThen fun
            | .error failure => .done (.error failure)
            | .ok value => (keep codec key ttl value).andThen fun _ => .done (.ok value) := by
  have missed : ExceptT.run (load >>= fun value => do
        keep codec key ttl value
        pure value) =
      load.attempt.andThen fun
        | .error failure => .done (.error failure)
        | .ok value => (keep codec key ttl value).andThen fun _ => .done (.ok value) := by
    apply Script.andThen_congr
    intro result
    cases result with
    | error failure => rfl
    | ok value =>
        refine (Script.andThen_assoc (keep codec key ttl value) _ _).trans ?_
        refine Script.andThen_congr _ fun _ => rfl
  apply Script.ask_congr
  intro reply
  match reply with
  | .error error => exact missed
  | .ok none => exact missed
  | .ok (some text) =>
      simp only [seen, Script.andThen_done]
      cases codec.decode? text with
      | some value => rfl
      | none => exact missed

/-- What calls share, but for the time. -/
def SameData (shared other : Shared) : Prop :=
  other.store = shared.store ∧ other.cache = shared.cache

theorem SameData.entries {shared other : Shared} (same : SameData shared other) :
    other.entries = shared.entries := by
  rw [Shared.entries, Shared.entries, same.2]

/-- How a reading through the cache can end where a load comes to `loaded`. -/
inductive Reading (codec : Codec α) (key : String) (ttl : Option Nat)
    (loaded : Except Abort (Except Failure α)) (before : Shared) :
    Except Abort (Except Failure α) → Shared → Prop where
  /-- A cached value counts. -/
  | hit {value : α} {entry : Entry} {after : Shared} (held : (key, entry) ∈ before.entries)
      (read : codec.decode? entry.value = some value) (same : SameData before after) :
      Reading codec key ttl loaded before (.ok (.ok value)) after
  /-- The load has come to nothing that could be cached. -/
  | unloaded {after : Shared} (nothing : ∀ value, loaded ≠ .ok (.ok value))
      (same : SameData before after) : Reading codec key ttl loaded before loaded after
  /-- The value that was loaded is cached. -/
  | kept {value : α} {after : Shared} (isLoaded : loaded = .ok (.ok value))
      (store : after.store = before.store)
      (entries : ∀ item ∈ after.entries,
        item ∈ before.entries ∨ item.1 = key ∧ codec.encode? value = some item.2.value) :
      Reading codec key ttl loaded before (.ok (.ok value)) after
  /-- The value that was loaded has no moment to expire at. -/
  | unkept {value : α} {after : Shared} (isLoaded : loaded = .ok (.ok value))
      (cannotKeep : ¬after.CanKeep ttl) (store : after.store = before.store)
      (entries : ∀ item ∈ after.entries,
        item ∈ before.entries ∨ item.1 = key ∧ codec.encode? value = some item.2.value) :
      Reading codec key ttl loaded before (.error .expiryOverflow) after

/-- The load only looks at the store, and comes to `loaded`. -/
def Loads (load : Action α) (loaded : Except Abort (Except Failure α)) (before : Shared) : Prop :=
  ∀ shared, SameData before shared →
    load.attempt.Assures Shared.surroundings (.alone Shared)
      (fun result after => result = loaded ∧ SameData before after) shared

theorem keep_assures {codec : Codec α} {key : String} {ttl : Option Nat} {value : α}
    {before shared : Shared} {loaded : Except Abort (Except Failure α)}
    (isLoaded : loaded = .ok (.ok value)) (same : SameData before shared) :
    ((keep codec key ttl value).andThen fun _ => .done (.ok value)).Assures Shared.surroundings
      (.alone Shared) (Reading codec key ttl loaded before) shared := by
  rw [keep_eq]
  cases encoded : codec.encode? value with
  | none => exact .kept isLoaded same.1 (fun item member => .inl (same.entries ▸ member))
  | some text =>
      apply Script.Assures.step
      intro chance
      obtain ⟨reply, after, answered, store, entries, outcome⟩ :=
        Shared.answer_cacheSet chance key text ttl shared
      have store : after.store = before.store := store.trans same.1
      have entries : ∀ item ∈ after.entries,
          item ∈ before.entries ∨ item.1 = key ∧ codec.encode? value = some item.2.value := by
        intro item member
        rw [← same.entries, encoded]
        rcases entries item member with earlier | ⟨isKey, isText⟩
        · exact .inl earlier
        · exact .inr ⟨isKey, congrArg some isText.symm⟩
      have answered : Shared.surroundings.answer chance (.cacheSet key text ttl) shared =
        (reply, after) := answered
      rw [answered]
      rcases outcome with rfl | ⟨rfl, cannotKeep⟩
      · exact Reading.kept isLoaded store entries
      · exact Reading.unkept isLoaded cannotKeep store entries

/-- A reading through the cache ends in one of the four ways. -/
theorem getOrLoad_assures {codec : Codec α} {key : String} {ttl : Option Nat} {load : Action α}
    {loaded : Except Abort (Except Failure α)} {before : Shared}
    (loads : Loads load loaded before) :
    (getOrLoad codec key ttl load).attempt.Assures Shared.surroundings (.alone Shared)
      (Reading codec key ttl loaded before) before := by
  rw [getOrLoad_eq]
  apply Script.Assures.step
  intro chance
  obtain ⟨found, answered, isHeld⟩ := Shared.answer_cacheGet chance key before
  have answered : Shared.surroundings.answer chance (.cacheGet key) before =
    (.ok (.ok found), before.later chance.elapsed) := answered
  have same : SameData before (before.later chance.elapsed) := ⟨rfl, rfl⟩
  rw [answered]
  cases read : seen codec (.ok found) with
  | some value =>
      simp only [read]
      cases found with
      | none => contradiction
      | some text =>
          obtain ⟨entry, held, rfl⟩ := isHeld text rfl
          exact Reading.hit held read same
  | none =>
      simp only [read]
      apply (loads _ same).andThen
      · rintro result after ⟨rfl, same⟩
        cases result with
        | error failure => exact Reading.unloaded (fun value isValue => nomatch isValue) same
        | ok value => exact keep_assures rfl same
      · rintro cause after ⟨rfl, same⟩
        exact Reading.unloaded (fun value isValue => nomatch isValue) same

end Shortlink.Cache
