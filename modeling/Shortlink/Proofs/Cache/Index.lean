import Shortlink.Proofs.Cache.Eviction
import Shortlink.Proofs.Cache.Server

/-!
# The index of live keys

Every write enters its key in the index and gives it a score, the second in which its value
expires. Later writes drop keys whose second has begun. A value lives on to the same fraction of
that second at which it was written, so a key can leave the index while its value is still there,
but never before the second of the expiry has begun.
-/

namespace Shortlink.Cache.Redis

open Time (Moment)

/-- A key that is not the name of one of the indexes. -/
def IsOrdinary (key : String) : Prop := key ≠ indexKey ∧ key ≠ expiryKey

/-! ## Changes of the cache -/

/-- A change of what is cached. -/
inductive Change where
  | set (key value : String) (ttl : Option Nat)
  | remove (key : String)
  | removeAll (stem : String)

namespace Change

/-- The request that makes a change. -/
def request : Change → Effect
  | set key value ttl => .cacheSet key value ttl
  | remove key => .cacheRemove key
  | removeAll stem => .cacheRemoveAll stem

/-- The change is not made under the name of an index. -/
def IsOrdinary : Change → Prop
  | set key _ _ => Redis.IsOrdinary key
  | remove key => Redis.IsOrdinary key
  | removeAll _ => True

/-- What a change leaves. The service and the server read one clock, and the change takes no
time. -/
def perform (defaultTtl : Nat) (chance : Chance) (state : Shared × Server) (change : Change) :
    Shared × Server :=
  (surroundings.perform (fun _ => chance) (serve defaultTtl change.request) state).2

/-- What changes leave one after another. -/
def performAll (defaultTtl : Nat) (state : Shared × Server) (changes : List (Change × Chance)) :
    Shared × Server :=
  changes.foldl (fun state (change, chance) => change.perform defaultTtl chance state) state

variable (defaultTtl : Nat) (chance : Chance) (state : Shared × Server)

/-- A command that depends on the time is carried out at that time. -/
theorem perform_timed {α : Type} (words : Moment → List String) (value : α) :
    (surroundings.perform (fun _ => chance)
      (.ask (Request.beside .now) fun now =>
        .ask (Request.command (words now)) fun _ => .done value) state).2.2 =
      (state.2.command chance.now (words chance.now)).2 := rfl

theorem perform_set (key value : String) (ttl : Option Nat) :
    ((set key value ttl).perform defaultTtl chance state).2 =
      (state.2.command chance.now
        (setCommand key value (ttl.getD defaultTtl) chance.now.unixSeconds)).2 :=
  perform_timed chance state
    (fun now => setCommand key value (ttl.getD defaultTtl) now.unixSeconds)
    (Except.ok () : Except CacheError Unit)

theorem perform_remove (key : String) :
    ((remove key).perform defaultTtl chance state).2 =
      (state.2.transact chance.now (removeCommands [key])).2 := rfl

end Change

namespace Server

/-- The key is a member of the index. -/
def Lists (server : Server) (key : String) : Prop := key ∈ (server.members indexKey).map (·.1)

instance (server : Server) (key : String) : Decidable (server.Lists key) :=
  inferInstanceAs (Decidable (key ∈ _))

/-- How the indexes stand to the values up to a second: every value whose expiry falls into a later
second has its key in the index, and the scores are the seconds of the expiries. -/
structure Indexed (server : Server) (second : Int) : Prop where
  index : server.HoldsSet indexKey
  expiry : server.HoldsSet expiryKey
  ordinary_index : ∀ entry ∈ server.members indexKey, IsOrdinary entry.1
  ordinary_expiry : ∀ entry ∈ server.members expiryKey, IsOrdinary entry.1
  scored : ∀ {key value expires s}, server.data key = some (.text value expires) →
    (key, s) ∈ server.members expiryKey →
    -2 ^ 53 < expires / 1000000000 ∧ s = score (expires / 1000000000)
  listed : ∀ {key value expires}, server.data key = some (.text value expires) →
    second < expires / 1000000000 → server.Lists key

variable {server after : Server} {second : Int} {now : Moment} {key : String} {gone : List String}

theorem indexed_empty (second : Int) : Indexed {} second where
  index := nofun
  expiry := nofun
  ordinary_index := by simp [members]
  ordinary_expiry := by simp [members]
  scored := nofun
  listed := nofun

theorem mem_leave {members : List (String × Int)} {entry : String × Int} :
    entry ∈ leave members gone ↔ entry ∈ members ∧ entry.1 ∉ gone := by
  simp [leave]

theorem mem_enter {members : List (String × Int)} {entry : String × Int} {s : Int} :
    entry ∈ enter members key s ↔ entry ∈ members ∧ entry.1 ≠ key ∨ entry = (key, s) := by
  simp [enter]

theorem lists_iff : server.Lists key ↔ ∃ s, (key, s) ∈ server.members indexKey := by
  simp [Lists]

/-- A key with a text is ordinary. -/
theorem Indexed.ordinary (indexed : Indexed server second) {value : String} {expires : Int}
    (found : server.data key = some (.text value expires)) : IsOrdinary key := by
  constructor
  · rintro rfl
    exact indexed.index value expires found
  · rintro rfl
    exact indexed.expiry value expires found

/-- Keys may leave the indexes if their values are gone or expire by the end of the second. -/
theorem Indexed.leaves (indexed : Indexed server second) (leaves : Leaves server after gone)
    (past : ∀ member ∈ gone, ∀ value expires, server.data member = some (.text value expires) →
      expires / 1000000000 ≤ second) : Indexed after second := by
  have same {key value expires} (found : after.data key = some (.text value expires)) :
      server.data key = some (.text value expires) := by
    rw [← leaves.others key]
    · exact found
    · rintro rfl
      exact leaves.index value expires found
    · rintro rfl
      exact leaves.expiry value expires found
  constructor
  · exact leaves.index
  · exact leaves.expiry
  · intro entry isEntry
    rw [leaves.members_index, mem_leave] at isEntry
    exact indexed.ordinary_index entry isEntry.1
  · intro entry isEntry
    rw [leaves.members_expiry, mem_leave] at isEntry
    exact indexed.ordinary_expiry entry isEntry.1
  · intro key value expires s found isEntry
    rw [leaves.members_expiry, mem_leave] at isEntry
    exact indexed.scored (same found) isEntry.1
  · intro key value expires found later
    obtain ⟨s, isEntry⟩ := lists_iff.mp (indexed.listed (same found) later)
    rw [lists_iff, leaves.members_index]
    refine ⟨s, mem_leave.mpr ⟨isEntry, fun isGone => ?_⟩⟩
    have early := past key isGone value expires (same found)
    omega

/-- Values may be dropped. -/
theorem Indexed.without (indexed : Indexed server second) (notIndex : indexKey ∉ gone)
    (notExpiry : expiryKey ∉ gone) : Indexed (server.without gone) second := by
  have index := data_without_of_not_mem server notIndex
  have expiry := data_without_of_not_mem server notExpiry
  have same {key value expires} (found : (server.without gone).data key = some (.text value expires)) :
      server.data key = some (.text value expires) := by
    by_cases isGone : key ∈ gone
    · rw [data_without_of_mem isGone] at found
      contradiction
    · rwa [data_without_of_not_mem server isGone] at found
  constructor
  · exact indexed.index.of_data index
  · exact indexed.expiry.of_data expiry
  · rw [members_of_data index]
    exact indexed.ordinary_index
  · rw [members_of_data expiry]
    exact indexed.ordinary_expiry
  · intro key value expires s found isEntry
    rw [members_of_data expiry] at isEntry
    exact indexed.scored (same found) isEntry
  · intro key value expires found later
    rw [lists_iff, members_of_data index, ← lists_iff]
    exact indexed.listed (same found) later

/-- A value may be stored if its key is entered with the second of its expiry. -/
theorem Indexed.enters (indexed : Indexed server second) (ordinary : IsOrdinary key)
    {value : String} {ttl : Nat}
    (enters : Enters server after key (.text value (now.unixNanos + ttl * 1000000000))
      (score (now.unixSeconds + ttl))) : Indexed after second := by
  have exact_ : (now.unixNanos + ttl * 1000000000) / 1000000000 = now.unixSeconds + ttl := by
    rw [Int.add_mul_ediv_right _ _ (by decide), now.unixNanos_div]
  have same {other value expires} (found : after.data other = some (.text value expires))
      (different : other ≠ key) : server.data other = some (.text value expires) := by
    rw [← enters.others other different]
    · exact found
    · rintro rfl
      exact enters.index value expires found
    · rintro rfl
      exact enters.expiry value expires found
  constructor
  · exact enters.index
  · exact enters.expiry
  · intro entry isEntry
    rw [enters.members_index, mem_enter] at isEntry
    rcases isEntry with ⟨isEntry, -⟩ | rfl
    · exact indexed.ordinary_index entry isEntry
    · exact ordinary
  · intro entry isEntry
    rw [enters.members_expiry, mem_enter] at isEntry
    rcases isEntry with ⟨isEntry, -⟩ | rfl
    · exact indexed.ordinary_expiry entry isEntry
    · exact ordinary
  · intro other value expires s found isEntry
    rw [enters.members_expiry, mem_enter] at isEntry
    rcases isEntry with ⟨isEntry, different⟩ | isKey
    · exact indexed.scored (same found different) isEntry
    · cases isKey
      cases enters.stored.symm.trans found
      have bounds := now.unixSeconds_bounds
      rw [exact_]
      exact ⟨by omega, rfl⟩
  · intro other value expires found later
    rw [lists_iff, enters.members_index]
    by_cases isKey : other = key
    · exact ⟨score 0, mem_enter.mpr (.inr (by rw [isKey]))⟩
    · obtain ⟨s, isEntry⟩ := lists_iff.mp (indexed.listed (same found isKey) later)
      exact ⟨s, mem_enter.mpr (.inl ⟨isEntry, isKey⟩)⟩

/-! ## Changes keep the index -/

/-- A write keeps the index up to any second that is not before that of the write. -/
theorem Indexed.write (indexed : Indexed server second) (ordinary : IsOrdinary key)
    (value : String) (ttl : Nat) (notLater : now.unixSeconds ≤ second) :
    Indexed (server.command now (setCommand key value ttl now.unixSeconds)).2 second := by
  rcases command_set_cases ordinary.1 ordinary.2 indexed.index indexed.expiry with
    refused | ⟨between, expired, enters, past, leaves⟩
  · rw [refused]
    exact indexed
  · have entered := indexed.enters ordinary enters
    refine entered.leaves leaves fun member isExpired value expires found => ?_
    obtain ⟨s, isEntry, low⟩ := past member isExpired
    obtain ⟨bound, rfl⟩ := entered.scored found isEntry
    have bounds := now.unixSeconds_bounds
    have early := le_of_score_le bound (by omega) (by omega) low
    omega

/-- A removal of ordinary keys keeps the index. -/
theorem Indexed.remove (indexed : Indexed server second) {keys : List String}
    (ordinary : ∀ key ∈ keys, IsOrdinary key) :
    Indexed (server.transact now (removeCommands keys)).2 second := by
  have notIndex : indexKey ∉ keys := fun isKey => (ordinary indexKey isKey).1 rfl
  have notExpiry : expiryKey ∉ keys := fun isKey => (ordinary expiryKey isKey).2 rfl
  have leaves := transact_remove now notIndex notExpiry indexed.index indexed.expiry
  refine (indexed.without notIndex notExpiry).leaves leaves fun key isKey value expires found => ?_
  rw [data_without_of_mem isKey] at found
  contradiction

/-- A removal by stem drops members of the index, so it keeps the index. -/
theorem Indexed.removeAll {state : Shared × Server} (indexed : Indexed state.2 second)
    (stem : String) :
    (Redis.removeAll stem).Assures surroundings (.alone _) (fun _ state => Indexed state.2 second)
      state := by
  rw [Eviction.removeAll_eq]
  apply Script.Assures.step_of_ok
  intro chance
  obtain ⟨listing, listed, found⟩ :=
    between_eq indexed.index chance.now (lowerBound stem) (upperBound stem)
  have done : state.2.command chance.now (rangeCommand stem) = (listing, state.2) :=
    (command_of_ne (by decide) _).trans listed
  refine ⟨listing, state, ?_, ?_⟩
  · change (_, _, _) = _
    rw [done]
    rfl
  · match isListing : Reply.texts listing with
    | .error reason => exact indexed
    | .ok [] => exact indexed
    | .ok (page :: pages) =>
        have ordinary : ∀ key ∈ page :: pages, IsOrdinary key := by
          intro key isKey
          obtain ⟨s, isEntry⟩ := found _ isListing key isKey
          exact indexed.ordinary_index _ isEntry
        apply Script.Assures.step_of_ok
        intro later
        exact ⟨_, _, rfl, indexed.remove ordinary⟩

end Server

namespace Change

/-- A change keeps the index up to any second that is not before that of the change. -/
theorem perform_indexed {defaultTtl : Nat} {chance : Chance} {state : Shared × Server}
    {change : Change} {second : Int} (indexed : state.2.Indexed second)
    (ordinary : change.IsOrdinary) (notLater : chance.now.unixSeconds ≤ second) :
    (change.perform defaultTtl chance state).2.Indexed second := by
  cases change with
  | set key value ttl =>
      rw [perform_set]
      exact indexed.write ordinary value _ notLater
  | remove key =>
      rw [perform_remove]
      exact indexed.remove (List.forall_mem_singleton.mpr ordinary)
  | removeAll stem => exact (indexed.removeAll stem).perform fun _ => chance

theorem performAll_indexed {defaultTtl : Nat} {state : Shared × Server}
    {changes : List (Change × Chance)} {second : Int} (indexed : state.2.Indexed second)
    (ordinary : ∀ made ∈ changes, made.1.IsOrdinary)
    (notLater : ∀ made ∈ changes, made.2.now.unixSeconds ≤ second) :
    (performAll defaultTtl state changes).2.Indexed second := by
  induction changes generalizing state with
  | nil => exact indexed
  | cons made rest ih =>
      rw [List.forall_mem_cons] at ordinary notLater
      exact ih (perform_indexed indexed ordinary.1 notLater.1) ordinary.2 notLater.2

/-- After any changes of a cache that was empty, every key whose value has not expired is in the
index, unless its value expires in the second that it is. -/
theorem live_keys_are_listed {changes : List (Change × Chance)}
    (ordinary : ∀ made ∈ changes, made.1.IsOrdinary) {now : Moment}
    (past : ∀ made ∈ changes, made.2.now.unixNanos ≤ now.unixNanos) (defaultTtl : Nat)
    (shared : Shared) :
    let server := (performAll defaultTtl (shared, {}) changes).2
    ∀ key value expires, server.find now key = some (.text value expires) →
      server.Lists key ∨ expires / 1000000000 = now.unixSeconds := by
  intro server key value expires found
  have notLater : ∀ made ∈ changes, made.2.now.unixSeconds ≤ now.unixSeconds := by
    intro made member
    have before := past made member
    rw [← made.2.now.unixNanos_div, ← now.unixNanos_div]
    omega
  have indexed : server.Indexed now.unixSeconds :=
    performAll_indexed (Server.indexed_empty _) ordinary notLater
  obtain ⟨isText, isLive⟩ := Server.find_eq_text found
  by_cases later : now.unixSeconds < expires / 1000000000
  · exact .inl (indexed.listed isText later)
  · right
    have second := now.unixNanos_div
    omega

/-- One value is written for a second and later another one for a minute. -/
def twoWrites (first second : Moment) : List (Change × Chance) :=
  [(.set "a" "1" (some 1), ⟨0, first, ⟨0⟩, false, ⟨0, .ok ()⟩⟩),
    (.set "b" "2" (some 60), ⟨0, second, ⟨0⟩, false, ⟨0, .ok ()⟩⟩)]

theorem live_keys_are_listed_of_two :
    let first : Moment := ⟨⟨2026, 1, 1, by decide, by decide, by decide⟩, 0, 0, 10, 900000000,
      by decide, by decide, by decide, by decide⟩
    let now : Moment := ⟨⟨2026, 1, 1, by decide, by decide, by decide⟩, 0, 0, 11, 200000000,
      by decide, by decide, by decide, by decide⟩
    (∀ made ∈ twoWrites first now, made.1.IsOrdinary) ∧
      (∀ made ∈ twoWrites first now, made.2.now.unixNanos ≤ now.unixNanos) ∧
      (performAll 60 (⟨{}, none, 0⟩, {}) (twoWrites first now)).2.Lists "b" := by
  intro first now
  have ordinary : ∀ made ∈ twoWrites first now, made.1.IsOrdinary := by
    simp [twoWrites, IsOrdinary, Redis.IsOrdinary, indexKey, expiryKey]
  have past : ∀ made ∈ twoWrites first now, made.2.now.unixNanos ≤ now.unixNanos := by decide
  have found : (performAll 60 (⟨{}, none, 0⟩, {}) (twoWrites first now)).2.find now "b" =
      some (.text "2" (now.unixNanos + 60000000000)) := by decide +kernel
  have listed := live_keys_are_listed ordinary past 60 ⟨{}, none, 0⟩ "b" "2" _ found
  exact ⟨ordinary, past, listed.resolve_right (by decide)⟩

/-- When a second value is written three tenths of a second after the first one, this one lives for
seven more tenths of a second, and the write drops its key from the index. -/
theorem live_key_is_not_listed :
    let first : Moment := ⟨⟨2026, 1, 1, by decide, by decide, by decide⟩, 0, 0, 10, 900000000,
      by decide, by decide, by decide, by decide⟩
    let now : Moment := ⟨⟨2026, 1, 1, by decide, by decide, by decide⟩, 0, 0, 11, 200000000,
      by decide, by decide, by decide, by decide⟩
    let server := (performAll 60 (⟨{}, none, 0⟩, {}) (twoWrites first now)).2
    server.find now "a" = some (.text "1" (now.unixNanos + 700000000)) ∧ ¬ server.Lists "a" := by
  decide +kernel

end Change

end Shortlink.Cache.Redis
