import Shortlink.Proofs.Cache.Key
import Shortlink.Proofs.Cache.Memory
import Shortlink.Proofs.Calls.Shared
import Shortlink.Proofs.Outbox.Invalidation
import Shortlink.Proofs.Script.Alone

/-!
# Exactly what is stale is dropped

A URL that is created makes all pages of the listing stale, and one that is removed also the entry
of its code. The handlers of these events drop these entries from the cache and no others. As the
keys of pages start with a stem with which the key of no code starts, whatever characters the code
has, all pages are dropped, and of the codes only that of the URL that is removed.
-/

namespace Shortlink

namespace Staleness

open Cache

/-- What can be read from the cache at some time. -/
def readAt (shared : Shared) (now : Nat) (key : String) : Option String :=
  shared.cache.bind (·.get? now key)

/-- Of what could be read before, just what is stale cannot be read afterwards, and nothing else has
changed. -/
structure Drops (isStale : String → Prop) (before after : Shared) : Prop where
  store : after.store = before.store
  isEnabled : after.cache.isSome = before.cache.isSome
  ticks : before.ticks ≤ after.ticks
  stale : ∀ now key, after.ticks ≤ now → isStale key → readAt after now key = none
  fresh : ∀ now key, after.ticks ≤ now → ¬isStale key →
    readAt after now key = readAt before now key

/-- The key starts as those of pages do. -/
def IsPage (key : String) : Prop := listStem.toList <+: key.toList

/-- What the removal of the URL with a code makes stale: its entry and all pages. -/
def IsOutdated (code key : String) : Prop := key = codeKey code ∨ IsPage key

/-- How a handler alone handles an event. -/
def handle (chances : Nat → Chance) (handler : Handler) (event : Event) (before : Shared) :
    Except Abort (Except Failure Unit) × Shared :=
  Shared.surroundings.perform chances (handler event).attempt before

variable {before between after : Shared} {first second : String → Prop}

/-! ## What requests drop -/

theorem Drops.trans (one : Drops first before between) (other : Drops second between after) :
    Drops (fun key => first key ∨ second key) before after where
  store := other.store.trans one.store
  isEnabled := other.isEnabled.trans one.isEnabled
  ticks := Nat.le_trans one.ticks other.ticks
  stale now key isLater isStale := by
    by_cases droppedLast : second key
    · exact other.stale now key isLater droppedLast
    · rw [other.fresh now key isLater droppedLast]
      exact one.stale now key (Nat.le_trans other.ticks isLater) (isStale.resolve_right droppedLast)
  fresh now key isLater isFresh := by
    rw [other.fresh now key isLater fun dropped => isFresh (.inr dropped)]
    exact one.fresh now key (Nat.le_trans other.ticks isLater) fun dropped => isFresh (.inl dropped)

/-- The removal of a key drops its entry. -/
theorem drops_cacheRemove (chance : Chance) (key : String) (before : Shared) :
    ∃ after, Shared.surroundings.answer chance (.cacheRemove key) before = (.ok (.ok ()), after) ∧
      Drops (· = key) before after := by
  rcases before with ⟨store, cache, ticks⟩
  cases cache with
  | none =>
      refine ⟨_, rfl, rfl, rfl, Nat.le_add_right _ _, ?_, ?_⟩
      · exact fun _ _ _ _ => rfl
      · exact fun _ _ _ _ => rfl
  | some cache =>
      refine ⟨_, rfl, rfl, rfl, Nat.le_add_right _ _, ?_, ?_⟩
      · rintro now key - rfl
        exact Memory.get?_erase_self
      · intro now other isLater isOther
        exact Memory.get?_erase_of_ne isOther

/-- The removal of a stem drops the entries of all keys that start with it. -/
theorem drops_cacheRemoveAll (chance : Chance) (stem : String) (before : Shared) :
    ∃ count after, Shared.surroundings.answer chance (.cacheRemoveAll stem) before =
        (.ok (.ok count), after) ∧
      Drops (stem.toList <+: ·.toList) before after := by
  rcases before with ⟨store, cache, ticks⟩
  cases cache with
  | none =>
      refine ⟨0, _, rfl, rfl, rfl, Nat.le_add_right _ _, ?_, ?_⟩
      · exact fun _ _ _ _ => rfl
      · exact fun _ _ _ _ => rfl
  | some cache =>
      refine ⟨_, _, rfl, rfl, rfl, Nat.le_add_right _ _, ?_, ?_⟩
      · intro now key isLater isUnder
        exact Memory.get?_eraseAll_of_hasStem (Memory.hasStem_iff.mpr isUnder)
      · intro now key isLater notUnder
        refine Memory.get?_eraseAll_of_not isLater (Bool.eq_false_iff.mpr ?_)
        exact fun isUnder => notUnder (Memory.hasStem_iff.mp isUnder)

/-! ## What handlers drop -/

variable (chances : Nat → Chance)

theorem perform_dropPages (before : Shared) :
    ∃ after, Shared.surroundings.perform chances Invalidation.dropPages.attempt before =
      (.ok (.ok ()), after) ∧ Drops IsPage before after := by
  obtain ⟨count, after, answered, drops⟩ := drops_cacheRemoveAll (chances 0) listStem before
  refine ⟨after, ?_, drops⟩
  rw [Invalidation.dropPages_eq]
  exact Surroundings.perform_ask_of_ok answered

theorem handle_created (id : Uuid) (occurred : Time.Moment) (created : LinkCreated)
    (before : Shared) :
    ∃ after, handle chances Invalidation.onCreated ⟨id, occurred, .created created⟩ before =
      (.ok (.ok ()), after) ∧ Drops IsPage before after :=
  perform_dropPages chances before

theorem handle_removed (id : Uuid) (occurred : Time.Moment) (removed : LinkRemoved)
    (before : Shared) :
    ∃ after, handle chances Invalidation.onRemoved ⟨id, occurred, .removed removed⟩ before =
      (.ok (.ok ()), after) ∧ Drops (IsOutdated removed.code) before after := by
  obtain ⟨between, answered, drops⟩ :=
    drops_cacheRemove (chances 0) (codeKey removed.code) before
  obtain ⟨after, performed, dropsPages⟩ :=
    perform_dropPages (fun n => chances (n + 1)) between
  refine ⟨after, ?_, drops.trans dropsPages⟩
  rw [handle, Invalidation.onRemoved_eq rfl, ← performed]
  exact Surroundings.perform_ask_of_ok answered

/-! ## Keys -/

theorem isPage_pageKey (page size : Int) : IsPage (pageKey page size) :=
  Memory.hasStem_iff.mp (hasStem_pageKey page size)

theorem not_isPage_codeKey (code : String) : ¬IsPage (codeKey code) := by
  intro isPage
  have stands := hasStem_codeKey code
  rw [Memory.hasStem_iff.mpr isPage] at stands
  contradiction

theorem isFresh_codeKey_of_ne {code other : String} (isOther : other ≠ code) :
    ¬IsOutdated code (codeKey other) := by
  rintro (same | isPage)
  · exact isOther (codeKey_injective same)
  · exact not_isPage_codeKey other isPage

end Staleness

open Cache Staleness in
/-- Whatever the cache holds: the handler of created URLs drops the entries of all keys that start
as those of pages do, and the handler of removed ones drops these and the entry of the code. No
other entry goes, so those of all pages do, and those of all other codes stay with their values.
On an event of the other type the handlers do nothing. The keys of two codes or two pages differ,
and so do those of a code and a page. -/
theorem invalidation_is_exact (chances : Nat → Chance) (id : Uuid) (occurred : Time.Moment)
    (before : Shared) :
    (∀ created, ∃ after,
      handle chances Invalidation.onCreated ⟨id, occurred, .created created⟩ before =
        (.ok (.ok ()), after) ∧
      Drops IsPage before after ∧
      ∀ now, after.ticks ≤ now →
        (∀ page size, readAt after now (pageKey page size) = none) ∧
        ∀ code, readAt after now (codeKey code) = readAt before now (codeKey code)) ∧
    (∀ removed, ∃ after,
      handle chances Invalidation.onRemoved ⟨id, occurred, .removed removed⟩ before =
        (.ok (.ok ()), after) ∧
      Drops (IsOutdated removed.code) before after ∧
      ∀ now, after.ticks ≤ now →
        readAt after now (codeKey removed.code) = none ∧
        (∀ page size, readAt after now (pageKey page size) = none) ∧
        ∀ code, code ≠ removed.code →
          readAt after now (codeKey code) = readAt before now (codeKey code)) ∧
    (∀ removed, handle chances Invalidation.onCreated ⟨id, occurred, .removed removed⟩ before =
      (.ok (.ok ()), before)) ∧
    (∀ created, handle chances Invalidation.onRemoved ⟨id, occurred, .created created⟩ before =
      (.ok (.ok ()), before)) ∧
    (∀ code other, codeKey code = codeKey other → code = other) ∧
    (∀ page size otherPage otherSize, pageKey page size = pageKey otherPage otherSize →
      page = otherPage ∧ size = otherSize) ∧
    ∀ code page size, codeKey code ≠ pageKey page size := by
  refine ⟨?_, ?_, fun _ => rfl, fun _ => rfl, fun _ _ => codeKey_injective,
    fun _ _ _ _ => pageKey_injective, codeKey_ne_pageKey⟩
  · intro created
    obtain ⟨after, handled, drops⟩ := handle_created chances id occurred created before
    refine ⟨after, handled, drops, ?_⟩
    intro now isLater
    constructor
    · exact fun page size => drops.stale now _ isLater (isPage_pageKey page size)
    · exact fun code => drops.fresh now _ isLater (not_isPage_codeKey code)
  · intro removed
    obtain ⟨after, handled, drops⟩ := handle_removed chances id occurred removed before
    refine ⟨after, handled, drops, fun now isLater => ⟨?_, ?_, ?_⟩⟩
    · exact drops.stale now _ isLater (.inl rfl)
    · exact fun page size => drops.stale now _ isLater (.inr (isPage_pageKey page size))
    · exact fun code isOther => drops.fresh now _ isLater (isFresh_codeKey_of_ne isOther)

end Shortlink
