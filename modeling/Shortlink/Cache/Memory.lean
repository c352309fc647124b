import Shortlink.Number.Bounds
import Shortlink.Script

/-!
# The cache in memory

Entries with the moment at which they expire, in the order of their keys. An expired entry is
a miss at once, and is dropped by the next write. Moments are nanoseconds on a clock that only
moves forward.
-/

namespace Shortlink.Cache

/-- A cached value. -/
structure Entry where
  value : String
  /-- From this moment on the entry is expired. -/
  expires : Nat
  deriving DecidableEq, Repr

/-! ## Entries in order -/

/-- The entries are in the order of their keys, which are all different. -/
def Ordered (entries : List (String × Entry)) : Prop :=
  entries.Pairwise fun earlier later => earlier.1 < later.1

/-- Puts an entry where its key belongs, in place of the one that was there. -/
def place (key : String) (entry : Entry) : List (String × Entry) → List (String × Entry)
  | [] => [(key, entry)]
  | (name, held) :: rest =>
    if name < key then (name, held) :: place key entry rest
    else if name = key then (key, entry) :: rest
    else (key, entry) :: (name, held) :: rest

theorem mem_of_mem_place {key : String} {entry : Entry} {entries : List (String × Entry)}
    {item : String × Entry} (member : item ∈ place key entry entries) :
    item = (key, entry) ∨ item ∈ entries := by
  induction entries with
  | nil => exact .inl (List.mem_singleton.mp member)
  | cons head rest induction =>
      rw [place] at member
      split at member
      · rcases List.mem_cons.mp member with rfl | inRest
        · exact .inr List.mem_cons_self
        · exact (induction inRest).imp_right (List.mem_cons_of_mem head)
      · split at member
        · rcases List.mem_cons.mp member with rfl | inRest
          · exact .inl rfl
          · exact .inr (List.mem_cons_of_mem head inRest)
        · exact List.mem_cons.mp member

theorem ordered_place {key : String} {entry : Entry} {entries : List (String × Entry)}
    (ordered : Ordered entries) : Ordered (place key entry entries) := by
  induction entries with
  | nil => exact List.pairwise_singleton _ _
  | cons head rest induction =>
      obtain ⟨first, ordered⟩ := List.pairwise_cons.mp ordered
      rw [place]
      split
      next before =>
        refine List.pairwise_cons.mpr ⟨?_, induction ordered⟩
        intro item member
        rcases mem_of_mem_place member with rfl | inRest
        · exact before
        · exact first item inRest
      next notBefore =>
        split
        next same =>
          subst same
          exact List.pairwise_cons.mpr ⟨first, ordered⟩
        next other =>
          have after : key < head.1 :=
            String.not_le.mp fun le => other (String.le_antisymm le (String.not_lt.mp notBefore))
          refine List.pairwise_cons.mpr ⟨?_, List.pairwise_cons.mpr ⟨first, ordered⟩⟩
          intro item member
          rcases List.mem_cons.mp member with rfl | inRest
          · exact after
          · exact String.lt_trans after (first item inRest)

/-! ## The cache -/

/-- A cache in memory. -/
structure Memory where
  entries : List (String × Entry)
  /-- For how many seconds a value is cached where nothing else is asked for. -/
  defaultTtl : Nat
  ordered : Ordered entries
  deriving DecidableEq, Repr

namespace Memory

/-- A cache without entries. -/
def empty (defaultTtl : Nat) : Memory := ⟨[], defaultTtl, .nil⟩

/-- The nanoseconds of a second. -/
def second : Nat := 1000000000

/-- The entry has not expired. -/
def isLive (now : Nat) (entry : Entry) : Bool := now < entry.expires

/-- The number of entries, expired ones included. -/
def size (cache : Memory) : Nat := cache.entries.length

/-- The value under a key, unless it has expired. -/
def get? (cache : Memory) (now : Nat) (key : String) : Option String :=
  (cache.entries.lookup key).bind fun entry => if isLive now entry then some entry.value else none

/-- Drops the entries that do not satisfy a condition. -/
def retain (cache : Memory) (isKept : String × Entry → Bool) : Memory :=
  ⟨cache.entries.filter isKept, cache.defaultTtl, cache.ordered.filter isKept⟩

/-- Drops the expired entries. -/
def purge (cache : Memory) (now : Nat) : Memory := cache.retain fun (_, entry) => isLive now entry

/-- Drops the entry under a key. -/
def erase (cache : Memory) (key : String) : Memory := cache.retain fun (name, _) => name != key

/-- Puts an entry under a key. -/
def insert (cache : Memory) (key : String) (entry : Entry) : Memory :=
  ⟨place key entry cache.entries, cache.defaultTtl, ordered_place cache.ordered⟩

/-- When an entry written at `now` expires, unless its second leaves the signed 64-bit
range. -/
def expiry? (now ttl : Nat) : Except Abort Nat :=
  if now / second + ttl ≤ Number.maxSigned64 then .ok (now + ttl * second)
  else .error .expiryOverflow

/-- Caches a value for so many seconds. Expired entries are dropped first, also where the
new one has no moment to expire at. -/
def set (cache : Memory) (now : Nat) (key value : String) (ttl : Option Nat) :
    Except Abort Unit × Memory :=
  let cache := cache.purge now
  match expiry? now (ttl.getD cache.defaultTtl) with
  | .ok expires => (.ok (), cache.insert key ⟨value, expires⟩)
  | .error cause => (.error cause, cache)

/-- The key starts with the stem. -/
def hasStem (stem key : String) : Bool := stem.toList.isPrefixOf key.toList

/-- The keys that start with `stem`. They stand together: from the first key that is not before
`stem` up to the first one that does not start with it. -/
def keysUnder (cache : Memory) (stem : String) : List String :=
  ((cache.entries.map Prod.fst).dropWhile (decide <| · < stem)).takeWhile (hasStem stem)

/-- Drops all entries whose keys start with `stem`, and counts those that were live. -/
def eraseAll (cache : Memory) (now : Nat) (stem : String) : Nat × Memory :=
  let cache := cache.purge now
  let keys := cache.keysUnder stem
  (keys.length, keys.foldl erase cache)

end Memory

end Shortlink.Cache
