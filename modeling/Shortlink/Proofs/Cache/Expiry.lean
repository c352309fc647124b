import Mathlib.Data.List.Induction
import Shortlink.Proofs.Cache.Memory

/-!
# A map whose values expire

Whatever is done with the cache, reading a key gives what was stored under it last, as long as
that has not expired and has not been dropped. When expired entries are removed makes no
difference to anybody.
-/

namespace Shortlink.Cache

/-- What the cache is asked for. -/
inductive Access where
  | get (key : String)
  | set (key value : String) (ttl : Option Nat)
  | remove (key : String)
  | removeAll (stem : String)

/-- Something that the cache is asked for at a moment. -/
structure Visit where
  moment : Nat
  access : Access

namespace Memory

/-- The cache afterwards. -/
def visited (cache : Memory) (visit : Visit) : Memory :=
  match visit.access with
  | .get _ => cache
  | .set key value ttl => (cache.set visit.moment key value ttl).2
  | .remove key => cache.erase key
  | .removeAll stem => (cache.eraseAll visit.moment stem).2

/-- The cache after one visit after another. -/
def after (cache : Memory) (visits : List Visit) : Memory := visits.foldl visited cache

end Memory

/-! ## What the visits say -/

namespace Visit

variable (defaultTtl : Nat) (visit : Visit) (key : String)

/-- The visit stores a value under a key, which expires at a moment that can be represented. -/
def Stores (value : String) (expires : Nat) : Prop :=
  match visit.access with
  | .set name text ttl =>
    name = key ∧ text = value ∧ Memory.CanExpire visit.moment (ttl.getD defaultTtl) ∧
      expires = visit.moment + ttl.getD defaultTtl * Memory.second
  | .get _ | .remove _ | .removeAll _ => False

/-- After the visit nothing is left of what was stored under a key before. -/
def Displaces : Prop :=
  match visit.access with
  | .get _ => False
  | .set name _ ttl => name = key ∧ Memory.CanExpire visit.moment (ttl.getD defaultTtl)
  | .remove name => name = key
  | .removeAll stem => stem.toList <+: key.toList

instance : Decidable (visit.Displaces defaultTtl key) :=
  match visit with
  | ⟨_, .get _⟩ => inferInstanceAs (Decidable False)
  | ⟨_, .set _ _ _⟩ => inferInstanceAs (Decidable (_ ∧ _))
  | ⟨_, .remove name⟩ => inferInstanceAs (Decidable (name = key))
  | ⟨_, .removeAll stem⟩ => inferInstanceAs (Decidable (stem.toList <+: key.toList))

end Visit

/-- A value was the last to be stored under a key; it has not expired, and nothing dropped it. -/
def AtHand (defaultTtl : Nat) (visits : List Visit) (now : Nat) (key value : String) : Prop :=
  ∃ before visit later expires, visits = before ++ visit :: later ∧
    visit.Stores defaultTtl key value expires ∧ now < expires ∧
    ∀ other ∈ later, ¬other.Displaces defaultTtl key

section AtHand

variable {defaultTtl now : Nat} {visits : List Visit} {visit : Visit} {key value : String}

theorem not_atHand_nil : ¬AtHand defaultTtl [] now key value := by
  rintro ⟨before, visit, later, expires, split, -⟩
  cases before <;> contradiction

/-- With one more visit, that one decides, unless it has nothing to do with the key. -/
theorem atHand_concat :
    AtHand defaultTtl (visits ++ [visit]) now key value ↔
      (∃ expires, visit.Stores defaultTtl key value expires ∧ now < expires) ∨
      ¬visit.Displaces defaultTtl key ∧ AtHand defaultTtl visits now key value := by
  constructor
  · rintro ⟨before, first, later, expires, split, stores, live, untouched⟩
    rcases List.eq_nil_or_concat later with rfl | ⟨later, last, rfl⟩
    · obtain ⟨-, same⟩ := List.append_inj' split rfl
      cases same
      exact .inl ⟨expires, stores, live⟩
    · rw [List.concat_eq_append, ← List.cons_append, ← List.append_assoc] at split
      obtain ⟨rfl, same⟩ := List.append_inj' split rfl
      cases same
      refine .inr ⟨untouched visit (by simp), before, first, later, expires, rfl, stores, live, ?_⟩
      intro other member
      exact untouched other (by simp [member])
  · rintro (⟨expires, stores, live⟩ | ⟨untouched, before, first, later, expires, rfl, stores, live,
      others⟩)
    · exact ⟨visits, visit, [], expires, rfl, stores, live, nofun⟩
    · refine ⟨before, first, later ++ [visit], expires, by simp, stores, live, ?_⟩
      intro other member
      rcases List.mem_append.mp member with earlier | last
      · exact others other earlier
      · rw [List.mem_singleton.mp last]
        exact untouched

end AtHand

/-! ## What the cache does -/

namespace Memory

variable {cache : Memory} {visit : Visit} {now : Nat} {key value : String}

theorem visited_defaultTtl (cache : Memory) (visit : Visit) :
    (cache.visited visit).defaultTtl = cache.defaultTtl := by
  rcases visit with ⟨moment, access⟩
  cases access with
  | get key => rfl
  | set key value ttl => exact set_defaultTtl cache moment key value ttl
  | remove key => exact erase_defaultTtl cache key
  | removeAll stem => exact eraseAll_defaultTtl cache moment stem

/-- What can be read after a visit: what the visit has stored, or what could be read before. -/
theorem get?_visited (isEarlier : visit.moment ≤ now) :
    (cache.visited visit).get? now key = some value ↔
      (∃ expires, visit.Stores cache.defaultTtl key value expires ∧ now < expires) ∨
      ¬visit.Displaces cache.defaultTtl key ∧ cache.get? now key = some value := by
  rcases visit with ⟨moment, access⟩
  cases access with
  | get name => simp [visited, Visit.Stores, Visit.Displaces]
  | remove name =>
      by_cases same : name = key
      · simp [visited, Visit.Stores, Visit.Displaces, same, get?_erase_self]
      · simp [visited, Visit.Stores, Visit.Displaces, same, get?_erase_of_ne (Ne.symm same)]
  | removeAll stem =>
      cases isUnder : hasStem stem key with
      | true =>
          simp [visited, Visit.Stores, Visit.Displaces, hasStem_iff.mp isUnder,
            get?_eraseAll_of_hasStem isUnder]
      | false =>
          have notUnder := mt hasStem_iff.mpr (Bool.eq_false_iff.mp isUnder)
          simp [visited, Visit.Stores, Visit.Displaces, notUnder,
            get?_eraseAll_of_not isEarlier isUnder]
  | set name text ttl =>
      rcases set_cases cache moment name text ttl with ⟨canExpire, written⟩ | ⟨cannot, refused⟩
      · by_cases same : name = key
        · subst same
          simp [visited, Visit.Stores, Visit.Displaces, written, get?_insert_self, canExpire]
        · simp [visited, Visit.Stores, Visit.Displaces, written, same,
            get?_insert_of_ne (Ne.symm same), get?_purge isEarlier]
      · simp [visited, Visit.Stores, Visit.Displaces, refused, cannot, get?_purge isEarlier]

theorem after_concat (cache : Memory) (visits : List Visit) (visit : Visit) :
    cache.after (visits ++ [visit]) = (cache.after visits).visited visit :=
  List.foldl_concat visited cache visit visits

theorem after_defaultTtl (cache : Memory) (visits : List Visit) :
    (cache.after visits).defaultTtl = cache.defaultTtl := by
  induction visits using List.reverseRecOn with
  | nil => rfl
  | append_singleton visits visit induction =>
      rw [after_concat, visited_defaultTtl, induction]

/-- After any visits a key reads as what was stored under it last, if that is still at hand. -/
theorem get?_after {defaultTtl : Nat} {visits : List Visit}
    (earlier : ∀ visit ∈ visits, visit.moment ≤ now) :
    ((empty defaultTtl).after visits).get? now key = some value ↔
      AtHand defaultTtl visits now key value := by
  induction visits using List.reverseRecOn with
  | nil => simpa [after, empty, get?] using not_atHand_nil
  | append_singleton visits visit induction =>
      have isEarlier : visit.moment ≤ now := earlier visit (by simp)
      have restEarlier : ∀ other ∈ visits, other.moment ≤ now := fun other member =>
        earlier other (List.mem_append_left _ member)
      rw [after_concat, get?_visited isEarlier, after_defaultTtl, induction restEarlier,
        atHand_concat]
      rfl

/-- A write is refused exactly if the value would have no moment to expire at. -/
theorem set_eq_ok_iff {ttl : Option Nat} :
    (cache.set now key value ttl).1 = .ok () ↔ CanExpire now (ttl.getD cache.defaultTtl) := by
  rcases set_cases cache now key value ttl with ⟨canExpire, written⟩ | ⟨cannot, refused⟩
  · simp [written, canExpire]
  · simp [refused, cannot]

/-- A write that is refused changes nothing that anybody can read. -/
theorem get?_refused {ttl : Option Nat} (cannot : ¬CanExpire now (ttl.getD cache.defaultTtl))
    {later : Nat} (isLater : now ≤ later) (other : String) :
    (cache.set now key value ttl).2.get? later other = cache.get? later other := by
  rcases set_cases cache now key value ttl with ⟨canExpire, -⟩ | ⟨-, refused⟩
  · exact absurd canExpire cannot
  · rw [refused]
    exact get?_purge isLater

end Memory

open Memory in
/-- The cache is a map with expiry. Whatever it has been asked for, a key reads as the value that
was stored under it last, as long as that has not expired, the key has not been removed, nor any
stem of it. Removing all keys under a stem counts those that could be read. A value that has no
moment to expire at is refused, and then every key reads as it would have without the attempt. -/
theorem memory_is_a_map_with_expiry (defaultTtl : Nat) (visits : List Visit) (now : Nat)
    (earlier : ∀ visit ∈ visits, visit.moment ≤ now) :
    let cache := (Memory.empty defaultTtl).after visits
    (∀ key value, cache.get? now key = some value ↔ AtHand defaultTtl visits now key value) ∧
    (∀ stem, ∃ keys : List String, keys.Nodup ∧
      (∀ key, key ∈ keys ↔
        stem.toList <+: key.toList ∧ ∃ value, AtHand defaultTtl visits now key value) ∧
      (cache.eraseAll now stem).1 = keys.length) ∧
    ∀ key value ttl,
      ((cache.set now key value ttl).1 = .ok () ↔ CanExpire now (ttl.getD defaultTtl)) ∧
      (¬CanExpire now (ttl.getD defaultTtl) →
        (cache.set now key value ttl).1 = .error .expiryOverflow ∧
        ∀ other later, now ≤ later →
          (cache.set now key value ttl).2.get? later other = cache.get? later other) := by
  intro cache
  have reads : ∀ key value, cache.get? now key = some value ↔
      AtHand defaultTtl visits now key value := fun key value => get?_after earlier
  have sameTtl : cache.defaultTtl = defaultTtl := after_defaultTtl _ visits
  refine ⟨reads, fun stem => ?_, fun key value ttl => ?_⟩
  · refine ⟨(cache.purge now).keysUnder stem, nodup_keysUnder _ stem, fun key => ?_, rfl⟩
    simp only [mem_keysUnder_purge, reads]
  · rw [← sameTtl]
    refine ⟨set_eq_ok_iff, fun cannot => ⟨?_, ?_⟩⟩
    · rcases set_cases cache now key value ttl with ⟨canExpire, -⟩ | ⟨-, refused⟩
      · exact absurd canExpire cannot
      · rw [refused]
    · intro other later isLater
      exact get?_refused cannot isLater other

/-- One key has been written over, with a longer life, and a last attempt to do it once more was
refused; another key has expired. -/
theorem memory_is_a_map_with_expiry_of_overwritten :
    let second := Memory.second
    let visits : List Visit :=
      [⟨0, .set "urls:1" "old" (some 3)⟩, ⟨second, .set "urls:2" "gone" (some 4)⟩,
        ⟨2 * second, .set "urls:1" "new" none⟩, ⟨3 * second, .removeAll "url:"⟩,
        ⟨4 * second, .set "urls:1" "refused" (some Number.maxWord64)⟩, ⟨4 * second, .get "urls:1"⟩]
    let cache := (Memory.empty 60).after visits
    (∀ visit ∈ visits, visit.moment ≤ 5 * second) ∧
    cache.get? (5 * second) "urls:1" = some "new" ∧
    ∃ keys : List String, keys.Nodup ∧
      (∀ key, key ∈ keys ↔ "urls:".toList <+: key.toList ∧
        ∃ value, AtHand 60 visits (5 * second) key value) ∧
      (cache.eraseAll (5 * second) "urls:").1 = keys.length := by
  intro second visits cache
  have earlier : ∀ visit ∈ visits, visit.moment ≤ 5 * second := by decide
  obtain ⟨reads, counts, -⟩ := memory_is_a_map_with_expiry 60 visits (5 * second) earlier
  refine ⟨earlier, (reads "urls:1" "new").mpr ?_, counts "urls:"⟩
  refine ⟨visits.take 2, ⟨2 * second, .set "urls:1" "new" none⟩, visits.drop 3, 62 * second, rfl,
    ⟨rfl, rfl, by decide +kernel, by decide +kernel⟩, by decide +kernel, by decide +kernel⟩

end Shortlink.Cache
