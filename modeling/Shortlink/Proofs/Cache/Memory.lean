import Mathlib.Data.List.Nodup
import Shortlink.Cache.Memory

/-!
# What the operations on the cache do

Expired entries stand in the cache until the next write, so everything is said of all
entries, whether they are live or not. Each operation is described by the entries that it
leaves; their order matters for the keys under a stem only, which stand together.
-/

namespace Shortlink.Cache

/-! ## Entries in order -/

section Ordered

variable {key : String} {entry : Entry} {entries : List (String × Entry)}

/-- The first entry under a key is the only one. -/
theorem Ordered.lookup_eq_some_iff (ordered : Ordered entries) :
    entries.lookup key = some entry ↔ (key, entry) ∈ entries := by
  induction entries with
  | nil => simp
  | cons head rest induction =>
      obtain ⟨first, ordered⟩ := List.pairwise_cons.mp ordered
      rw [List.lookup_cons]
      by_cases same : key = head.1
      · subst same
        simp only [beq_self_eq_true, Option.some.injEq, List.mem_cons]
        constructor
        · rintro rfl
          exact .inl rfl
        · rintro (isHead | inRest)
          · exact congrArg Prod.snd isHead.symm
          · exact absurd (first _ inRest) (String.lt_irrefl _)
      · have notHead : (key, entry) ≠ head := fun isHead => same (congrArg Prod.fst isHead)
        simp only [beq_eq_false_iff_ne.mpr same, induction ordered, List.mem_cons, notHead,
          false_or]

theorem Ordered.nodup_keys (ordered : Ordered entries) : (entries.map Prod.fst).Nodup := by
  refine List.pairwise_map.mpr (ordered.imp ?_)
  intro earlier later less same
  exact String.lt_irrefl _ (same ▸ less)

theorem mem_place_self : (key, entry) ∈ place key entry entries := by
  induction entries with
  | nil => exact List.mem_cons_self
  | cons head rest induction =>
      rw [place]
      split
      · exact List.mem_cons_of_mem head induction
      · split
        · exact List.mem_cons_self
        · exact List.mem_cons_self

theorem mem_place_of_ne {item : String × Entry} (member : item ∈ entries) (other : item.1 ≠ key) :
    item ∈ place key entry entries := by
  induction entries with
  | nil => contradiction
  | cons head rest induction =>
      rw [place]
      split
      · rcases List.mem_cons.mp member with rfl | inRest
        · exact List.mem_cons_self
        · exact List.mem_cons_of_mem head (induction inRest)
      · split
        next same =>
          rcases List.mem_cons.mp member with rfl | inRest
          · exact absurd same other
          · exact List.mem_cons_of_mem _ inRest
        next => exact List.mem_cons_of_mem _ member

end Ordered

namespace Memory

variable {cache : Memory} {now : Nat} {key value stem : String} {ttl : Option Nat}

/-! ## Keys under a stem -/

theorem hasStem_iff : hasStem stem key = true ↔ stem.toList <+: key.toList :=
  List.isPrefixOf_iff_prefix

/-- A text does not come before its own beginning. -/
theorem not_lt_of_isPrefix {stem text : List Char} (begins : stem <+: text) : ¬text < stem := by
  obtain ⟨rest, rfl⟩ := begins
  induction stem with
  | nil => exact List.not_lt_nil _
  | cons c stem induction =>
      rw [List.cons_append, List.cons_lt_cons_iff]
      rintro (less | ⟨-, less⟩)
      · exact absurd less (Char.lt_irrefl c)
      · exact induction less

/-- What comes between a stem and a text that starts with it starts with it too. -/
theorem isPrefix_of_between {stem text rest : List Char} (notBefore : ¬text < stem)
    (before : text < stem ++ rest) : stem <+: text := by
  induction stem generalizing text with
  | nil => exact List.nil_prefix
  | cons c stem induction =>
      cases text with
      | nil => exact absurd (List.nil_lt_cons c stem) notBefore
      | cons d text =>
          rw [List.cons_lt_cons_iff] at notBefore
          rw [List.cons_append, List.cons_lt_cons_iff] at before
          rcases before with less | ⟨rfl, less⟩
          · exact absurd (.inl less) notBefore
          · have later : ¬text < stem := fun less => notBefore (.inr ⟨rfl, less⟩)
            exact List.cons_prefix_cons.mpr ⟨rfl, induction later less⟩

theorem not_lt_of_hasStem (begins : hasStem stem key = true) : ¬key < stem :=
  not_lt_of_isPrefix (hasStem_iff.mp begins)

theorem hasStem_of_between {other : String} (notBefore : ¬key < stem) (before : key < other)
    (begins : hasStem stem other = true) : hasStem stem key = true := by
  obtain ⟨rest, extended⟩ := hasStem_iff.mp begins
  have beforeExtended : key.toList < stem.toList ++ rest := by
    rw [extended]
    exact before
  exact hasStem_iff.mpr (isPrefix_of_between notBefore beforeExtended)

/-- From the stem on, the keys that start with it come first. -/
theorem takeWhile_hasStem {keys : List String} (ordered : keys.Pairwise (· < ·))
    (notBefore : ∀ key ∈ keys, ¬key < stem) :
    keys.takeWhile (hasStem stem) = keys.filter (hasStem stem) := by
  induction keys with
  | nil => rfl
  | cons key rest induction =>
      obtain ⟨first, ordered⟩ := List.pairwise_cons.mp ordered
      obtain ⟨notBefore, restNotBefore⟩ := List.forall_mem_cons.mp notBefore
      cases begins : hasStem stem key with
      | true =>
          rw [List.takeWhile_cons_of_pos begins, List.filter_cons_of_pos begins,
            induction ordered restNotBefore]
      | false =>
          have notUnder : ¬hasStem stem key = true := Bool.eq_false_iff.mp begins
          rw [List.takeWhile_cons_of_neg notUnder, List.filter_cons_of_neg notUnder]
          refine (List.filter_eq_nil_iff.mpr ?_).symm
          intro later member isUnder
          exact notUnder (hasStem_of_between notBefore (first later member) isUnder)

/-- The scan from the stem on meets all keys that start with it, and no other. -/
theorem scan_eq_filter {keys : List String} (ordered : keys.Pairwise (· < ·)) :
    (keys.dropWhile (decide <| · < stem)).takeWhile (hasStem stem) =
      keys.filter (hasStem stem) := by
  induction keys with
  | nil => rfl
  | cons key rest induction =>
      obtain ⟨first, restOrdered⟩ := List.pairwise_cons.mp ordered
      by_cases before : key < stem
      · have notUnder : ¬hasStem stem key = true := fun isUnder =>
          not_lt_of_hasStem isUnder before
        rw [List.dropWhile_cons_of_pos (by simpa using before), induction restOrdered,
          List.filter_cons_of_neg notUnder]
      · rw [List.dropWhile_cons_of_neg (by simpa using before)]
        apply takeWhile_hasStem ordered
        intro later member isBefore
        rcases List.mem_cons.mp member with rfl | inRest
        · exact before isBefore
        · exact before (String.lt_trans (first later inRest) isBefore)

theorem keysUnder_eq (cache : Memory) (stem : String) :
    cache.keysUnder stem = (cache.entries.map Prod.fst).filter (hasStem stem) :=
  scan_eq_filter (List.pairwise_map.mpr cache.ordered)

theorem mem_keysUnder :
    key ∈ cache.keysUnder stem ↔
      hasStem stem key = true ∧ ∃ entry, (key, entry) ∈ cache.entries := by
  simp [keysUnder_eq, and_comm]

theorem nodup_keysUnder (cache : Memory) (stem : String) : (cache.keysUnder stem).Nodup := by
  rw [keysUnder_eq]
  exact cache.ordered.nodup_keys.filter (hasStem stem)

/-! ## Entries that are left -/

theorem mem_retain {isKept : String × Entry → Bool} {item : String × Entry} :
    item ∈ (cache.retain isKept).entries ↔ item ∈ cache.entries ∧ isKept item = true :=
  List.mem_filter

theorem mem_purge {item : String × Entry} :
    item ∈ (cache.purge now).entries ↔ item ∈ cache.entries ∧ now < item.2.expires := by
  simp [purge, mem_retain, isLive]

theorem mem_erase {item : String × Entry} :
    item ∈ (cache.erase key).entries ↔ item ∈ cache.entries ∧ item.1 ≠ key := by
  rw [erase, mem_retain, bne_iff_ne]

/-- An entry that is put under a key takes the place of the one that was there. -/
theorem mem_insert {entry : Entry} {item : String × Entry} :
    item ∈ (cache.insert key entry).entries ↔
      item = (key, entry) ∨ item ∈ cache.entries ∧ item.1 ≠ key := by
  constructor
  · intro member
    by_cases same : item.1 = key
    · left
      have placed : (key, entry) ∈ (cache.insert key entry).entries := mem_place_self
      have first := (cache.insert key entry).ordered.lookup_eq_some_iff.mpr placed
      have second := (cache.insert key entry).ordered.lookup_eq_some_iff.mpr member
      rw [same, first] at second
      exact Prod.ext same (Option.some.inj second).symm
    · rcases mem_of_mem_place member with rfl | earlier
      · exact absurd rfl same
      · exact .inr ⟨earlier, same⟩
  · rintro (rfl | ⟨earlier, other⟩)
    · exact mem_place_self
    · exact mem_place_of_ne earlier other

theorem mem_foldl_erase {keys : List String} {item : String × Entry} :
    item ∈ (keys.foldl erase cache).entries ↔ item ∈ cache.entries ∧ item.1 ∉ keys := by
  induction keys generalizing cache with
  | nil => simp
  | cons key keys induction =>
      rw [List.foldl_cons, induction, mem_erase, List.mem_cons, not_or, and_assoc]

/-- What is left when all keys under a stem are dropped: the live entries under other keys. -/
theorem mem_eraseAll {item : String × Entry} :
    item ∈ (cache.eraseAll now stem).2.entries ↔
      (item ∈ cache.entries ∧ now < item.2.expires) ∧ hasStem stem item.1 = false := by
  rw [eraseAll, mem_foldl_erase, mem_keysUnder, mem_purge]
  constructor
  · rintro ⟨isLive, notUnder⟩
    refine ⟨isLive, Bool.eq_false_iff.mpr ?_⟩
    intro isUnder
    exact notUnder ⟨isUnder, item.2, mem_purge.mpr isLive⟩
  · rintro ⟨isLive, notUnder⟩
    refine ⟨isLive, ?_⟩
    rintro ⟨isUnder, -⟩
    rw [notUnder] at isUnder
    contradiction

/-! ## Reading and writing -/

/-- A value can be cached for so many seconds: there is a moment at which it expires. -/
def CanExpire (now ttl : Nat) : Prop := now / second + ttl ≤ Number.maxSigned64

instance (now ttl : Nat) : Decidable (CanExpire now ttl) := inferInstanceAs (Decidable (_ ≤ _))

/-- What is read is a live entry. -/
theorem get?_eq_some_iff :
    cache.get? now key = some value ↔
      ∃ expires, (key, ⟨value, expires⟩) ∈ cache.entries ∧ now < expires := by
  simp only [get?, Option.bind_eq_some_iff, cache.ordered.lookup_eq_some_iff, isLive,
    decide_eq_true_eq, Option.ite_none_right_eq_some, Option.some.injEq]
  constructor
  · rintro ⟨⟨held, expires⟩, member, live, rfl⟩
    exact ⟨expires, member, live⟩
  · rintro ⟨expires, member, live⟩
    exact ⟨⟨value, expires⟩, member, live, rfl⟩

/-- What is dropped because it has expired could not be read any more. -/
theorem get?_purge {earlier : Nat} (isEarlier : earlier ≤ now) :
    (cache.purge earlier).get? now key = cache.get? now key := by
  apply Option.ext
  intro value
  simp only [get?_eq_some_iff, mem_purge]
  constructor
  · rintro ⟨expires, ⟨member, -⟩, live⟩
    exact ⟨expires, member, live⟩
  · rintro ⟨expires, member, live⟩
    exact ⟨expires, ⟨member, Nat.lt_of_le_of_lt isEarlier live⟩, live⟩

/-- The live keys under a stem are those that can be read and start with it. -/
theorem mem_keysUnder_purge :
    key ∈ (cache.purge now).keysUnder stem ↔
      stem.toList <+: key.toList ∧ ∃ value, cache.get? now key = some value := by
  rw [mem_keysUnder, hasStem_iff]
  simp only [get?_eq_some_iff, mem_purge]
  constructor
  · rintro ⟨isUnder, ⟨value, expires⟩, member, live⟩
    exact ⟨isUnder, value, expires, member, live⟩
  · rintro ⟨isUnder, value, expires, member, live⟩
    exact ⟨isUnder, ⟨value, expires⟩, member, live⟩

theorem get?_insert_self {expires : Nat} {found : String} :
    (cache.insert key ⟨value, expires⟩).get? now key = some found ↔
      value = found ∧ now < expires := by
  simp only [get?_eq_some_iff, mem_insert]
  constructor
  · rintro ⟨moment, same | ⟨-, other⟩, live⟩
    · cases same
      exact ⟨rfl, live⟩
    · exact absurd rfl other
  · rintro ⟨rfl, live⟩
    exact ⟨expires, .inl rfl, live⟩

theorem get?_insert_of_ne {entry : Entry} {other : String} (isOther : other ≠ key) :
    (cache.insert key entry).get? now other = cache.get? now other := by
  apply Option.ext
  intro value
  simp only [get?_eq_some_iff, mem_insert, Prod.mk.injEq, isOther, false_and, false_or, ne_eq,
    not_false_eq_true, and_true]

theorem get?_erase_self : (cache.erase key).get? now key = none := by
  refine Option.eq_none_iff_forall_ne_some.mpr ?_
  intro value found
  obtain ⟨expires, member, -⟩ := get?_eq_some_iff.mp found
  exact (mem_erase.mp member).2 rfl

theorem get?_erase_of_ne {other : String} (isOther : other ≠ key) :
    (cache.erase key).get? now other = cache.get? now other := by
  apply Option.ext
  intro value
  simp only [get?_eq_some_iff, mem_erase, ne_eq, isOther, not_false_eq_true, and_true]

theorem get?_eraseAll_of_hasStem {earlier : Nat} (isUnder : hasStem stem key = true) :
    (cache.eraseAll earlier stem).2.get? now key = none := by
  refine Option.eq_none_iff_forall_ne_some.mpr ?_
  intro value found
  obtain ⟨expires, member, -⟩ := get?_eq_some_iff.mp found
  have notUnder := (mem_eraseAll.mp member).2
  rw [isUnder] at notUnder
  contradiction

theorem get?_eraseAll_of_not {earlier : Nat} (isEarlier : earlier ≤ now)
    (notUnder : hasStem stem key = false) :
    (cache.eraseAll earlier stem).2.get? now key = cache.get? now key := by
  refine Eq.trans ?_ (get?_purge isEarlier)
  apply Option.ext
  intro value
  simp only [get?_eq_some_iff, mem_eraseAll, mem_purge, notUnder, and_true]

theorem exists_of_get? (found : cache.get? now key = some value) :
    ∃ entry, (key, entry) ∈ cache.entries ∧ entry.value = value := by
  obtain ⟨expires, member, -⟩ := get?_eq_some_iff.mp found
  exact ⟨_, member, rfl⟩

/-- All that a write can do: it drops the expired entries and puts the value in, or else only
the first, where there is no moment at which the value would expire. -/
theorem set_cases (cache : Memory) (now : Nat) (key value : String) (ttl : Option Nat) :
    (CanExpire now (ttl.getD cache.defaultTtl) ∧
      cache.set now key value ttl = (.ok (), (cache.purge now).insert key
        ⟨value, now + ttl.getD cache.defaultTtl * second⟩)) ∨
    (¬CanExpire now (ttl.getD cache.defaultTtl) ∧
      cache.set now key value ttl = (.error .expiryOverflow, cache.purge now)) := by
  by_cases canExpire : CanExpire now (ttl.getD cache.defaultTtl)
  · have expiry : expiry? now (ttl.getD cache.defaultTtl) =
      .ok (now + ttl.getD cache.defaultTtl * second) := if_pos canExpire
    exact .inl ⟨canExpire, by simp only [set, purge, retain, expiry]⟩
  · have expiry : expiry? now (ttl.getD cache.defaultTtl) = .error .expiryOverflow :=
      if_neg canExpire
    exact .inr ⟨canExpire, by simp only [set, purge, retain, expiry]⟩

/-- After a write there is at most one entry that was not there before, and it has the value
that was written. -/
theorem mem_of_mem_set {item : String × Entry}
    (member : item ∈ (cache.set now key value ttl).2.entries) :
    item ∈ cache.entries ∨ item.1 = key ∧ item.2.value = value := by
  rcases set_cases cache now key value ttl with ⟨-, written⟩ | ⟨-, refused⟩
  · rw [written, mem_insert] at member
    rcases member with rfl | ⟨earlier, -⟩
    · exact .inr ⟨rfl, rfl⟩
    · exact .inl (mem_purge.mp earlier).1
  · rw [refused] at member
    exact .inl (mem_purge.mp member).1

theorem erase_defaultTtl (cache : Memory) (key : String) :
    (cache.erase key).defaultTtl = cache.defaultTtl := rfl

theorem eraseAll_defaultTtl (cache : Memory) (now : Nat) (stem : String) :
    (cache.eraseAll now stem).2.defaultTtl = cache.defaultTtl := by
  have kept : ∀ (keys : List String) (cache : Memory),
      (keys.foldl erase cache).defaultTtl = cache.defaultTtl := by
    intro keys
    induction keys with
    | nil => exact fun _ => rfl
    | cons key keys induction => exact fun cache => induction (cache.erase key)
  exact kept _ _

theorem set_defaultTtl (cache : Memory) (now : Nat) (key value : String) (ttl : Option Nat) :
    (cache.set now key value ttl).2.defaultTtl = cache.defaultTtl := by
  rcases set_cases cache now key value ttl with ⟨-, written⟩ | ⟨-, refused⟩
  · rw [written]
    rfl
  · rw [refused]
    rfl

end Memory

end Shortlink.Cache
