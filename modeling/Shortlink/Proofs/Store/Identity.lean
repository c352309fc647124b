import Shortlink.Proofs.Link.ShortUrl
import Shortlink.Proofs.Store.Tables

/-!
# The identity of stored URLs

Id, code, long URL and short URL stay the same as long as a URL is stored: they are what its
creation announces. The table of URLs is sound if no two identities share an id or a code.
Saves keep it sound and only ever add identities at its end.
-/

namespace Shortlink

open Time (Moment)

/-- What stays the same of a URL: what its creation announces. -/
def Link.identity (link : Link) : LinkCreated :=
  ⟨link.id, link.code, link.longUrl, link.shortUrl⟩

/-- The short URL is made of a front and the code. -/
def LinkCreated.IsFronted (identity : LinkCreated) : Prop :=
  ∃ front, Address.IsFront front ∧ identity.shortUrl = front ++ "/" ++ identity.code

namespace Store

/-- The identities of all rows. -/
def identities (store : Store) : List LinkCreated := store.links.map Link.identity

theorem map_linkId_identities (store : Store) :
    store.identities.map LinkCreated.linkId = store.links.map Link.id := List.map_map

theorem map_code_identities (store : Store) :
    store.identities.map LinkCreated.code = store.links.map Link.code := List.map_map

/-- No two rows share an id or a code, and all short URLs are made of a front and the
code. -/
structure Sound (store : Store) : Prop where
  ids : (store.identities.map LinkCreated.linkId).Nodup
  codes : (store.identities.map LinkCreated.code).Nodup
  fronted : ∀ identity ∈ store.identities, identity.IsFronted

theorem Sound.of_identities {store other : Store} (sound : store.Sound)
    (same : other.identities = store.identities) : other.Sound :=
  ⟨same ▸ sound.ids, same ▸ sound.codes, same ▸ sound.fronted⟩

theorem Sound.of_links {store other : Store} (sound : store.Sound)
    (same : other.links = store.links) : other.Sound :=
  sound.of_identities (congrArg (List.map Link.identity) same)

theorem sound_of_empty {store : Store} (empty : store.links = []) : store.Sound := by
  have identities : store.identities = [] := by rw [Store.identities, empty]; rfl
  constructor
  · simp [identities]
  · simp [identities]
  · simp [identities]

theorem Sound.rowIds {store : Store} (sound : store.Sound) :
    (store.links.map Link.id).Nodup := by
  rw [← map_linkId_identities]
  exact sound.ids

theorem Sound.rowCodes {store : Store} (sound : store.Sound) :
    (store.links.map Link.code).Nodup := by
  rw [← map_code_identities]
  exact sound.codes

theorem Sound.eq_of_id {store : Store} (sound : store.Sound) {row other : Link}
    (isRow : row ∈ store.links) (isOther : other ∈ store.links) (same : row.id = other.id) :
    row = other :=
  List.inj_on_of_nodup_map sound.rowIds isRow isOther same

theorem Sound.eq_of_code {store : Store} (sound : store.Sound) {row other : Link}
    (isRow : row ∈ store.links) (isOther : other ∈ store.links) (same : row.code = other.code) :
    row = other :=
  List.inj_on_of_nodup_map sound.rowCodes isRow isOther same

/-- Rows with different codes have different short URLs, whatever their fronts are. -/
theorem Sound.shortUrls {store : Store} (sound : store.Sound) :
    (store.links.map Link.shortUrl).Nodup := by
  apply List.Nodup.of_map codeOfShortUrl
  have codes : (store.links.map Link.shortUrl).map codeOfShortUrl =
      store.identities.map LinkCreated.code := by
    rw [identities, List.map_map, List.map_map]
    apply List.map_congr_left
    intro row member
    obtain ⟨front, isFront, spelled⟩ := sound.fronted row.identity (List.mem_map_of_mem member)
    have spelled : row.shortUrl = front ++ "/" ++ row.code := spelled
    simp only [Function.comp_apply]
    rw [spelled, codeOfShortUrl_append isFront]
    rfl
  rw [codes]
  exact sound.codes

/-- There is exactly one row with the id of a stored identity, and it has that identity. -/
theorem Sound.exists_unique {store : Store} (sound : store.Sound) {identity : LinkCreated}
    (stored : identity ∈ store.identities) :
    ∃ row, (store.links.filter fun row => row.id = identity.linkId) = [row] ∧
      row.identity = identity := by
  obtain ⟨row, member, rfl⟩ := List.mem_map.mp stored
  refine ⟨row, List.perm_singleton.mp ?_, rfl⟩
  have distinct := sound.rowIds
  rw [List.perm_ext_iff_of_nodup (distinct.of_map.filter _) (List.nodup_singleton row)]
  intro other
  rw [List.mem_filter, List.mem_singleton, decide_eq_true_eq]
  constructor
  · rintro ⟨isStored, same⟩
    exact List.inj_on_of_nodup_map distinct isStored member same
  · rintro rfl
    exact ⟨member, rfl⟩

/-- A change of the store keeps it sound and adds identities at most. -/
def Grows (before after : Store) : Prop :=
  before.Sound → after.Sound ∧ before.identities <+: after.identities

theorem Grows.refl (store : Store) : store.Grows store := fun sound => ⟨sound, List.prefix_rfl⟩

theorem Grows.trans {first second third : Store} (one : first.Grows second)
    (two : second.Grows third) : first.Grows third := by
  intro sound
  have between := one sound
  have last := two between.1
  exact ⟨last.1, between.2.trans last.2⟩

theorem Grows.of_links {before after : Store} (same : after.links = before.links) :
    before.Grows after := by
  intro sound
  have identities : after.identities = before.identities := congrArg (List.map Link.identity) same
  exact ⟨sound.of_links same, identities ▸ List.prefix_rfl⟩

/-- A new URL that is stored is the last of the identities. -/
theorem identities_add_of_ok {store : Store} {link : Link} {now : Moment}
    (stored : (store.add link now).1.result = .ok ()) :
    store.IsFree link ∧
      (store.add link now).2.identities = store.identities ++ [link.identity] := by
  rcases add_cases store link now with ⟨-, failure, failed⟩ | ⟨-, free, written⟩
  · rw [failed] at stored
    contradiction
  · refine ⟨free, ?_⟩
    rw [written]
    simp only [identities, List.map_append, List.map_cons, List.map_nil]
    rfl

/-- Storing a new URL whose short URL is made of a front and the code keeps the table
sound. -/
theorem grows_add {store : Store} {link : Link} (fronted : link.identity.IsFronted)
    (now : Moment) : store.Grows (store.add link now).2 := by
  rcases add_cases store link now with ⟨-, failure, failed⟩ | ⟨-, free, written⟩
  · rw [failed]
    exact .of_links rfl
  · intro sound
    have identities : (store.add link now).2.identities = store.identities ++ [link.identity] :=
      (identities_add_of_ok (by rw [written])).2
    have newId : link.id ∉ store.identities.map LinkCreated.linkId := by
      rw [Store.identities, List.map_map, List.mem_map]
      rintro ⟨row, member, same⟩
      exact (free row member).2 same
    have newCode : link.code ∉ store.identities.map LinkCreated.code := by
      rw [Store.identities, List.map_map, List.mem_map]
      rintro ⟨row, member, same⟩
      exact (free row member).1 same
    refine ⟨⟨?_, ?_, ?_⟩, identities ▸ List.prefix_append _ _⟩
    · rw [identities, List.map_append]
      exact sound.ids.append (List.nodup_singleton _) (List.disjoint_singleton.mpr newId)
    · rw [identities, List.map_append]
      exact sound.codes.append (List.nodup_singleton _) (List.disjoint_singleton.mpr newCode)
    · rw [identities]
      intro identity member
      rcases List.mem_append.mp member with old | new
      · exact sound.fronted identity old
      · rw [List.mem_singleton.mp new]
        exact fronted

/-- Storing the new state of a URL changes no identity, where no two rows share an id. -/
theorem identities_update_of_ids {store : Store} (ids : (store.links.map Link.id).Nodup)
    {link : Link} (stored : link.identity ∈ store.identities) (change : Change) (now : Moment) :
    (store.update link change now).2.identities = store.identities := by
  rcases update_cases store link change now with ⟨-, failure, failed⟩ | ⟨-, -, written⟩
  · rw [failed]
    rfl
  · rw [written]
    obtain ⟨row, member, identity⟩ := List.mem_map.mp stored
    apply map_replaceFirst
    intro other isStored found
    have sameId : other.id = row.id := by
      rw [beq_iff_eq.mp found]
      exact (congrArg LinkCreated.linkId identity).symm
    rw [List.inj_on_of_nodup_map ids isStored member sameId, identity]
    rfl

theorem identities_update {store : Store} (sound : store.Sound) {link : Link}
    (stored : link.identity ∈ store.identities) (change : Change) (now : Moment) :
    (store.update link change now).2.identities = store.identities :=
  identities_update_of_ids sound.rowIds stored change now

end Store

end Shortlink
