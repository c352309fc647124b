import Shortlink.Proofs.Cache.Codec
import Shortlink.Proofs.Cache.Key
import Shortlink.Proofs.Cache.Memory
import Shortlink.Proofs.Outbox.Events
import Shortlink.Proofs.Store.Records

/-!
# Fresh entries

What stands in the cache was right when it was written, and whatever has made it stale has
raised an event. A resolved entry never gets worse than the row of a removed URL, until the
removal is settled; listing pages may be anything as long as some event is not settled.
-/

namespace Shortlink

/-- A page of the active URLs, as the store has it. -/
def Store.page (store : Store) (page size : Int) : List LinkView :=
  (store.list ((page - 1) * size) size).map Link.view

namespace Cache

open Outbox (Settled Tracks)

/-- The entries of a cache are fresh as far as events are settled. -/
structure Fresh (events : List Event) (store : Store) (entries : List (String × Entry)) :
    Prop where
  codes : ∀ code entry, (codeKey code, entry) ∈ entries → ∃ identity ∈ store.identities,
    identity.code = code ∧ Codec.string.encode? identity.longUrl = some entry.value
  evicted : ∀ event, Settled events store.markers event → ∀ value,
    event.payload = .removed value → ∀ entry, (codeKey value.code, entry) ∉ entries
  pages : (∀ event ∈ events, Settled events store.markers event) → ∀ page size entry,
    (pageKey page size, entry) ∈ entries →
      LinkView.codec.list.encode? (store.page page size) = some entry.value

variable {events : List Event} {store other : Store} {entries more : List (String × Entry)}

theorem fresh_nil (events : List Event) (store : Store) : Fresh events store [] := by
  constructor
  · intro code entry member
    contradiction
  · intro event settled value isRemoved entry member
    contradiction
  · intro settled page size entry member
    contradiction

theorem Fresh.of_subset (fresh : Fresh events store entries)
    (fewer : ∀ item ∈ more, item ∈ entries) : Fresh events store more := by
  constructor
  · intro code entry member
    exact fresh.codes code entry (fewer _ member)
  · intro event settled value isRemoved entry member
    exact fresh.evicted event settled value isRemoved entry (fewer _ member)
  · intro settled page size entry member
    exact fresh.pages settled page size entry (fewer _ member)

theorem Fresh.of_rows (fresh : Fresh events store entries) (links : other.links = store.links)
    (markers : other.markers = store.markers) : Fresh events other entries := by
  have identities : other.identities = store.identities := by
    rw [Store.identities, Store.identities, links]
  have pages (page size : Int) : other.page page size = store.page page size := by
    simp only [Store.page, Store.list, Store.activeLinks, links]
  constructor
  · rw [identities]
    exact fresh.codes
  · rw [markers]
    exact fresh.evicted
  · rw [markers]
    intro settled page size entry member
    rw [pages]
    exact fresh.pages settled page size entry member

/-- A change of the rows that raises a new event may make every page stale, but spoils no
resolved entry. -/
theorem Fresh.announce (fresh : Fresh events store entries) {event : Event}
    (marked : ∀ marker ∈ store.markers, ∃ event ∈ events, event.id = marker.eventId)
    (isNew : event ∉ events)
    (grown : ∀ identity ∈ store.identities, identity ∈ other.identities)
    (markers : other.markers = store.markers) : Fresh (events ++ [event]) other entries := by
  constructor
  · intro code entry member
    obtain ⟨identity, stored, isCode, written⟩ := fresh.codes code entry member
    exact ⟨identity, grown identity stored, isCode, written⟩
  · rw [markers]
    intro settledEvent settled
    exact fresh.evicted settledEvent (settled.of_append marked)
  · rw [markers]
    intro settled
    have settled := (settled event (by simp)).of_append marked
    exact absurd settled.mem isNew

/-- The URL of an active row can be cached under its code. -/
theorem Fresh.keepCode (fresh : Fresh events store entries) (records : store.Records events)
    {code : String} {link : Link} (found : store.findByCode code = some link)
    (added : ∀ item ∈ more, item ∈ entries ∨
      item.1 = codeKey code ∧ Codec.string.encode? link.longUrl = some item.2.value) :
    Fresh events store more := by
  obtain ⟨isRow, isCode, isActive⟩ := Store.findByCode_eq_some found
  constructor
  · intro other entry member
    rcases added _ member with earlier | ⟨isKey, written⟩
    · exact fresh.codes other entry earlier
    · refine ⟨link.identity, List.mem_map_of_mem isRow, ?_, written⟩
      rw [codeKey_injective isKey]
      exact isCode
  · intro event settled value isRemoved entry member
    rcases added _ member with earlier | ⟨isKey, written⟩
    · exact fresh.evicted event settled value isRemoved entry earlier
    · obtain ⟨row, isStored, -, sameCode, isGone⟩ :=
        records.removed event settled.mem value isRemoved
      have sameCode : row.code = link.code := by
        rw [sameCode, isCode]
        exact codeKey_injective isKey
      rw [records.sound.eq_of_code isStored isRow sameCode, isActive] at isGone
      contradiction
  · intro settled page size entry member
    rcases added _ member with earlier | ⟨isKey, written⟩
    · exact fresh.pages settled page size entry earlier
    · exact absurd isKey.symm (codeKey_ne_pageKey code page size)

/-- A page can be cached as the store has it. -/
theorem Fresh.keepPage (fresh : Fresh events store entries) {page size : Int}
    (added : ∀ item ∈ more, item ∈ entries ∨ item.1 = pageKey page size ∧
      LinkView.codec.list.encode? (store.page page size) = some item.2.value) :
    Fresh events store more := by
  constructor
  · intro code entry member
    rcases added _ member with earlier | ⟨isKey, written⟩
    · exact fresh.codes code entry earlier
    · exact absurd isKey (codeKey_ne_pageKey code page size)
  · intro event settled value isRemoved entry member
    rcases added _ member with earlier | ⟨isKey, written⟩
    · exact fresh.evicted event settled value isRemoved entry earlier
    · exact absurd isKey (codeKey_ne_pageKey value.code page size)
  · intro settled otherPage otherSize entry member
    rcases added _ member with earlier | ⟨isKey, written⟩
    · exact fresh.pages settled otherPage otherSize entry earlier
    · obtain ⟨rfl, rfl⟩ := pageKey_injective isKey
      exact written

/-- What stands in no cache after an event has been handled. -/
structure Dropped (event : Event) (entries : List (String × Entry)) : Prop where
  pages : ∀ page size entry, (pageKey page size, entry) ∉ entries
  code : ∀ value, event.payload = .removed value → ∀ entry,
    (codeKey value.code, entry) ∉ entries

/-- The first event with the id of an event is that event, or it has been marked before. -/
def Foremost (events : List Event) (markers : List Marker) (event : Event) : Prop :=
  ∀ first, events.find? (·.id == event.id) = some first → first = event ∨ first.marker ∈ markers

/-- What an event has made stale must be dropped before the event is marked. No other event is
settled by the mark: it would have the same id and come first. -/
theorem Fresh.mark (fresh : Fresh events store entries) {event : Event}
    (foremost : Foremost events store.markers event) (dropped : Dropped event entries) :
    Fresh events (store.markConsumed event.marker) entries := by
  have links := (store.markConsumed_frame event.marker).1
  constructor
  · rw [Store.identities, links]
    exact fresh.codes
  · intro other settled value isRemoved entry member
    rcases (Store.mem_markConsumed store).mp settled.isMarked with earlier | isNow
    · exact fresh.evicted other ⟨settled.isFirst, earlier⟩ value isRemoved entry member
    · have sameId : other.id = event.id := congrArg Marker.eventId isNow
      have isFirst := settled.isFirst
      rw [sameId] at isFirst
      rcases foremost other isFirst with rfl | isMarked
      · exact dropped.code value isRemoved entry member
      · exact fresh.evicted other ⟨settled.isFirst, isMarked⟩ value isRemoved entry member
  · intro settled page size entry member
    exact absurd member (dropped.pages page size entry)

/-! ## The whole state -/

/-- Rows, messages, markers and cached entries agree on the events that have been raised. -/
structure Coherent (events : List Event) (store : Store) (entries : List (String × Entry)) :
    Prop where
  records : store.Records events
  tracks : Tracks events store.markers store.outbox
  marked : ∀ marker ∈ store.markers, ∃ event ∈ events, event.id = marker.eventId
  fresh : Fresh events store entries

theorem coherent_empty : Coherent [] {} [] := by
  refine ⟨Store.records_nil rfl, ⟨rfl, ?_⟩, ?_, fresh_nil [] {}⟩
  · intro message member
    contradiction
  · intro marker member
    contradiction

/-- What leaves rows, messages and markers alone and adds no entry leaves all in agreement. -/
theorem Coherent.frame (coherent : Coherent events store entries)
    (links : other.links = store.links) (outbox : other.outbox = store.outbox)
    (markers : other.markers = store.markers) (fewer : ∀ item ∈ more, item ∈ entries) :
    Coherent events other more := by
  refine ⟨coherent.records.of_links links, ?_, ?_, ?_⟩
  · rw [outbox, markers]
    exact coherent.tracks
  · rw [markers]
    exact coherent.marked
  · exact (coherent.fresh.of_subset fewer).of_rows links markers

/-- What changes only how far messages have got leaves all in agreement, if it keeps track of
that. -/
theorem Coherent.of_tracks (coherent : Coherent events store entries)
    (links : other.links = store.links) (markers : other.markers = store.markers)
    (tracks : Tracks events store.markers other.outbox) : Coherent events other entries := by
  refine ⟨coherent.records.of_links links, ?_, ?_, coherent.fresh.of_rows links markers⟩
  · rw [markers]
    exact tracks
  · rw [markers]
    exact coherent.marked

theorem Coherent.announce (coherent : Coherent events store entries) {event : Event}
    (isNew : event ∉ events) (records : other.Records (events ++ [event]))
    (outbox : other.outbox = store.outbox ++ [event].map Message.ofEvent)
    (markers : other.markers = store.markers)
    (grown : ∀ identity ∈ store.identities, identity ∈ other.identities) :
    Coherent (events ++ [event]) other entries := by
  refine ⟨records, ?_, ?_, coherent.fresh.announce coherent.marked isNew grown markers⟩
  · rw [outbox, markers]
    exact coherent.tracks.append [event]
  · rw [markers]
    intro marker member
    obtain ⟨earlier, isEvent, sameId⟩ := coherent.marked marker member
    exact ⟨earlier, List.mem_append_left _ isEvent, sameId⟩

theorem Coherent.mark (coherent : Coherent events store entries) {event : Event}
    (raised : event ∈ events) (foremost : Foremost events store.markers event)
    (dropped : Dropped event entries) :
    Coherent events (store.markConsumed event.marker) entries := by
  have same := store.markConsumed_frame event.marker
  refine ⟨coherent.records.of_links same.1, ?_, ?_, coherent.fresh.mark foremost dropped⟩
  · rw [same.2]
    apply coherent.tracks.mono
    exact fun marker member => (Store.mem_markConsumed store).mpr (.inl member)
  · intro marker member
    rcases (Store.mem_markConsumed store).mp member with earlier | rfl
    · exact coherent.marked marker earlier
    · exact ⟨event, raised, rfl⟩

end Cache

end Shortlink
