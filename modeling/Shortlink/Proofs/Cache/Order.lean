import Shortlink.Proofs.Cache.Codec
import Shortlink.Proofs.Cache.Key
import Shortlink.Proofs.Calls.Cached
import Shortlink.Proofs.Calls.Call
import Shortlink.Proofs.Store.Announcement

/-!
# The order of readings and evictions

Nothing orders a reading, which looks into the store and later caches what it has found, and the
eviction of a removed URL from the cache. So a URL may stand in the cache after its eviction, but
only if some call had found it before and has cached it since: such a call has overtaken the
eviction. The course of calls is orderly if that is the only way, and if no removal is settled
without an eviction. Every request keeps it so, provided that the calls which cache, mark and
store outcomes have done first what they have to.
-/

namespace Shortlink

namespace Overtaking

open Cache (Codec Entry codeKey codeKey_injective)
open Outbox (Settled Tracks)

variable {ι : Type}

/-! ## Exchanges -/

/-- The code that an exchange has looked up in the store, and the URL that it has found. -/
def found? : Exchange ι Effect.interface Shared → Option (String × String)
  | ⟨_, .findByCode code, .ok (.ok (some link)), _, _⟩ => some (code, link.longUrl)
  | _ => none

/-- The exchange drops the cached URL of a code that is announced to be removed. -/
structure Evicts (code : String) (exchange : Exchange ι Effect.interface Shared) : Prop where
  drops : exchange.request = .cacheRemove (codeKey code)
  announced : exchange.before.store.AnnouncesRemoval code

/-- The exchange caches a URL as that of a code. -/
def Fills (code longUrl : String) (exchange : Exchange ι Effect.interface Shared) : Prop :=
  ∃ text ttl, Codec.string.encode? longUrl = some text ∧
    exchange.request = .cacheSet (codeKey code) text ttl

/-- A call has overtaken an eviction: it has found the URL before, and has cached it after. -/
def Overtakes (code longUrl : String) (eviction : Exchange ι Effect.interface Shared)
    (history : List (Exchange ι Effect.interface Shared)) : Prop :=
  ∃ look fill, [look, eviction, fill].Sublist history ∧ look.call = fill.call ∧
    found? look = some (code, longUrl) ∧ Fills code longUrl fill

/-- A call has found a URL before any eviction of its code. -/
def Found (call : ι) (code longUrl : String)
    (history : List (Exchange ι Effect.interface Shared)) : Prop :=
  ∃ look ∈ history, look.call = call ∧ found? look = some (code, longUrl) ∧
    ∀ eviction ∈ history, Evicts code eviction → [look, eviction].Sublist history

variable {history more : List (Exchange ι Effect.interface Shared)}
  {exchange eviction : Exchange ι Effect.interface Shared} {call : ι} {code longUrl : String}

theorem Overtakes.mono (overtakes : Overtakes code longUrl eviction history)
    (grown : history <+: more) : Overtakes code longUrl eviction more := by
  obtain ⟨look, fill, ordered, overtaken⟩ := overtakes
  exact ⟨look, fill, ordered.trans grown.sublist, overtaken⟩

/-- Evictions that come later come after the look. -/
theorem Found.mono (found : Found call code longUrl history) (grown : history <+: more) :
    Found call code longUrl more := by
  obtain ⟨rest, rfl⟩ := grown
  obtain ⟨look, isLook, isOwn, isFound, ahead⟩ := found
  refine ⟨look, List.mem_append_left rest isLook, isOwn, isFound, ?_⟩
  intro eviction member evicts
  rcases List.mem_append.mp member with earlier | later
  · exact (ahead eviction earlier evicts).trans (List.sublist_append_left history rest)
  · exact (List.singleton_sublist.mpr isLook).append (List.singleton_sublist.mpr later)

/-! ## The store -/

/-- The store is announced, what it says of processed messages and marks is right, each settled
removal has been followed by an eviction, and evictions only come after announcements. -/
structure Recorded (history : List (Exchange ι Effect.interface Shared)) (store : Store) : Prop where
  announced : store.Announced
  tracks : Tracks store.events store.markers store.outbox
  marked : ∀ marker ∈ store.markers, ∃ event ∈ store.events, event.id = marker.eventId
  evicted : ∀ event, Settled store.events store.markers event → ∀ value,
    event.payload = .removed value → ∃ eviction ∈ history, Evicts value.code eviction
  gone : ∀ eviction ∈ history, ∀ code, Evicts code eviction → store.AnnouncesRemoval code

/-- The store has come so far from another one. -/
structure Grown (history : List (Exchange ι Effect.interface Shared)) (before after : Store) :
    Prop where
  recorded : Recorded history after
  events : before.events <+: after.events
  markers : ∀ marker ∈ before.markers, marker ∈ after.markers

variable {store after : Store}

theorem recorded_start (links : store.links = []) (outbox : store.outbox = [])
    (markers : store.markers = []) :
    Recorded ([] : List (Exchange ι Effect.interface Shared)) store := by
  have events : store.events = [] := by rw [Store.events, outbox]; rfl
  refine ⟨Store.announced_of_empty links outbox, ⟨?_, ?_⟩, ?_, ?_, ?_⟩
  · rw [outbox, events]
    rfl
  · simp [outbox]
  · simp [markers]
  · intro event settled
    have raised := settled.mem
    simp [events] at raised
  · simp

/-- One more exchange over a store that has grown since. -/
theorem Recorded.snoc (recorded : Recorded history store)
    (grown : exchange.before.store.events <+: store.events) :
    Recorded (history ++ [exchange]) store := by
  refine ⟨recorded.announced, recorded.tracks, recorded.marked, ?_, ?_⟩
  · intro event settled value isRemoval
    obtain ⟨eviction, member, evicts⟩ := recorded.evicted event settled value isRemoval
    exact ⟨eviction, List.mem_append_left _ member, evicts⟩
  · intro eviction member code evicts
    rcases List.mem_append.mp member with earlier | new
    · exact recorded.gone eviction earlier code evicts
    · rw [List.mem_singleton.mp new] at evicts
      exact evicts.announced.mono grown

/-- What alters neither rows nor what messages say, and no marker. -/
theorem Recorded.of_tracks (recorded : Recorded history store)
    (unaltered : Store.Unaltered store after) (markers : after.markers = store.markers)
    (tracks : Tracks store.events store.markers after.outbox) : Grown history store after := by
  have events := Store.events_of_requeued unaltered.outbox
  have proceeded := unaltered.proceeds recorded.announced
  refine ⟨⟨proceeded.1, ?_, ?_, ?_, ?_⟩, proceeded.2, ?_⟩
  · rw [events, markers]
    exact tracks
  · rw [events, markers]
    exact recorded.marked
  · rw [events, markers]
    exact recorded.evicted
  · exact fun eviction member code evicts =>
      (recorded.gone eviction member code evicts).mono proceeded.2
  · rw [markers]
    exact fun marker member => member

theorem Recorded.frame (recorded : Recorded history store) (links : after.links = store.links)
    (outbox : after.outbox = store.outbox) (markers : after.markers = store.markers) :
    Grown history store after := by
  have unaltered : Store.Unaltered store after := ⟨links, by rw [outbox]⟩
  apply recorded.of_tracks unaltered markers
  rw [outbox]
  exact recorded.tracks

/-- A save that announces an event: the event is not settled yet. -/
theorem Recorded.announce (recorded : Recorded history store) {event : Event}
    (proceeds : store.Proceeds after) (markers : after.markers = store.markers)
    (outbox : after.outbox = store.outbox ++ [event].map Message.ofEvent) :
    Grown history store after := by
  have events := Store.events_of_append outbox
  have proceeded := proceeds recorded.announced
  refine ⟨⟨proceeded.1, ?_, ?_, ?_, ?_⟩, proceeded.2, ?_⟩
  · rw [events, markers, outbox]
    exact recorded.tracks.append [event]
  · rw [events, markers]
    intro marker member
    obtain ⟨earlier, isEvent, sameId⟩ := recorded.marked marker member
    exact ⟨earlier, List.mem_append_left _ isEvent, sameId⟩
  · rw [events, markers]
    intro settledEvent settled
    exact recorded.evicted settledEvent (settled.of_append recorded.marked)
  · exact fun eviction member code evicts =>
      (recorded.gone eviction member code evicts).mono proceeded.2
  · rw [markers]
    exact fun marker member => member

/-- Storing a new URL that announces its creation. -/
theorem Recorded.add (recorded : Recorded history store) {link : Link} {eventId : Uuid}
    {occurred : Time.Moment} (fronted : link.identity.IsFronted)
    (announces : link.pending = [link.creation eventId occurred]) (now : Time.Moment) :
    Grown history store (store.add link now).2 := by
  have markers := (store.add_frame link now).2
  have proceeds : store.Proceeds (store.add link now).2 := Store.proceeds_add fronted announces now
  rcases recorded.announced.records.add fronted announces now with
    ⟨links, outbox⟩ | ⟨-, outbox, -⟩
  · exact recorded.frame links outbox markers
  · exact recorded.announce proceeds markers outbox

/-- Storing the removal of a URL whose row may have changed since it was read. -/
theorem Recorded.remove (recorded : Recorded history store) {link : Link}
    (stored : link.identity ∈ store.identities) (unpending : link.pending = [])
    (eventId : Uuid) (occurred now : Time.Moment) :
    Grown history store (store.update (link.remove eventId occurred) .deleted now).2 := by
  have markers := (store.update_frame (link.remove eventId occurred) .deleted now).2
  have proceeds := Store.proceeds_remove stored unpending eventId occurred now
  rcases recorded.announced.records.remove stored unpending eventId occurred now rfl with
    ⟨links, outbox⟩ | ⟨outbox, -, -⟩
  · exact recorded.frame links outbox markers
  · exact recorded.announce proceeds markers outbox

/-- The first event with the id of an event is that event, or it has been marked. -/
def Due (events : List Event) (markers : List Marker) (event : Event) : Prop :=
  ∃ first, events.find? (·.id == event.id) = some first ∧
    (first = event ∨ first.marker ∈ markers)

/-- A mark, made when it is due and, if the event is a removal, after an eviction. -/
theorem Recorded.mark (recorded : Recorded history store) {event : Event}
    (raised : event ∈ store.events) (due : Due store.events store.markers event)
    (evicted : ∀ value, event.payload = .removed value →
      ∃ eviction ∈ history, Evicts value.code eviction) :
    Grown history store (store.markConsumed event.marker) := by
  have same := store.markConsumed_frame event.marker
  have unaltered : Store.Unaltered store (store.markConsumed event.marker) :=
    ⟨same.1, by rw [same.2]⟩
  have events := Store.events_of_requeued unaltered.outbox
  have proceeded := unaltered.proceeds recorded.announced
  have markers : ∀ marker ∈ store.markers, marker ∈ (store.markConsumed event.marker).markers :=
    fun marker member => store.mem_markConsumed.mpr (.inl member)
  refine ⟨⟨proceeded.1, ?_, ?_, ?_, ?_⟩, proceeded.2, markers⟩
  · rw [events, same.2]
    exact recorded.tracks.mono markers
  · rw [events]
    intro marker member
    rcases store.mem_markConsumed.mp member with earlier | rfl
    · exact recorded.marked marker earlier
    · exact ⟨event, raised, rfl⟩
  · rw [events]
    intro other settled value isRemoval
    rcases store.mem_markConsumed.mp settled.isMarked with earlier | isNow
    · exact recorded.evicted other ⟨settled.isFirst, earlier⟩ value isRemoval
    · have sameId : other.id = event.id := congrArg Marker.eventId isNow
      obtain ⟨first, isFirst, isDue⟩ := due
      have isOther := settled.isFirst
      rw [sameId, isFirst] at isOther
      cases isOther
      rcases isDue with rfl | isMarked
      · exact evicted value isRemoval
      · exact recorded.evicted other ⟨settled.isFirst, isMarked⟩ value isRemoval
  · exact fun eviction member code evicts =>
      (recorded.gone eviction member code evicts).mono proceeded.2

/-! ## The cache -/

/-- Each URL that is cached after an eviction of its code has been cached by a call that has
overtaken the eviction. -/
def Accounted (history : List (Exchange ι Effect.interface Shared))
    (entries : List (String × Entry)) : Prop :=
  ∀ code entry, (codeKey code, entry) ∈ entries → ∀ eviction ∈ history, Evicts code eviction →
    ∃ longUrl, Codec.string.encode? longUrl = some entry.value ∧
      Overtakes code longUrl eviction history

variable {entries fewer : List (String × Entry)}

/-- One more exchange that adds no entry, and leaves none that it drops. -/
theorem Accounted.snoc (accounted : Accounted history entries)
    (kept : ∀ item ∈ fewer, item ∈ entries ∧ exchange.request ≠ .cacheRemove item.1) :
    Accounted (history ++ [exchange]) fewer := by
  intro code entry member eviction isEviction evicts
  obtain ⟨earlier, notDropped⟩ := kept _ member
  rcases List.mem_append.mp isEviction with old | new
  · obtain ⟨longUrl, encoded, overtakes⟩ := accounted code entry earlier eviction old evicts
    exact ⟨longUrl, encoded, overtakes.mono (List.prefix_append _ _)⟩
  · rw [List.mem_singleton.mp new] at evicts
    exact absurd evicts.drops notDropped

/-- What a call needs to cache a text: it has found the URL that the text stands for. Under
other keys than those of codes a text may be anything. -/
def MayFill (call : ι) (key text : String)
    (history : List (Exchange ι Effect.interface Shared)) : Prop :=
  ∀ code, key = codeKey code → ∃ longUrl,
    Codec.string.encode? longUrl = some text ∧ Found call code longUrl history

/-- One more exchange that caches what its call has found. -/
theorem Accounted.fill (accounted : Accounted history entries) {key text : String}
    {ttl : Option Nat} (isFill : exchange.request = .cacheSet key text ttl)
    (mayFill : MayFill exchange.call key text history)
    (added : ∀ item ∈ fewer, item ∈ entries ∨ item.1 = key ∧ item.2.value = text) :
    Accounted (history ++ [exchange]) fewer := by
  intro code entry member eviction isEviction evicts
  have isOld : eviction ∈ history := by
    rcases List.mem_append.mp isEviction with old | new
    · exact old
    · have drops := evicts.drops
      rw [List.mem_singleton.mp new, isFill] at drops
      contradiction
  rcases added _ member with earlier | ⟨rfl, rfl⟩
  · obtain ⟨longUrl, encoded, overtakes⟩ := accounted code entry earlier eviction isOld evicts
    exact ⟨longUrl, encoded, overtakes.mono (List.prefix_append _ _)⟩
  · obtain ⟨longUrl, encoded, look, isLook, isOwn, isFound, ahead⟩ := mayFill code rfl
    have ordered := (ahead eviction isOld evicts).append (List.Sublist.refl [exchange])
    exact ⟨longUrl, encoded, look, exchange, ordered, isOwn, isFound, _, ttl, encoded, isFill⟩

/-! ## The course of calls -/

/-- Store and cache are in order with what has been asked. -/
structure Orderly (course : SharedCourse ι) : Prop where
  recorded : Recorded course.history course.state.store
  accounted : Accounted course.history course.state.entries

/-- The course is orderly, and has come so far from another one. -/
structure Later (course other : SharedCourse ι) : Prop where
  orderly : Orderly other
  history : course.history <+: other.history
  events : course.state.store.events <+: other.state.store.events
  markers : ∀ marker ∈ course.state.store.markers, marker ∈ other.state.store.markers

/-- An orderly course goes on as one. -/
def Progress (course other : SharedCourse ι) : Prop := Orderly course → Later course other

theorem Progress.refl (course : SharedCourse ι) : Progress course course :=
  fun orderly => ⟨orderly, List.prefix_rfl, List.prefix_rfl, fun _ member => member⟩

theorem Progress.trans {first second third : SharedCourse ι} (one : Progress first second)
    (two : Progress second third) : Progress first third := by
  intro orderly
  have between := one orderly
  have last := two between.orderly
  exact ⟨last.orderly, between.history.trans last.history, between.events.trans last.events,
    fun marker member => last.markers marker (between.markers marker member)⟩

variable {course other : SharedCourse ι}

/-- A fact that stays so when an orderly course goes on. -/
def Lasting (fact : SharedCourse ι → Prop) : Prop :=
  ∀ course other, Orderly course → Later course other → fact course → fact other

theorem lasting_true : Lasting fun _ : SharedCourse ι => True := fun _ _ _ _ _ => True.intro

theorem Lasting.and {fact also : SharedCourse ι → Prop} (first : Lasting fact)
    (second : Lasting also) : Lasting fun course => fact course ∧ also course :=
  fun course other orderly later holds =>
    ⟨first course other orderly later holds.1, second course other orderly later holds.2⟩

theorem Lasting.progress {fact : SharedCourse ι → Prop} (lasting : Lasting fact)
    (holds : Orderly course ∧ fact course) (progress : Progress course other) :
    Orderly other ∧ fact other := by
  have later := progress holds.1
  exact ⟨later.orderly, lasting course other holds.1 later holds.2⟩

/-- Where the next saves are made to fail, the course stays orderly. -/
theorem progress_failSaves (course : SharedCourse ι) (count : Nat) :
    Progress course { course with state := course.state.failSaves count } := by
  intro orderly
  have grown : Grown course.history course.state.store (course.state.failSaves count).store :=
    orderly.recorded.frame rfl rfl rfl
  exact ⟨⟨grown.recorded, orderly.accounted⟩, List.prefix_rfl, grown.events, grown.markers⟩

theorem Grown.later (grown : Grown course.history course.state.store exchange.after.store)
    (connected : exchange.before = course.state)
    (accounted : Accounted (course.history ++ [exchange]) exchange.after.entries) :
    Later course (course.extend exchange) := by
  refine ⟨⟨grown.recorded.snoc ?_, accounted⟩, List.prefix_append _ _, grown.events,
    grown.markers⟩
  rw [connected]
  exact grown.events

/-- The rule of requests that cache nothing. -/
theorem Orderly.request (orderly : Orderly course) {request : Effect} {chance : Chance}
    (isNoWrite : ∀ key value ttl, request ≠ .cacheSet key value ttl)
    (grown : Grown course.history course.state.store
      (Shared.answer chance request course.state).2.store) :
    Later course (course.extend (course.exchange call request chance)) := by
  apply grown.later rfl
  apply orderly.accounted.snoc
  exact fun item member => Shared.mem_entries_of_mem_answer isNoWrite chance member

end Overtaking

/-- A request that stores no URL and no outcome, sets no mark and caches nothing. -/
def Effect.IsPlain : Effect → Prop
  | .addLink _ | .updateLink _ _ | .saveProcessed _ | .markConsumed _ | .cacheSet _ _ _ => False
  | _ => True

/-- Plain requests are replied to. -/
theorem Effect.IsPlain.exists_reply {request : Effect} (isPlain : request.IsPlain)
    (chance : Chance) (shared : Shared) :
    ∃ reply, (Shared.answer chance request shared).1 = .ok reply := by
  cases request with
  | addLink | updateLink | saveProcessed | markConsumed | cacheSet => exact isPlain.elim
  | cacheGet key =>
      obtain ⟨found, answered, -⟩ := Shared.answer_cacheGet chance key shared
      exact ⟨_, congrArg Prod.fst answered⟩
  | cacheRemove key =>
      obtain ⟨after, answered, -⟩ := Shared.answer_cacheRemove chance key shared
      exact ⟨_, congrArg Prod.fst answered⟩
  | cacheRemoveAll stem =>
      obtain ⟨count, after, answered, -⟩ := Shared.answer_cacheRemoveAll chance stem shared
      exact ⟨_, congrArg Prod.fst answered⟩
  | _ => exact ⟨_, rfl⟩

namespace Overtaking

open Outbox (Tracks)

variable {ι : Type} {course : SharedCourse ι} {call : ι}

theorem Recorded.plain {history : List (Exchange ι Effect.interface Shared)} {shared : Shared}
    (recorded : Recorded history shared.store) {request : Effect} (isPlain : request.IsPlain)
    (chance : Chance) :
    Grown history shared.store (Shared.answer chance request shared).2.store := by
  cases request with
  | addLink | updateLink | saveProcessed | markConsumed | cacheSet => exact isPlain.elim
  | requeue id =>
      have markers := (shared.store.requeue_frame id).2
      apply recorded.of_tracks (shared.store.unaltered_requeue id) markers
      rcases shared.store.requeue_cases id with ⟨-, absent⟩ | ⟨-, found⟩
      · rw [absent]
        exact recorded.tracks
      · rw [found]
        exact recorded.tracks.requeue id
  | tryLease =>
      change Grown history shared.store shared.store.tryLease.2
      unfold Store.tryLease
      split
      · exact recorded.frame rfl rfl rfl
      · exact recorded.frame rfl rfl rfl
  | cacheGet | cacheRemove | cacheRemoveAll =>
      apply recorded.frame
      · exact congrArg Store.links (Shared.onCache_store _ _ _)
      · exact congrArg Store.outbox (Shared.onCache_store _ _ _)
      · exact congrArg Store.markers (Shared.onCache_store _ _ _)
  | _ => exact recorded.frame rfl rfl rfl

/-- A plain request keeps the course orderly. -/
theorem Orderly.plain (orderly : Orderly course) {request : Effect} (isPlain : request.IsPlain)
    (chance : Chance) :
    Later course (course.extend (course.exchange call request chance)) := by
  apply orderly.request
  · rintro key value ttl rfl
    exact isPlain
  · exact orderly.recorded.plain isPlain chance

/-- Caching keeps the course orderly if the call has found what it caches. -/
theorem Orderly.fill (orderly : Orderly course) {key text : String} (ttl : Option Nat)
    (mayFill : MayFill call key text course.history) (chance : Chance) :
    Later course (course.extend (course.exchange call (.cacheSet key text ttl) chance)) := by
  obtain ⟨reply, after, answered, sameStore, entries, -⟩ :=
    Shared.answer_cacheSet chance key text ttl course.state
  have isAfter : (course.exchange call (.cacheSet key text ttl) chance).after = after := by
    rw [Course.exchange, answered]
  have grown : Grown course.history course.state.store after.store := by
    rw [sameStore]
    exact orderly.recorded.frame rfl rfl rfl
  rw [← isAfter] at grown entries
  exact grown.later rfl (orderly.accounted.fill rfl mayFill entries)

end Overtaking

end Shortlink
