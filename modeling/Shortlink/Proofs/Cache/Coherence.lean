import Shortlink.Proofs.Cache.Freshness
import Shortlink.Proofs.Cache.Through
import Shortlink.Proofs.Link.Service
import Shortlink.Proofs.Outbox.Invalidation

/-!
# Coherence

Whatever is done over a store and a cache that begin empty, rows, messages, markers and cached
entries agree on the events that have been raised. So what a reading finds in the cache is as
good as what the store has, or else some event is not settled yet.
-/

namespace Shortlink

namespace Coherence

open Cache Outbox
open Time (Moment)

variable {events : List Event} {shared : Shared} {event : Event} {α : Type}

/-- The events so far, of which the shared state is in agreement. -/
abbrev Agrees (events : List Event) (shared : Shared) : Prop :=
  Coherent events shared.store shared.entries

/-- The shared state is in agreement on some events. -/
def Coheres (shared : Shared) : Prop := ∃ events, Agrees events shared

/-- What a program assures if nothing happens beside it. -/
abbrev Brings (program : Program α) (post : Except Abort α → Shared → Prop)
    (shared : Shared) : Prop :=
  program.Assures Shared.surroundings (.alone Shared) post shared

/-! ## Creation and removal -/

theorem coheres_creation {request : Effect} (isCreation : LinkService.IsCreation request)
    (chance : Chance) (coheres : Coheres shared) :
    Coheres (Shared.answer chance request shared).2 := by
  cases request with
  | newId | now | codeExists => exact coheres
  | addLink link =>
      obtain ⟨events, coherent⟩ := coheres
      obtain ⟨fronted, eventId, occurred, announces⟩ := isCreation
      have markers := (shared.store.add_frame link chance.now).2
      rcases coherent.records.add fronted announces chance.now with
        ⟨links, outbox⟩ | ⟨free, outbox, records⟩
      · exact ⟨events, coherent.frame links outbox markers (fun _ member => member)⟩
      · refine ⟨events ++ [link.creation eventId occurred], ?_⟩
        have grown := (Store.grows_add fronted chance.now coherent.records.sound).2
        exact coherent.announce (coherent.records.not_mem_creation free eventId occurred) records
          outbox markers (fun identity stored => grown.mem stored)
  | _ => exact isCreation.elim

theorem create_coheres (service : LinkService) (request : ShortenRequest)
    (coheres : Coheres shared) :
    Brings (service.create request).attempt (fun _ => Coheres) shared := by
  apply (LinkService.create_asks service request).assures (Script.alone_keeps Coheres)
  · intro request isCreation chance shared coheres
    exact ⟨True.intro, coheres_creation isCreation chance coheres⟩
  · exact coheres

/-- The removal of an active row that has just been found is announced, or nothing happens. -/
theorem coheres_removal (coherent : Agrees events shared) {link : Link}
    (isRow : link ∈ shared.store.links) (isActive : link.isActive = true) (eventId : Uuid)
    (occurred now : Moment) {after : Shared} (entries : after.entries = shared.entries)
    (updated : (shared.store.update (link.remove eventId occurred) .deleted now).2 = after.store) :
    Coheres after := by
  have markers : after.store.markers = shared.store.markers := by
    rw [← updated]
    exact (shared.store.update_frame _ .deleted now).2
  have stored : link.identity ∈ shared.store.identities := List.mem_map_of_mem isRow
  have unpending := coherent.records.unpending link isRow
  rcases coherent.records.remove stored unpending eventId occurred now updated with
    ⟨links, outbox⟩ | ⟨outbox, identities, records⟩
  · refine ⟨events, coherent.frame links outbox markers ?_⟩
    rw [entries]
    exact fun _ member => member
  · refine ⟨events ++ [link.removal eventId occurred], ?_⟩
    rw [Agrees, entries]
    have isNew := coherent.records.not_mem_removal isRow isActive eventId occurred
    exact coherent.announce isNew records outbox markers (fun _ stored => identities ▸ stored)

theorem remove_coheres (code : String) (coheres : Coheres shared) :
    Brings (LinkService.remove code).attempt (fun _ => Coheres) shared := by
  obtain ⟨events, coherent⟩ := coheres
  rw [LinkService.remove_eq]
  apply Script.Assures.step_of_ok
  intro chance
  refine ⟨.ok (shared.store.findByCode code), shared.later chance.elapsed, rfl, ?_⟩
  cases found : shared.store.findByCode code with
  | none => exact ⟨events, coherent⟩
  | some link =>
      obtain ⟨isRow, -, isActive⟩ := Store.findByCode_eq_some found
      apply Script.Assures.step_of_ok
      intro drawing
      refine ⟨drawing.id, _, rfl, ?_⟩
      apply Script.Assures.step_of_ok
      intro timing
      refine ⟨timing.now, _, rfl, ?_⟩
      apply Script.Assures.step_of_ok
      intro saving
      refine ⟨_, _, rfl, ?_⟩
      exact coheres_removal coherent isRow isActive drawing.id timing.now saving.now rfl rfl

/-! ## Resolution and listing -/

/-- The URL behind an active code, as the store has it. -/
def original (store : Store) (code : String) : Except Failure String :=
  match store.findByCode code with
  | some link => .ok link.longUrl
  | none => .error (.codeNotFound code)

theorem loadOriginal_eq (code : String) :
    (LinkService.loadOriginal code).attempt =
      .ask (Effect.findByCode code) fun
        | .ok (some link) => .done (.ok link.longUrl)
        | .ok none => .done (.error (.codeNotFound code))
        | .error failure => .done (.error failure) := by
  apply Script.ask_congr
  intro reply
  match reply with
  | .ok (some link) => rfl
  | .ok none => rfl
  | .error failure => rfl

theorem loads_original (code : String) (before : Shared) :
    Loads (LinkService.loadOriginal code) (.ok (original before.store code)) before := by
  rintro shared ⟨sameStore, sameCache⟩
  rw [loadOriginal_eq]
  apply Script.Assures.step_of_ok
  intro chance
  refine ⟨.ok (shared.store.findByCode code), shared.later chance.elapsed, rfl, ?_⟩
  rw [original, ← sameStore]
  cases shared.store.findByCode code with
  | none => exact ⟨rfl, sameStore, sameCache⟩
  | some link => exact ⟨rfl, sameStore, sameCache⟩

/-- What loading a page comes to. -/
def loadedPage (store : Store) (page size : Int) : Except Abort (Except Failure (List LinkView)) :=
  if (page - 1) * size ≤ Number.maxSigned64 then .ok (.ok (store.page page size))
  else .error .offsetOverflow

theorem loadPage_eq (page size : Int) :
    (LinkService.loadPage page size).attempt =
      if (page - 1) * size ≤ Number.maxSigned64 then
        .ask (Effect.listLinks ((page - 1) * size) size) fun
          | .ok links => .done (.ok (links.map Link.view))
          | .error failure => .done (.error failure)
      else .abort .offsetOverflow := by
  by_cases fits : (page - 1) * size ≤ Number.maxSigned64
  · rw [if_pos fits]
    have offset : LinkService.pageOffset page size = .done ((page - 1) * size) := if_pos fits
    rw [LinkService.loadPage, offset]
    apply Script.ask_congr
    intro reply
    cases reply with
    | ok links => rfl
    | error failure => rfl
  · rw [if_neg fits]
    have offset : LinkService.pageOffset page size = .abort .offsetOverflow := if_neg fits
    rw [LinkService.loadPage, offset]
    rfl

theorem loads_page (page size : Int) (before : Shared) :
    Loads (LinkService.loadPage page size) (loadedPage before.store page size) before := by
  rintro shared ⟨sameStore, sameCache⟩
  rw [loadPage_eq, loadedPage]
  by_cases fits : (page - 1) * size ≤ Number.maxSigned64
  · rw [if_pos fits, if_pos fits]
    apply Script.Assures.step_of_ok
    intro chance
    refine ⟨.ok (shared.store.list ((page - 1) * size) size), shared.later chance.elapsed, rfl, ?_⟩
    rw [← sameStore]
    exact ⟨rfl, sameStore, sameCache⟩
  · rw [if_neg fits, if_neg fits]
    exact ⟨rfl, sameStore, sameCache⟩

/-- A reading through the cache keeps the state in agreement, if what it caches is fresh. -/
theorem coheres_reading {codec : Codec α} {key : String} {ttl : Option Nat}
    {loaded result : Except Abort (Except Failure α)} {after : Shared}
    (reading : Reading codec key ttl loaded shared result after) (coherent : Agrees events shared)
    (fresh : ∀ value, loaded = .ok (.ok value) → ∀ entries,
      (∀ item ∈ entries,
        item ∈ shared.entries ∨ item.1 = key ∧ codec.encode? value = some item.2.value) →
      Fresh events shared.store entries) :
    Agrees events after := by
  cases reading with
  | hit held read same =>
      rw [Agrees, same.1, same.entries]
      exact coherent
  | unloaded nothing same =>
      rw [Agrees, same.1, same.entries]
      exact coherent
  | kept isLoaded store entries =>
      rw [Agrees, store]
      exact ⟨coherent.records, coherent.tracks, coherent.marked, fresh _ isLoaded _ entries⟩
  | unkept isLoaded cannotKeep store entries =>
      rw [Agrees, store]
      exact ⟨coherent.records, coherent.tracks, coherent.marked, fresh _ isLoaded _ entries⟩

theorem exists_of_original {store : Store} {code longUrl : String}
    (isOriginal : original store code = .ok longUrl) :
    ∃ link, store.findByCode code = some link ∧ link.longUrl = longUrl := by
  unfold original at isOriginal
  cases found : store.findByCode code with
  | none =>
      rw [found] at isOriginal
      contradiction
  | some link =>
      rw [found] at isOriginal
      exact ⟨link, rfl, Except.ok.inj isOriginal⟩

theorem resolve_reads (service : LinkService) (code : String) (shared : Shared) :
    Brings (service.resolve code).attempt
      (Reading .string (codeKey code) service.cacheTtl (.ok (original shared.store code)) shared)
      shared :=
  getOrLoad_assures (loads_original code shared)

theorem resolve_coheres (service : LinkService) (code : String) (coheres : Coheres shared) :
    Brings (service.resolve code).attempt (fun _ => Coheres) shared := by
  obtain ⟨events, coherent⟩ := coheres
  apply (resolve_reads service code shared).imp
  intro result after reading
  refine ⟨events, coheres_reading reading coherent ?_⟩
  intro longUrl isLoaded entries added
  obtain ⟨link, found, rfl⟩ := exists_of_original (Except.ok.inj isLoaded)
  exact coherent.fresh.keepCode coherent.records found added

theorem list_eq_of_accepted {page size : Int} (service : LinkService) (first : 1 ≤ page)
    (some : 1 ≤ size) (few : size ≤ LinkService.maxPageSize) :
    service.list page size =
      getOrLoad LinkView.codec.list (pageKey page size) service.cacheTtl
        (LinkService.loadPage page size) := by
  rw [LinkService.list, if_neg]
  omega

theorem list_reads (service : LinkService) {page size : Int} (first : 1 ≤ page) (some : 1 ≤ size)
    (few : size ≤ LinkService.maxPageSize) (shared : Shared) :
    Brings (service.list page size).attempt
      (Reading LinkView.codec.list (pageKey page size) service.cacheTtl
        (loadedPage shared.store page size) shared) shared := by
  rw [list_eq_of_accepted service first some few]
  exact getOrLoad_assures (loads_page page size shared)

theorem list_coheres (service : LinkService) (page size : Int) (coheres : Coheres shared) :
    Brings (service.list page size).attempt (fun _ => Coheres) shared := by
  by_cases refused : page < 1 ∨ size < 1 ∨ LinkService.maxPageSize < size
  · rw [LinkService.list, if_pos refused]
    exact coheres
  · obtain ⟨events, coherent⟩ := coheres
    apply (list_reads service (by omega) (by omega) (by omega) shared).imp
    intro result after reading
    refine ⟨events, coheres_reading reading coherent ?_⟩
    intro views isLoaded entries added
    unfold loadedPage at isLoaded
    split at isLoaded
    · cases isLoaded
      exact coherent.fresh.keepPage added
    · contradiction

/-! ## Dispatch -/

theorem dropPages_brings (shared : Shared) :
    Brings Invalidation.dropPages.attempt (fun result after =>
      result = .ok (.ok ()) ∧ after.store = shared.store ∧
        ∀ item ∈ after.entries, item ∈ shared.entries ∧ Memory.hasStem listStem item.1 = false)
      shared := by
  rw [Invalidation.dropPages_eq]
  apply Script.Assures.step_of_ok
  intro chance
  obtain ⟨count, after, answered, store, entries⟩ :=
    Shared.answer_cacheRemoveAll chance listStem shared
  exact ⟨.ok count, after, answered, rfl, store, entries⟩

theorem not_mem_of_hasStem {entries : List (String × Entry)}
    (dropped : ∀ item ∈ entries, Memory.hasStem listStem item.1 = false) (page size : Int)
    (entry : Entry) : (pageKey page size, entry) ∉ entries := by
  intro member
  have stemless := dropped _ member
  rw [hasStem_pageKey] at stemless
  contradiction

/-- What an event has made stale is dropped, and nothing else changes. -/
theorem drop_brings (event : Event) (shared : Shared) :
    Brings (Invalidation.drop event) (fun result after =>
      result = .ok (.ok ()) ∧ after.store = shared.store ∧
        (∀ item ∈ after.entries, item ∈ shared.entries) ∧ Dropped event after.entries)
      shared := by
  unfold Invalidation.drop
  cases kind : event.payload with
  | created value =>
      apply (dropPages_brings shared).imp
      rintro result after ⟨ended, store, entries⟩
      refine ⟨ended, store, fun item member => (entries item member).1, ?_, ?_⟩
      · exact not_mem_of_hasStem fun item member => (entries item member).2
      · intro removed isRemoved
        rw [kind] at isRemoved
        contradiction
  | removed value =>
      apply Script.Assures.step_of_ok
      intro chance
      obtain ⟨evicted, answered, evictedStore, evictedEntries⟩ :=
        Shared.answer_cacheRemove chance (codeKey value.code) shared
      refine ⟨.ok (), evicted, answered, ?_⟩
      apply (dropPages_brings evicted).imp
      rintro result after ⟨ended, store, entries⟩
      refine ⟨ended, store.trans evictedStore, ?_, ?_, ?_⟩
      · exact fun item member => (evictedEntries item (entries item member).1).1
      · exact not_mem_of_hasStem fun item member => (entries item member).2
      · intro removed isRemoved entry member
        rw [kind] at isRemoved
        cases isRemoved
        exact (evictedEntries _ (entries _ member).1).2 rfl

/-- An event has been handled: it is marked, and no mark is lost. -/
structure Handled (events : List Event) (event : Event) (markers : List Marker)
    (after : Shared) : Prop where
  coherent : Agrees events after
  grown : ∀ marker ∈ markers, marker ∈ after.store.markers
  isMarked : event.marker ∈ after.store.markers

/-- What a mark needs is there once what the event has made stale is dropped. -/
theorem handled_of_dropped (coherent : Agrees events shared) (raised : event ∈ events)
    (foremost : Foremost events shared.store.markers event) {dropped after : Shared}
    (store : dropped.store = shared.store) (fewer : ∀ item ∈ dropped.entries, item ∈ shared.entries)
    (isDropped : Dropped event dropped.entries)
    (marked : after.store = dropped.store.markConsumed event.marker)
    (entries : after.entries = dropped.entries) :
    Handled events event shared.store.markers after := by
  have between : Coherent events shared.store dropped.entries :=
    coherent.frame rfl rfl rfl fewer
  have stored : after.store = shared.store.markConsumed event.marker := by rw [marked, store]
  constructor
  · rw [Agrees, stored, entries]
    exact between.mark raised foremost isDropped
  · rw [stored]
    exact fun marker member => (shared.store.mem_markConsumed).mpr (.inl member)
  · rw [stored]
    exact (shared.store.mem_markConsumed).mpr (.inr rfl)

/-- The subscription of an event handles it, unless that has been done before. -/
theorem deliver_brings {subscription : Subscription}
    (isMarker : subscription.marker event = event.marker)
    (isHandler : (subscription.handler event).attempt = Invalidation.drop event)
    (coherent : Agrees events shared) (raised : event ∈ events)
    (foremost : Foremost events shared.store.markers event) :
    Brings (subscription.deliver event).attempt
      (fun result after =>
        result = .ok (.ok ()) ∧ Handled events event shared.store.markers after) shared := by
  rw [Subscription.deliver_eq, Subscription.mark_eq, isMarker, isHandler]
  apply Script.Assures.step_of_ok
  intro chance
  refine ⟨.ok (shared.store.isConsumed event.marker), shared.later chance.elapsed, rfl, ?_⟩
  cases consumed : shared.store.isConsumed event.marker with
  | true =>
      have isMarked := shared.store.isConsumed_iff.mp consumed
      exact ⟨rfl, coherent, fun _ member => member, isMarked⟩
  | false =>
      apply (drop_brings event (shared.later chance.elapsed)).andThen
      · rintro result dropped ⟨ended, store, fewer, isDropped⟩
        cases ended
        apply Script.Assures.step_of_ok
        intro marking
        refine ⟨.ok (), _, rfl, rfl, ?_⟩
        exact handled_of_dropped coherent raised foremost store fewer isDropped rfl rfl
      · rintro cause dropped ⟨ended, -⟩
        contradiction

/-- The bus of the service handles each event. -/
theorem publish_brings (coherent : Agrees events shared) (raised : event ∈ events)
    (foremost : Foremost events shared.store.markers event) :
    Brings (Bus.standard.publish event).attempt
      (fun result after =>
        result = .ok (.ok ()) ∧ Handled events event shared.store.markers after) shared := by
  obtain ⟨subscription, subscribers, isMarker, isHandler⟩ := Bus.subscribers_standard event
  rw [Bus.publish_eq, subscribers, Bus.deliverAll_cons, Script.andThen_assoc]
  apply (deliver_brings isMarker isHandler coherent raised foremost).andThen
  · rintro result after ⟨ended, handled⟩
    cases ended
    exact ⟨rfl, handled⟩
  · rintro cause after ⟨ended, -⟩
    contradiction

theorem retry_brings (step left made : Nat) (coherent : Agrees events shared)
    (raised : event ∈ events) (foremost : Foremost events shared.store.markers event) :
    Brings (Dispatcher.retry Bus.standard step event left made).attempt
      (fun result after =>
        result = .ok (.ok ()) ∧ Handled events event shared.store.markers after) shared := by
  cases left with
  | zero => exact publish_brings coherent raised foremost
  | succ left =>
      rw [Dispatcher.retry_succ]
      apply (publish_brings coherent raised foremost).andThen
      · rintro result after ⟨ended, handled⟩
        cases ended
        exact ⟨rfl, handled⟩
      · rintro cause after ⟨ended, -⟩
        contradiction

theorem deliver_message_brings (settings : DispatchSettings) {message : Message}
    (carries : message.Carries event) (coherent : Agrees events shared) (raised : event ∈ events)
    (foremost : Foremost events shared.store.markers event) :
    Brings ((Dispatcher.standard settings).deliver message) (fun result after =>
      (∃ delivery, result = .ok delivery) ∧
        Handled events event shared.store.markers after) shared := by
  rw [Dispatcher.deliver_eq, carries.decode]
  apply (retry_brings _ _ _ coherent raised foremost).andThen
  · rintro result after ⟨-, handled⟩
    exact ⟨⟨_, rfl⟩, handled⟩
  · rintro cause after ⟨ended, -⟩
    contradiction

/-- What a batch has come to: for each message that it has reached, the first event with its id
is marked. -/
structure Reached (events : List Event) (reached : List Message) (markers : List Marker)
    (after : Shared) : Prop where
  coherent : Agrees events after
  grown : ∀ marker ∈ markers, marker ∈ after.store.markers
  settles : ∀ message ∈ reached, ∀ first, events.find? (·.id == message.id) = some first →
    first.marker ∈ after.store.markers

theorem reached_nil (coherent : Agrees events shared) :
    Reached events [] shared.store.markers shared := by
  refine ⟨coherent, fun _ member => member, ?_⟩
  intro message member
  contradiction

/-- A batch comes to the same for one more message in front, whose event has been handled. -/
theorem Reached.cons {reached : List Message} {delivered after : Shared}
    (result : Reached events reached delivered.store.markers after)
    (handled : Handled events event shared.store.markers delivered)
    (foremost : Foremost events shared.store.markers event) {message : Message}
    (sameId : message.id = event.id) :
    Reached events (message :: reached) shared.store.markers after := by
  refine ⟨result.coherent, ?_, ?_⟩
  · exact fun marker member => result.grown marker (handled.grown marker member)
  · rintro other (_ | ⟨_, member⟩) first found
    · rw [sameId] at found
      rcases foremost first found with rfl | isMarked
      · exact result.grown _ handled.isMarked
      · exact result.grown _ (handled.grown _ isMarked)
    · exact result.settles other member first found

theorem foremost_of_inOrder {message : Message} {rest : List Message}
    (inOrder : InOrder events (fun event => event.marker ∈ shared.store.markers) (message :: rest))
    (carries : message.Carries event) : Foremost events shared.store.markers event := by
  intro first found
  rw [← carries.id] at found
  exact (inOrder.1 first found).imp_left fun also => also.unique carries

/-- With the event of the first message handled, the other messages are still in order. -/
theorem inOrder_of_handled {message : Message} {rest : List Message} {delivered : Shared}
    (inOrder : InOrder events (fun event => event.marker ∈ shared.store.markers) (message :: rest))
    (carries : message.Carries event)
    (handled : Handled events event shared.store.markers delivered) :
    InOrder events (fun event => event.marker ∈ delivered.store.markers) rest := by
  apply inOrder.2.mono
  rintro other (isMarked | also)
  · exact handled.grown _ isMarked
  · rw [also.unique carries]
    exact handled.isMarked

/-- The loop over a batch: all that stands before a message has been dealt with. -/
theorem deliverAll_brings (settings : DispatchSettings) {messages : List Message}
    (coherent : Agrees events shared)
    (carried : ∀ message ∈ messages, ∃ event ∈ events, message.Carries event)
    (inOrder : InOrder events (fun event => event.marker ∈ shared.store.markers) messages)
    (report : DispatchReport) :
    Brings ((Dispatcher.standard settings).deliverAll messages report) (fun result after =>
      ∃ reached, result = .ok reached ∧
        Reached events reached.2 shared.store.markers after) shared := by
  induction messages generalizing shared report with
  | nil => exact ⟨(report, []), rfl, reached_nil coherent⟩
  | cons message rest ih =>
      rw [List.forall_mem_cons] at carried
      obtain ⟨event, raised, carries⟩ := carried.1
      have foremost := foremost_of_inOrder inOrder carries
      rw [Dispatcher.deliverAll_cons]
      apply Script.Assures.step_of_ok
      intro cancelling
      refine ⟨cancelling.isCancelled, shared.later cancelling.elapsed, rfl, ?_⟩
      have later : Agrees events (shared.later cancelling.elapsed) := coherent
      cases cancelling.isCancelled with
      | true => exact ⟨(report, []), rfl, reached_nil later⟩
      | false =>
          apply (deliver_message_brings settings carries later raised foremost).andThen
          · rintro delivery delivered ⟨-, handled⟩
            apply Script.Assures.step_of_ok
            intro timing
            refine ⟨timing.now, delivered.later timing.elapsed, rfl, ?_⟩
            have handled : Handled events event shared.store.markers
                (delivered.later timing.elapsed) :=
              ⟨handled.coherent, handled.grown, handled.isMarked⟩
            have inOrder := inOrder_of_handled inOrder carries handled
            apply (ih handled.coherent carried.2 inOrder _).andThen
            · rintro reached after ⟨same, ended, result⟩
              cases ended
              exact ⟨_, rfl, result.cons handled foremost carries.id⟩
            · rintro cause after ⟨same, ended, -⟩
              contradiction
          · rintro cause after ⟨⟨delivery, ended⟩, -⟩
            contradiction

theorem dispatchBatch_brings (settings : DispatchSettings) (coherent : Agrees events shared) :
    Brings (Dispatcher.standard settings).dispatchBatch.attempt (fun result after =>
      (∃ report, result = .ok report) ∧ Agrees events after) shared := by
  rw [Dispatcher.dispatchBatch_eq]
  apply Script.Assures.step_of_ok
  intro fetching
  refine ⟨.ok (shared.store.fetch settings.batchSize), shared.later fetching.elapsed, rfl, ?_⟩
  have carried : ∀ message ∈ shared.store.fetch settings.batchSize,
      ∃ event ∈ events, message.Carries event := by
    intro message member
    exact coherent.tracks.exists_event (List.mem_of_mem_filter (List.mem_of_mem_take member))
  have inOrder := coherent.tracks.inOrder_fetch settings.batchSize
  have later : Agrees events (shared.later fetching.elapsed) := coherent
  apply (deliverAll_brings settings later carried inOrder _).andThen
  · rintro reached delivered ⟨same, ended, result⟩
    cases ended
    cases none : reached.2.isEmpty with
    | true => exact ⟨⟨_, rfl⟩, result.coherent⟩
    | false =>
        apply Script.Assures.step_of_ok
        intro saving
        refine ⟨.ok (), _, rfl, ⟨_, rfl⟩, ?_⟩
        exact result.coherent.of_tracks rfl rfl (result.coherent.tracks.saveOutcomes result.settles)
  · rintro cause delivered ⟨same, ended, -⟩
    contradiction

theorem dispatch_coheres (settings : DispatchSettings) (coheres : Coheres shared) :
    Brings (Dispatcher.standard settings).runOnce.attempt (fun _ => Coheres) shared := by
  obtain ⟨events, coherent⟩ := coheres
  rw [Dispatcher.runOnce_eq]
  apply Script.Assures.step_of_ok
  intro leasing
  refine ⟨.ok shared.store.tryLease.1, ⟨shared.store.tryLease.2, shared.cache,
    shared.ticks + leasing.elapsed⟩, rfl, ?_⟩
  unfold Store.tryLease
  cases shared.store.isLeased with
  | true => exact ⟨events, coherent⟩
  | false =>
      let leased : Shared :=
        ⟨{ shared.store with isLeased := true }, shared.cache, shared.ticks + leasing.elapsed⟩
      have isLeased : Agrees events leased :=
        coherent.frame rfl rfl rfl (fun _ member => member)
      have batch : Brings ((Dispatcher.standard settings).dispatchBatch.attempt.onAbort
          (ask (.dropLease ⟨0⟩))) (fun _ => Agrees events) leased := by
        apply (dispatchBatch_brings settings isLeased).onAbort
        · exact fun report after ended => ended.2
        · rintro cause after ⟨⟨report, ended⟩, -⟩
          contradiction
        · rintro cause after ⟨⟨report, ended⟩, -⟩
          contradiction
      apply batch.andThen
      · intro result after coherent
        apply Script.Assures.step_of_ok
        intro releasing
        refine ⟨.ok (), _, rfl, events, ?_⟩
        exact coherent.frame rfl rfl rfl (fun _ member => member)
      · exact fun cause after coherent => ⟨events, coherent⟩

theorem requeue_coheres (id : Uuid) (coheres : Coheres shared) :
    Brings (ask (.requeue id)) (fun _ => Coheres) shared := by
  obtain ⟨events, coherent⟩ := coheres
  apply Script.Assures.step_of_ok
  intro chance
  refine ⟨.ok (shared.store.requeue id).1, ⟨(shared.store.requeue id).2, shared.cache,
    shared.ticks + chance.elapsed⟩, rfl, events, ?_⟩
  rcases shared.store.requeue_cases id with ⟨-, absent⟩ | ⟨-, found⟩
  · rw [absent]
    exact coherent
  · rw [found]
    exact coherent.of_tracks rfl rfl (coherent.tracks.requeue id)

end Coherence

end Shortlink
