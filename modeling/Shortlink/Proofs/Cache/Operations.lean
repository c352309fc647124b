import Shortlink.Proofs.Cache.Coherence
import Shortlink.Proofs.Cache.Order

/-!
# Operations keep the course orderly

Beside any others, every operation of the service keeps the course of calls orderly. What a
dispatch run has learnt of a message lasts until it uses it, so it marks a removal only after an
eviction; and what a reading has found it has found before any eviction.
-/

namespace Shortlink

namespace Overtaking

open Cache (Codec codeKey pageKey codeKey_ne_pageKey)
open Outbox (InOrder)

variable {ι : Type} {call : ι} {course : SharedCourse ι} {event : Event}

/-! ## What a call has found or drawn up -/

theorem later_creation {request : Effect} (isCreation : LinkService.IsCreation request)
    (chance : Chance) (orderly : Orderly course) :
    Later course (course.extend (course.exchange call request chance)) := by
  cases request with
  | newId => exact orderly.plain (by exact True.intro) chance
  | now => exact orderly.plain (by exact True.intro) chance
  | codeExists code => exact orderly.plain (by exact True.intro) chance
  | addLink link =>
      obtain ⟨fronted, eventId, occurred, announces⟩ := isCreation
      exact orderly.request nofun (orderly.recorded.add fronted announces chance.now)
  | _ => exact isCreation.elim

theorem lasting_stored (identity : LinkCreated) :
    Lasting fun course : SharedCourse ι => identity ∈ course.state.store.identities := by
  intro course other orderly later stored
  have grown := orderly.recorded.announced.identities_prefix later.orderly.recorded.announced
    later.events
  exact grown.mem stored

theorem lasting_mayFill (call : ι) (key text : String) :
    Lasting fun course => MayFill call key text course.history := by
  intro course other orderly later mayFill code isKey
  obtain ⟨longUrl, encoded, found⟩ := mayFill code isKey
  exact ⟨longUrl, encoded, found.mono later.history⟩

/-- Who finds a URL in the store finds it before any eviction of its code. -/
theorem Orderly.found (orderly : Orderly course) {code : String} {link : Link}
    (found : course.state.store.findByCode code = some link) (chance : Chance) :
    Found call code link.longUrl
      (course.extend (course.exchange call (.findByCode code) chance)).history := by
  refine ⟨course.exchange call (.findByCode code) chance, by simp, rfl, ?_, ?_⟩
  · change found? ⟨call, .findByCode code, .ok (.ok (course.state.store.findByCode code)), _, _⟩ = _
    rw [found]
    rfl
  · intro eviction member evicts
    rcases List.mem_append.mp member with earlier | new
    · have announces := orderly.recorded.gone eviction earlier code evicts
      rw [orderly.recorded.announced.findByCode_eq_none announces] at found
      contradiction
    · rw [List.mem_singleton.mp new] at evicts
      nomatch evicts.drops

/-! ## What a run has fetched -/

/-- The event has been raised, and the first event with its id is this one or has been marked. -/
structure Deliverable (event : Event) (course : SharedCourse ι) : Prop where
  raised : event ∈ course.state.store.events
  due : Due course.state.store.events course.state.store.markers event

/-- If the event is a removal, it has been followed by an eviction. -/
def Evicted (event : Event) (course : SharedCourse ι) : Prop :=
  ∀ value, event.payload = .removed value → ∃ eviction ∈ course.history, Evicts value.code eviction

/-- The event has been marked. -/
def Marked (event : Event) (course : SharedCourse ι) : Prop :=
  event.marker ∈ course.state.store.markers

/-- The first event with the id of a message has been marked. -/
def Dealt (message : Message) (course : SharedCourse ι) : Prop :=
  ∃ first, course.state.store.events.find? (·.id == message.id) = some first ∧ Marked first course

/-- Messages that have been fetched: each carries an event, and comes after the first message with
its id has been dealt with. -/
structure Fetched (messages : List Message) (course : SharedCourse ι) : Prop where
  carried : ∀ message ∈ messages, ∃ event ∈ course.state.store.events, message.Carries event
  inOrder : InOrder course.state.store.events (fun event => Marked event course) messages

theorem lasting_deliverable (event : Event) :
    Lasting fun course : SharedCourse ι => Deliverable event course := by
  rintro course other orderly later ⟨raised, first, isFirst, isDue⟩
  exact ⟨later.events.subset raised, first, later.events.find?_eq_some isFirst,
    isDue.imp_right (later.markers _)⟩

theorem lasting_evicted (event : Event) :
    Lasting fun course : SharedCourse ι => Evicted event course := by
  intro course other orderly later evicted value isRemoval
  obtain ⟨eviction, member, evicts⟩ := evicted value isRemoval
  exact ⟨eviction, later.history.subset member, evicts⟩

theorem lasting_dealt (message : Message) :
    Lasting fun course : SharedCourse ι => Dealt message course := by
  rintro course other orderly later ⟨first, isFirst, isMarked⟩
  exact ⟨first, later.events.find?_eq_some isFirst, later.markers _ isMarked⟩

theorem lasting_fetched (messages : List Message) :
    Lasting fun course : SharedCourse ι => Fetched messages course := by
  rintro course other orderly later ⟨carried, inOrder⟩
  constructor
  · intro message member
    obtain ⟨event, raised, carries⟩ := carried message member
    exact ⟨event, later.events.subset raised, carries⟩
  · obtain ⟨more, same⟩ := later.events
    rw [← same]
    exact (inOrder.append carried more).mono fun event isMarked => later.markers _ isMarked

/-- The event of a message that is next can be delivered. -/
theorem Fetched.deliverable {message : Message} {rest : List Message}
    (fetched : Fetched (message :: rest) course) (carries : message.Carries event)
    (raised : event ∈ course.state.store.events) : Deliverable event course := by
  refine ⟨raised, ?_⟩
  rw [Due, ← carries.id]
  cases isFirst : course.state.store.events.find? (·.id == message.id) with
  | none =>
      have absent := List.find?_eq_none.mp isFirst event raised
      exact absurd (beq_iff_eq.mpr carries.id.symm) absent
  | some first =>
      refine ⟨first, rfl, ?_⟩
      exact (fetched.inOrder.1 first isFirst).imp_left fun also => also.unique carries

/-- Once the event of a message that is next is marked, the message has been dealt with, and the
others are in order. -/
theorem Fetched.next {message : Message} {rest : List Message}
    (fetched : Fetched (message :: rest) course) (carries : message.Carries event)
    (raised : event ∈ course.state.store.events) (isMarked : Marked event course) :
    Dealt message course ∧ Fetched rest course := by
  obtain ⟨first, isFirst, isDue⟩ := (fetched.deliverable carries raised).due
  rw [← carries.id] at isFirst
  refine ⟨⟨first, isFirst, ?_⟩, fun other member => fetched.carried other (.tail _ member), ?_⟩
  · rcases isDue with rfl | isMarked
    · exact isMarked
    · exact isMarked
  · apply fetched.inOrder.2.mono
    rintro other (isMarked | also)
    · exact isMarked
    · rw [also.unique carries]
      exact isMarked

/-- Outcomes are stored only of messages that have been dealt with. -/
theorem Orderly.saveProcessed (orderly : Orderly course) {reached : List Message}
    (dealt : ∀ message ∈ reached, Dealt message course) (chance : Chance) :
    Later course (course.extend (course.exchange call (.saveProcessed reached) chance)) := by
  have unaltered := course.state.store.unaltered_saveProcessed reached
  refine orderly.request nofun (orderly.recorded.of_tracks unaltered rfl ?_)
  apply orderly.recorded.tracks.saveOutcomes
  intro message member event found
  obtain ⟨first, isFirst, isMarked⟩ := dealt message member
  rw [found] at isFirst
  cases isFirst
  exact isMarked

variable [DecidableEq ι] {α β : Type}

/-! ## Rules -/

/-- The contract of an operation among others that keep the course orderly. -/
abbrev contract (call : ι) : Script.Contract (SharedCourse ι) :=
  .keeping Progress.refl Progress.trans call

/-- What a program assures as part of a call beside others. It keeps the course orderly anyway, by
the contract; the condition says what else holds at its end. -/
abbrev Ensures (call : ι) (program : Program α)
    (post : Except Abort α → SharedCourse ι → Prop) (course : SharedCourse ι) : Prop :=
  program.Assures (Shared.surroundings.recorded call) (contract call) post course

variable {fact : SharedCourse ι → Prop} {post : Except Abort α → SharedCourse ι → Prop}

theorem Lasting.keeps (lasting : Lasting fact) :
    (contract call).Keeps fun course => Orderly course ∧ fact course :=
  fun holds change => lasting.progress holds change.1

/-- The rule of requests: a fact still holds when the call makes its request. -/
theorem Lasting.ask {request : Effect} {next : request.Reply → Program α} (lasting : Lasting fact)
    (orderly : Orderly course) (holds : fact course)
    (step : ∀ course chance, Orderly course → fact course →
      Later course (course.extend (course.exchange call request chance)) ∧
        match (Shared.answer chance request course.state).1 with
        | .ok reply =>
          Ensures call (next reply) post (course.extend (course.exchange call request chance))
        | .error cause =>
          post (.error cause) (course.extend (course.exchange call request chance))) :
    Ensures (α := α) call (.ask request next) post course := by
  refine Script.Assures.ask lasting.keeps ⟨orderly, holds⟩ ?_
  rintro course chance ⟨orderly, holds⟩
  have stepped := step course chance orderly holds
  exact ⟨fun _ => stepped.1, stepped.2⟩

/-- The rule of plain requests, where it matters what is replied. -/
theorem Lasting.look {request : Effect} {next : request.Reply → Program α}
    (lasting : Lasting fact) (isPlain : request.IsPlain) (orderly : Orderly course)
    (holds : fact course)
    (continues : ∀ course chance reply, Orderly course → fact course →
      (Shared.answer chance request course.state).1 = .ok reply →
      Later course (course.extend (course.exchange call request chance)) →
      Ensures call (next reply) post (course.extend (course.exchange call request chance))) :
    Ensures (α := α) call (.ask request next) post course := by
  refine lasting.ask orderly holds ?_
  intro course chance orderly holds
  have later : Later course (course.extend (course.exchange call request chance)) :=
    orderly.plain isPlain chance
  obtain ⟨reply, replied⟩ := isPlain.exists_reply chance course.state
  refine ⟨later, ?_⟩
  rw [replied]
  exact continues course chance reply orderly holds replied later

/-- The rule of plain requests. -/
theorem Lasting.plain {request : Effect} {next : request.Reply → Program α}
    (lasting : Lasting fact) (isPlain : request.IsPlain) (orderly : Orderly course)
    (holds : fact course)
    (continues : ∀ reply course, Orderly course → fact course →
      Ensures call (next reply) post course) :
    Ensures (α := α) call (.ask request next) post course := by
  refine lasting.look isPlain orderly holds ?_
  intro course chance reply orderly holds replied later
  exact continues reply _ later.orderly (lasting _ _ orderly later holds)

/-- A fact still holds at the end of a program, and the course is still orderly then. -/
theorem Lasting.frame {program : Program α} (lasting : Lasting fact)
    (ensures : Ensures call program post course) (orderly : Orderly course) (holds : fact course) :
    Ensures call program (fun result course => post result course ∧ Orderly course ∧ fact course)
      course :=
  Script.Assures.frame ensures lasting.keeps lasting.progress ⟨orderly, holds⟩

/-- The rule of composition: a fact still holds between two parts of a program. -/
theorem Lasting.andThen {post' : Except Abort β → SharedCourse ι → Prop} {program : Program α}
    {next : α → Program β} (lasting : Lasting fact) (first : Ensures call program post course)
    (orderly : Orderly course) (holds : fact course)
    (second : ∀ value course, Orderly course → fact course → post (.ok value) course →
      Ensures call (next value) post' course)
    (broken : ∀ cause course, post (.error cause) course → post' (.error cause) course) :
    Ensures call (program.andThen next) post' course := by
  apply (lasting.frame first orderly holds).andThen
  · rintro value course ⟨ended, orderly, holds⟩
    exact second value course orderly holds ended
  · rintro cause course ⟨ended, -⟩
    exact broken cause course ended

/-! ## Creation and removal -/

theorem create_ensures (service : LinkService) (request : ShortenRequest)
    (orderly : Orderly course) :
    Ensures call (service.create request).attempt (fun _ _ => True) course := by
  have kept : Ensures call (service.create request).attempt (fun _ => Orderly) course := by
    apply (LinkService.create_asks service request).assures
    · exact fun orderly change => (change.1 orderly).orderly
    · intro request isCreation chance course orderly
      have later : Later course (course.extend (course.exchange call request chance)) :=
        later_creation isCreation chance orderly
      exact ⟨fun _ => later, later.orderly⟩
    · exact orderly
  exact kept.imp fun _ _ _ => True.intro

theorem remove_ensures (code : String) (orderly : Orderly course) :
    Ensures call (LinkService.remove code).attempt (fun _ _ => True) course := by
  rw [LinkService.remove_eq]
  refine lasting_true.look True.intro orderly True.intro ?_
  intro course chance reply orderly _ replied later
  match reply with
  | .error failure => exact True.intro
  | .ok none => exact True.intro
  | .ok (some link) =>
      have found : course.state.store.findByCode code = some link :=
        Except.ok.inj (Except.ok.inj replied)
      have isRow := (Store.findByCode_eq_some found).1
      have unpending := orderly.recorded.announced.records.unpending link isRow
      have stored : link.identity ∈ course.state.store.identities := List.mem_map_of_mem isRow
      have lasting := lasting_stored (ι := ι) link.identity
      refine lasting.plain True.intro later.orderly (lasting _ _ orderly later stored) ?_
      intro eventId course orderly stored
      refine lasting.plain True.intro orderly stored ?_
      intro occurred course orderly stored
      apply lasting.ask orderly stored
      intro course saving orderly stored
      have grown := orderly.recorded.remove stored unpending eventId occurred saving.now
      exact ⟨orderly.request nofun grown, True.intro⟩

/-! ## Readings -/

/-- A reading keeps the course orderly if its load finds what it loads. -/
theorem reading_ensures {codec : Codec α} {key : String} {ttl : Option Nat} {load : Action α}
    (loads : ∀ course, Orderly course → Ensures call load.attempt (fun result course =>
      ∀ value, result = .ok (.ok value) → ∀ text, codec.encode? value = some text →
        MayFill call key text course.history) course)
    (orderly : Orderly course) :
    Ensures call (Cache.getOrLoad codec key ttl load).attempt (fun _ _ => True) course := by
  rw [Cache.getOrLoad_eq]
  refine lasting_true.plain True.intro orderly True.intro ?_
  intro reply course orderly _
  cases Cache.seen codec reply with
  | some value => exact True.intro
  | none =>
      apply lasting_true.andThen (loads course orderly) orderly True.intro
      · intro result course orderly _ loaded
        cases result with
        | error failure => exact True.intro
        | ok value =>
            simp only [Cache.keep_eq]
            cases encoded : codec.encode? value with
            | none => exact True.intro
            | some text =>
                apply (lasting_mayFill call key text).ask orderly (loaded value rfl text encoded)
                intro course chance orderly mayFill
                refine ⟨orderly.fill ttl mayFill chance, ?_⟩
                split
                · exact True.intro
                · exact True.intro
      · exact fun _ _ _ => True.intro

theorem list_ensures (service : LinkService) (page size : Int) (orderly : Orderly course) :
    Ensures call (service.list page size).attempt (fun _ _ => True) course := by
  by_cases refused : page < 1 ∨ size < 1 ∨ LinkService.maxPageSize < size
  · rw [LinkService.list, if_pos refused]
    exact True.intro
  · rw [LinkService.list, if_neg refused]
    apply reading_ensures _ orderly
    intro course orderly
    -- No code is cached under the key of a page, so nothing has to be found.
    have free (text : String) (course : SharedCourse ι) :
        MayFill call (pageKey page size) text course.history :=
      fun code isKey => absurd isKey.symm (codeKey_ne_pageKey code page size)
    have kept : Ensures call (LinkService.loadPage page size).attempt (fun _ _ => True) course := by
      rw [Coherence.loadPage_eq]
      split
      · refine lasting_true.plain True.intro orderly True.intro ?_
        intro reply course orderly _
        cases reply with
        | ok links => exact True.intro
        | error failure => exact True.intro
      · exact True.intro
    exact kept.imp fun _ course _ _ _ text _ => free text course

theorem loadOriginal_ensures (code : String) (orderly : Orderly course) :
    Ensures call (LinkService.loadOriginal code).attempt (fun result course =>
      ∀ longUrl, result = .ok (.ok longUrl) → ∀ text,
        Codec.string.encode? longUrl = some text →
          MayFill call (codeKey code) text course.history) course := by
  rw [Coherence.loadOriginal_eq]
  refine lasting_true.look True.intro orderly True.intro ?_
  intro course chance reply orderly _ replied later
  match reply with
  | .error failure => exact fun _ isOk => nomatch isOk
  | .ok none => exact fun _ isOk => nomatch isOk
  | .ok (some link) =>
      have found : course.state.store.findByCode code = some link :=
        Except.ok.inj (Except.ok.inj replied)
      intro longUrl isOk text encoded other sameKey
      cases isOk
      rw [← Cache.codeKey_injective sameKey]
      exact ⟨link.longUrl, encoded, orderly.found found chance⟩

theorem resolve_ensures (service : LinkService) (code : String) (orderly : Orderly course) :
    Ensures call (service.resolve code).attempt (fun _ _ => True) course :=
  reading_ensures (fun _ orderly => loadOriginal_ensures code orderly) orderly

/-! ## Dispatch -/

/-- The listing pages are dropped, and what was so stays so. -/
theorem dropPages_ensures (lasting : Lasting fact) (orderly : Orderly course)
    (holds : fact course) :
    Ensures call Invalidation.dropPages.attempt
      (fun result course => result = .ok (.ok ()) ∧ fact course) course := by
  rw [Invalidation.dropPages_eq]
  refine lasting.look True.intro orderly holds ?_
  intro course chance reply orderly holds replied later
  obtain ⟨count, after, answered, -⟩ :=
    Shared.answer_cacheRemoveAll chance Cache.listStem course.state
  rw [answered] at replied
  cases replied
  exact ⟨rfl, lasting _ _ orderly later holds⟩

/-- A removal is followed by an eviction. -/
theorem drop_ensures (orderly : Orderly course) (deliverable : Deliverable event course) :
    Ensures call (Invalidation.drop event)
      (fun result course => result = .ok (.ok ()) ∧ Evicted event course) course := by
  unfold Invalidation.drop
  cases kind : event.payload with
  | created value =>
      apply dropPages_ensures (lasting_evicted event) orderly
      intro removed isRemoval
      rw [kind] at isRemoval
      contradiction
  | removed value =>
      refine (lasting_deliverable event).look True.intro orderly deliverable ?_
      intro course chance reply orderly deliverable replied later
      obtain ⟨after, answered, -⟩ :=
        Shared.answer_cacheRemove chance (codeKey value.code) course.state
      rw [answered] at replied
      cases replied
      apply dropPages_ensures (lasting_evicted event) later.orderly
      intro removed isRemoval
      rw [kind] at isRemoval
      cases isRemoval
      refine ⟨course.exchange call (.cacheRemove (codeKey value.code)) chance, by simp, rfl, ?_⟩
      exact ⟨event, deliverable.raised, value.linkId, kind⟩

/-- The subscription of an event marks it, unless that has been done before. -/
theorem deliver_ensures {subscription : Subscription}
    (isMarker : subscription.marker event = event.marker)
    (isHandler : (subscription.handler event).attempt = Invalidation.drop event)
    (orderly : Orderly course) (deliverable : Deliverable event course) :
    Ensures call (subscription.deliver event).attempt
      (fun result course => result = .ok (.ok ()) ∧ Marked event course) course := by
  rw [Subscription.deliver_eq, Subscription.mark_eq, isMarker, isHandler]
  have lasting := lasting_deliverable (ι := ι) event
  refine lasting.look True.intro orderly deliverable ?_
  intro course chance reply orderly deliverable replied later
  have isReply : reply = .ok (course.state.store.isConsumed event.marker) :=
    (Except.ok.inj replied).symm
  rw [isReply]
  cases consumed : course.state.store.isConsumed event.marker with
  | true => exact ⟨rfl, course.state.store.isConsumed_iff.mp consumed⟩
  | false =>
      have deliverable := lasting _ _ orderly later deliverable
      apply lasting.andThen (drop_ensures later.orderly deliverable) later.orderly deliverable
      · rintro result course orderly deliverable ⟨ended, evicted⟩
        cases ended
        apply (lasting.and (lasting_evicted event)).ask orderly ⟨deliverable, evicted⟩
        rintro course marking orderly ⟨deliverable, evicted⟩
        have grown := orderly.recorded.mark deliverable.raised deliverable.due evicted
        refine ⟨orderly.request nofun grown, rfl, ?_⟩
        exact course.state.store.mem_markConsumed.mpr (.inr rfl)
      · rintro cause course ⟨ended, -⟩
        contradiction

/-- The bus of the service has each event marked. -/
theorem publish_ensures (orderly : Orderly course) (deliverable : Deliverable event course) :
    Ensures call (Bus.standard.publish event).attempt
      (fun result course => result = .ok (.ok ()) ∧ Marked event course) course := by
  obtain ⟨subscription, subscribers, isMarker, isHandler⟩ := Bus.subscribers_standard event
  rw [Bus.publish_eq, subscribers, Bus.deliverAll_cons, Script.andThen_assoc]
  apply (deliver_ensures isMarker isHandler orderly deliverable).andThen
  · rintro result course ⟨ended, isMarked⟩
    cases ended
    exact ⟨rfl, isMarked⟩
  · rintro cause course ⟨ended, -⟩
    contradiction

theorem retry_ensures (step left made : Nat) (orderly : Orderly course)
    (deliverable : Deliverable event course) :
    Ensures call (Dispatcher.retry Bus.standard step event left made).attempt
      (fun result course => result = .ok (.ok ()) ∧ Marked event course) course := by
  cases left with
  | zero => exact publish_ensures orderly deliverable
  | succ left =>
      rw [Dispatcher.retry_succ]
      apply (publish_ensures orderly deliverable).andThen
      · rintro result course ⟨ended, isMarked⟩
        cases ended
        exact ⟨rfl, isMarked⟩
      · rintro cause course ⟨ended, -⟩
        contradiction

theorem deliver_message_ensures (settings : DispatchSettings) {message : Message}
    (carries : message.Carries event) (orderly : Orderly course)
    (deliverable : Deliverable event course) :
    Ensures call ((Dispatcher.standard settings).deliver message)
      (fun result course => (∃ delivery, result = .ok delivery) ∧ Marked event course) course := by
  rw [Dispatcher.deliver_eq, carries.decode]
  apply (retry_ensures _ _ _ orderly deliverable).andThen
  · rintro result course ⟨-, isMarked⟩
    exact ⟨⟨_, rfl⟩, isMarked⟩
  · rintro cause course ⟨ended, -⟩
    contradiction

/-- The loop over a batch: for each message that it has reached, the first event with its id is
marked. -/
theorem deliverAll_ensures (settings : DispatchSettings) {messages : List Message}
    (report : DispatchReport) (orderly : Orderly course) (fetched : Fetched messages course) :
    Ensures call ((Dispatcher.standard settings).deliverAll messages report)
      (fun result course => ∃ reached, result = .ok reached ∧
        ∀ message ∈ reached.2, Dealt message course) course := by
  induction messages generalizing course report with
  | nil => exact ⟨(report, []), rfl, by simp⟩
  | cons message rest ih =>
      rw [Dispatcher.deliverAll_cons]
      refine (lasting_fetched (message :: rest)).plain True.intro orderly fetched ?_
      intro isCancelled course orderly fetched
      cases isCancelled with
      | true => exact ⟨(report, []), rfl, by simp⟩
      | false =>
          obtain ⟨event, raised, carries⟩ := fetched.carried message List.mem_cons_self
          have deliverable := fetched.deliverable carries raised
          have lasting := (lasting_fetched (ι := ι) (message :: rest)).and (lasting_deliverable event)
          apply lasting.andThen (deliver_message_ensures settings carries orderly deliverable) orderly
            ⟨fetched, deliverable⟩
          · rintro delivery course orderly ⟨fetched, deliverable⟩ ⟨-, isMarked⟩
            have next := fetched.next carries deliverable.raised isMarked
            have lasting := (lasting_dealt (ι := ι) message).and (lasting_fetched rest)
            refine lasting.plain True.intro orderly next ?_
            rintro now course orderly ⟨dealt, fetched⟩
            apply (lasting_dealt message).andThen (ih _ orderly fetched) orderly dealt
            · rintro reached course orderly dealt ⟨same, ended, others⟩
              cases ended
              refine ⟨_, rfl, ?_⟩
              rw [List.forall_mem_cons]
              exact ⟨dealt, others⟩
            · rintro cause course ⟨same, ended, -⟩
              contradiction
          · rintro cause course ⟨⟨delivery, ended⟩, -⟩
            contradiction

theorem dispatchBatch_ensures (settings : DispatchSettings) (orderly : Orderly course) :
    Ensures call (Dispatcher.standard settings).dispatchBatch.attempt (fun _ _ => True) course := by
  rw [Dispatcher.dispatchBatch_eq]
  refine lasting_true.look True.intro orderly True.intro ?_
  intro course chance reply orderly _ replied later
  have isReply : reply = .ok (course.state.store.fetch settings.batchSize) :=
    (Except.ok.inj replied).symm
  rw [isReply]
  have fetched : Fetched (course.state.store.fetch settings.batchSize) course := by
    refine ⟨?_, orderly.recorded.tracks.inOrder_fetch settings.batchSize⟩
    intro message member
    exact orderly.recorded.tracks.exists_event
      (List.mem_of_mem_filter (List.mem_of_mem_take member))
  have fetched := lasting_fetched _ _ _ orderly later fetched
  apply lasting_true.andThen (deliverAll_ensures settings _ later.orderly fetched) later.orderly
    True.intro
  · rintro reached course orderly - ⟨same, ended, dealt⟩
    cases ended
    cases reached.2.isEmpty with
    | true => exact True.intro
    | false =>
        have lasting : Lasting fun course : SharedCourse ι =>
            ∀ message ∈ reached.2, Dealt message course :=
          fun course other orderly later dealt message member =>
            lasting_dealt message course other orderly later (dealt message member)
        apply lasting.ask orderly dealt
        intro course chance orderly dealt
        exact ⟨orderly.saveProcessed dealt chance, True.intro⟩
  · exact fun _ _ _ => True.intro

theorem dispatch_ensures (settings : DispatchSettings) (orderly : Orderly course) :
    Ensures call (Dispatcher.standard settings).runOnce.attempt (fun _ _ => True) course := by
  rw [Dispatcher.runOnce_eq]
  refine lasting_true.plain True.intro orderly True.intro ?_
  intro reply course orderly _
  match reply with
  | .error failure => exact True.intro
  | .ok none => exact True.intro
  | .ok (some lease) =>
      have batch : Ensures call ((Dispatcher.standard settings).dispatchBatch.attempt.onAbort
          (ask (.dropLease lease))) (fun _ _ => True) course := by
        apply (lasting_true.frame (dispatchBatch_ensures settings orderly) orderly True.intro).onAbort
        · exact fun _ _ _ => True.intro
        · exact fun _ _ _ => True.intro
        · rintro cause course ⟨-, orderly, -⟩
          exact lasting_true.plain (by exact True.intro) orderly True.intro
            fun _ _ _ _ _ => True.intro
      apply lasting_true.andThen batch orderly True.intro
      · intro result course orderly _ _
        exact lasting_true.plain (by exact True.intro) orderly True.intro
          fun _ _ _ _ => True.intro
      · exact fun _ _ _ => True.intro

end Overtaking

end Shortlink
