import Shortlink.Proofs.Calls.Call
import Shortlink.Proofs.Link.Service
import Shortlink.Proofs.Outbox.Invalidation
import Shortlink.Proofs.Script.Accounting
import Shortlink.Proofs.Store.Announcement

/-!
# Conservation of events

Rows and messages are written together, so whatever runs beside each other, the messages of
the outbox announce just what has happened to the rows. Only saves add messages, and each call
adds no id more often than it has drawn it. So messages have different ids if the ids that they
have were drawn once.
-/

namespace Shortlink

/-- A request that stores neither a new URL nor the new state of one. -/
def Effect.LeavesLinks : Effect → Prop
  | .addLink _ | .updateLink _ _ => False
  | _ => True

/-- A request that stores no URL alters neither rows nor what messages say. -/
theorem Effect.LeavesLinks.unaltered {request : Effect} (leaves : request.LeavesLinks)
    (chance : Chance) (shared : Shared) :
    Store.Unaltered shared.store (Shared.answer chance request shared).2.store := by
  cases request with
  | addLink | updateLink => exact leaves.elim
  | requeue id => exact shared.store.unaltered_requeue id
  | saveProcessed messages => exact shared.store.unaltered_saveProcessed messages
  | markConsumed marker =>
      have same := shared.store.markConsumed_frame marker
      exact ⟨same.1, congrArg (List.map Message.requeue) same.2⟩
  | tryLease =>
      change Store.Unaltered shared.store shared.store.tryLease.2
      unfold Store.tryLease
      split
      · exact ⟨rfl, rfl⟩
      · exact ⟨rfl, rfl⟩
  | cacheGet | cacheSet | cacheRemove | cacheRemoveAll =>
      refine ⟨?_, ?_⟩
      · exact congrArg Store.links (Shared.onCache_store _ _ _)
      · exact congrArg (fun store => store.outbox.map Message.requeue)
          (Shared.onCache_store _ _ _)
  | _ => exact ⟨rfl, rfl⟩

/-- The handlers of the service store no URLs. -/
theorem Bus.standard_leavesLinks : Bus.standard.Handles Effect.LeavesLinks := by
  apply standard_handles.mono
  intro request isInvalidation
  cases request with
  | addLink | updateLink => exact isInvalidation
  | _ => exact True.intro

namespace Conservation

variable {ι : Type} [DecidableEq ι]

/-! ## Accounts of ids -/

/-- The id that an exchange has drawn, if it has drawn one. -/
def drawnIds : Exchange ι Effect.interface Shared → List Uuid
  | ⟨_, .newId, .ok id, _, _⟩ => [id]
  | _ => []

/-- The ids of the messages that an exchange has added to the outbox. -/
def addedIds (exchange : Exchange ι Effect.interface Shared) : List Uuid :=
  (exchange.after.store.outbox.map Message.id).drop exchange.before.store.outbox.length

/-- All ids that have been drawn, in order. -/
def draws (course : SharedCourse ι) : List Uuid := course.history.flatMap drawnIds

/-- The store is announced, its messages have the ids that exchanges have added, and no call
has added an id more often than it has drawn it. -/
structure Conserved (course : SharedCourse ι) : Prop where
  announced : course.state.store.Announced
  added : course.state.store.outbox.map Message.id = course.history.flatMap addedIds
  afforded : ∀ call,
    ((course.own call).flatMap addedIds).Subperm ((course.own call).flatMap drawnIds)

/-- Calls conserve events and add some at the end at most. -/
abbrev Progress : SharedCourse ι → SharedCourse ι → Prop :=
  Advances Conserved (·.state.store.events)

/-- The contract of a call that conserves events. -/
abbrev contract (call : ι) : Script.Contract (SharedCourse ι) :=
  .keeping (Advances.refl Conserved (·.state.store.events)) Advances.trans call

variable {call : ι} {course : SharedCourse ι} {α : Type}

theorem keeps_conserved : (contract call).Keeps Conserved :=
  fun conserved change => (change.1 conserved).1

/-- Events are conserved, and a call has found some identities stored and has some ids in hand
that it has drawn and not yet added. -/
structure InHand (call : ι) (found : List LinkCreated) (ids : List Uuid)
    (course : SharedCourse ι) : Prop where
  conserved : Conserved course
  stored : found ⊆ course.state.store.identities
  afforded : ((course.own call).flatMap addedIds ++ ids).Subperm
    ((course.own call).flatMap drawnIds)

variable {found : List LinkCreated} {ids : List Uuid}

/-- What has been found stored stays so. -/
theorem stored_of_progress {other : SharedCourse ι} (conserved : Conserved course)
    (progress : Progress course other) (stored : found ⊆ course.state.store.identities) :
    found ⊆ other.state.store.identities := by
  have proceeded := progress conserved
  have grown := conserved.announced.identities_prefix proceeded.1.announced proceeded.2
  exact List.Subset.trans stored grown.subset

theorem keeps_inHand : (contract call).Keeps (InHand call found ids) := by
  intro course other inHand change
  refine ⟨(change.1 inHand.conserved).1, ?_, ?_⟩
  · exact stored_of_progress inHand.conserved change.1 inHand.stored
  · rw [change.2]
    exact inHand.afforded

theorem Conserved.inHand (conserved : Conserved course) (call : ι) :
    InHand call [] [] course := by
  refine ⟨conserved, List.nil_subset _, ?_⟩
  rw [List.append_nil]
  exact conserved.afforded call

theorem InHand.keep (inHand : InHand call found ids course) {kept : List Uuid}
    (fewer : kept.Sublist ids) : InHand call found kept course := by
  refine ⟨inHand.conserved, inHand.stored, List.Subperm.trans ?_ inHand.afforded⟩
  exact (fewer.append_left _).subperm

/-- The rule of exchanges: what is added and what is left in hand must have been in hand or been
drawn. -/
theorem InHand.extend {left : List Uuid} (inHand : InHand call found ids course)
    {exchange : Exchange ι Effect.interface Shared} (isOwn : exchange.call = call)
    (connected : exchange.before = course.state)
    (proceeds : course.state.store.Proceeds exchange.after.store)
    (balanced : (addedIds exchange ++ left).Subperm (ids ++ drawnIds exchange)) :
    Progress course (course.extend exchange) ∧
      InHand call found left (course.extend exchange) := by
  subst isOwn
  have conserved := inHand.conserved
  have proceeded := proceeds conserved.announced
  have added : exchange.after.store.outbox.map Message.id =
      course.state.store.outbox.map Message.id ++ addedIds exchange := by
    have grown := conserved.announced.ids_prefix proceeded.1 proceeded.2
    rw [addedIds, connected, ← List.length_map Message.id]
    exact (List.prefix_iff_eq_append.mp grown).symm
  have own (ids : Exchange ι Effect.interface Shared → List Uuid) :
      ((course.extend exchange).own exchange.call).flatMap ids =
        (course.own exchange.call).flatMap ids ++ ids exchange := by
    rw [Course.own_extend_self, List.flatMap_append, List.flatMap_singleton]
  have afforded : (((course.extend exchange).own exchange.call).flatMap addedIds ++ left).Subperm
      (((course.extend exchange).own exchange.call).flatMap drawnIds) := by
    rw [own, own, List.append_assoc]
    apply ((List.subperm_append_left _).mpr balanced).trans
    rw [← List.append_assoc]
    exact (List.subperm_append_right _).mpr inHand.afforded
  have extended : Conserved (course.extend exchange) := by
    refine ⟨proceeded.1, ?_, ?_⟩
    · rw [Course.extend_state, added, conserved.added, Course.extend_history,
        List.flatMap_append, List.flatMap_singleton]
    · intro call
      by_cases isOwn : exchange.call = call
      · subst isOwn
        exact (List.sublist_append_left _ left).subperm.trans afforded
      · rw [Course.own_extend_of_ne course isOwn]
        exact conserved.afforded call
  have progress : Progress course (course.extend exchange) := fun _ => ⟨extended, proceeded.2⟩
  exact ⟨progress, extended, stored_of_progress conserved progress inHand.stored, afforded⟩

/-- A request that stores no URL adds nothing. -/
theorem InHand.pass (inHand : InHand call found ids course) {request : Effect}
    (leaves : request.LeavesLinks) (chance : Chance) :
    Progress course (course.extend (course.exchange call request chance)) ∧
      InHand call found (ids ++ drawnIds (course.exchange call request chance))
        (course.extend (course.exchange call request chance)) := by
  have unaltered := leaves.unaltered chance course.state
  have nothing : addedIds (course.exchange call request chance) = [] := by
    have sameLength := congrArg List.length unaltered.outbox
    rw [List.length_map, List.length_map] at sameLength
    apply List.drop_of_length_le
    rw [List.length_map]
    exact sameLength.le
  refine inHand.extend rfl rfl unaltered.proceeds ?_
  rw [nothing, List.nil_append]

/-- A save spends the ids of the pending events, or adds nothing. -/
theorem InHand.spend {link : Link}
    (inHand : InHand call found (link.pending.map Event.id) course)
    {exchange : Exchange ι Effect.interface Shared} (isOwn : exchange.call = call)
    (connected : exchange.before = course.state)
    (proceeds : course.state.store.Proceeds exchange.after.store)
    (outbox : exchange.after.store.outbox = course.state.store.outbox ∨
      exchange.after.store.outbox = course.state.store.outbox ++ link.captureEvents) :
    Progress course (course.extend exchange) ∧
      InHand call found [] (course.extend exchange) := by
  apply inHand.extend isOwn connected proceeds
  rw [List.append_nil, addedIds, connected]
  rcases outbox with same | grown
  · rw [same, ← List.length_map Message.id, List.drop_length]
    exact List.nil_subperm
  · rw [grown, List.map_append, ← List.length_map Message.id, List.drop_left, Link.captureEvents,
      List.map_map]
    exact (List.sublist_append_left _ _).subperm

/-- A program that stores no URL conserves events. -/
theorem assures_of_asks {program : Program α} (asks : Script.Asks Effect.LeavesLinks program)
    (conserved : Conserved course) :
    program.Assures (Shared.surroundings.recorded call) (contract call) (fun _ => Conserved)
      course := by
  refine asks.assures keeps_conserved ?_ conserved
  intro request leaves chance course conserved
  have passed := (conserved.inHand call).pass leaves chance
  exact ⟨passed.1, passed.2.conserved⟩

/-! ## Creation and removal -/

/-- The rule of quiet requests that store no URL. -/
theorem InHand.quiet {post : Except Abort α → SharedCourse ι → Prop} {request : Effect}
    {next : request.Reply → Program α} (isQuiet : request.IsQuiet)
    (leaves : request.LeavesLinks) (inHand : InHand call found ids course)
    (continues : ∀ reply course, InHand call found ids course →
      (next reply).Assures (Shared.surroundings.recorded call) (contract call) post course) :
    Script.Assures (I := Effect.interface) (Shared.surroundings.recorded call) (contract call)
      post (.ask request next) course := by
  refine .ask keeps_inHand inHand ?_
  intro course chance inHand
  have passed := inHand.pass leaves chance
  obtain ⟨reply, answered⟩ := isQuiet chance course.state
  refine ⟨passed.1, ?_⟩
  rw [answered]
  exact continues reply _ (passed.2.keep (List.sublist_append_left _ _))

/-- The rule of draws: the call has the id in hand that it has drawn. -/
theorem InHand.draw {post : Except Abort α → SharedCourse ι → Prop}
    {next : Uuid → Program α} (inHand : InHand call found ids course)
    (continues : ∀ id course, InHand call found (ids ++ [id]) course →
      (next id).Assures (Shared.surroundings.recorded call) (contract call) post course) :
    Script.Assures (I := Effect.interface) (Shared.surroundings.recorded call) (contract call)
      post (.ask Effect.newId next) course := by
  refine .ask keeps_inHand inHand ?_
  intro course chance inHand
  have leaves : Effect.newId.LeavesLinks := True.intro
  have passed := inHand.pass leaves chance
  exact ⟨passed.1, continues chance.id _ passed.2⟩

theorem freeCode_assures (codes : CodeSettings) (draws : Nat)
    (inHand : InHand call [] [] course) :
    (LinkService.freeCode codes draws).attempt.Assures (Shared.surroundings.recorded call)
      (contract call) (fun _ => InHand call [] []) course := by
  induction draws generalizing course with
  | zero => exact inHand
  | succ draws ih =>
      rw [LinkService.freeCode_succ]
      apply inHand.quiet Effect.newId_isQuiet True.intro
      intro id course inHand
      dsimp only
      cases Code.ofUuid codes id with
      | error cause => exact inHand
      | ok code =>
          apply inHand.quiet (Effect.codeExists_isQuiet _) True.intro
          intro reply course inHand
          match reply with
          | .ok true => exact ih inHand
          | .ok false => exact inHand
          | .error failure => exact inHand

/-- The save of a new URL adds the id of the event that it announces. -/
theorem add_assures {link : Link} {eventId : Uuid} {occurred : Time.Moment}
    (fronted : link.identity.IsFronted)
    (announces : link.pending = [link.creation eventId occurred])
    (inHand : InHand call [] [eventId] course) :
    Script.Assures (I := Effect.interface) (Shared.surroundings.recorded call) (contract call)
      (fun _ => InHand call [] [])
      (.ask (Effect.addLink link) fun outcome => .done outcome.stored) course := by
  refine .ask keeps_inHand inHand ?_
  intro course chance inHand
  have pending : link.pending.map Event.id = [eventId] := by rw [announces]; rfl
  rw [← pending] at inHand
  exact inHand.spend rfl rfl (Store.proceeds_add fronted announces chance.now)
    (course.state.store.outbox_add link chance.now)

theorem tryCreate_assures (service : LinkService) (longUrl : String) {base : String}
    (isFront : Address.IsFront base) (inHand : InHand call [] [] course) :
    (service.tryCreate longUrl base).attempt.Assures (Shared.surroundings.recorded call)
      (contract call) (fun _ => InHand call [] []) course := by
  rw [LinkService.tryCreate_eq]
  apply (freeCode_assures service.codes service.draws inHand).andThen
  · intro result course inHand
    cases result with
    | error failure => exact inHand
    | ok code =>
        simp only [LinkService.newLink_eq, Script.andThen_ask, Script.andThen_done]
        apply inHand.quiet Effect.newId_isQuiet True.intro
        intro id course inHand
        apply inHand.quiet Effect.now_isQuiet True.intro
        intro created course inHand
        apply inHand.draw
        intro eventId course inHand
        apply inHand.quiet Effect.now_isQuiet True.intro
        intro occurred course inHand
        exact add_assures ⟨base, isFront, rfl⟩ rfl inHand
  · exact fun _ _ inHand => inHand

theorem createWithin_assures (service : LinkService) (longUrl : String) {base : String}
    (isFront : Address.IsFront base) (attempts : Nat) (last : Option String)
    (inHand : InHand call [] [] course) :
    (service.createWithin longUrl base attempts last).attempt.Assures
      (Shared.surroundings.recorded call) (contract call) (fun _ => InHand call [] []) course := by
  induction attempts generalizing last course with
  | zero => exact inHand
  | succ attempts ih =>
      rw [LinkService.createWithin_succ]
      apply (tryCreate_assures service longUrl isFront inHand).andThen
      · intro result course inHand
        cases result with
        | ok link => exact inHand
        | error failure => exact ih (some failure.message) inHand
      · exact fun _ _ inHand => inHand

/-- A creation conserves events. -/
theorem create_assures (service : LinkService) (request : ShortenRequest)
    (conserved : Conserved course) :
    (service.create request).attempt.Assures (Shared.surroundings.recorded call)
      (contract call) (fun _ => InHand call [] []) course := by
  have inHand := conserved.inHand call
  rw [LinkService.create_eq]
  cases checked : LinkService.checkRequest request with
  | error failure => exact inHand
  | ok base =>
      exact createWithin_assures service request.longUrl
        (LinkService.isFront_of_checkRequest checked) _ _ inHand

/-- The save of a removal adds the id of the event that it announces. -/
theorem update_assures {link : Link} {eventId : Uuid} {occurred : Time.Moment}
    (unpending : link.pending = []) (inHand : InHand call [link.identity] [eventId] course) :
    Script.Assures (I := Effect.interface) (Shared.surroundings.recorded call) (contract call)
      (fun _ => Conserved)
      (.ask (Effect.updateLink (link.remove eventId occurred) .deleted) fun outcome =>
        .done outcome.result) course := by
  refine .ask keeps_inHand inHand ?_
  intro course chance inHand
  have pending : (link.remove eventId occurred).pending.map Event.id = [eventId] := by
    rw [Link.remove, unpending]
    rfl
  rw [← pending] at inHand
  have stored := inHand.stored List.mem_cons_self
  apply And.imp_right InHand.conserved
  exact inHand.spend rfl rfl
    (Store.proceeds_remove stored unpending eventId occurred chance.now)
    (course.state.store.outbox_update _ .deleted chance.now)

/-- A removal conserves events: the row that it has found may have changed, but its identity is
still stored. -/
theorem remove_assures (code : String) (conserved : Conserved course) :
    (LinkService.remove code).attempt.Assures (Shared.surroundings.recorded call)
      (contract call) (fun _ => Conserved) course := by
  rw [LinkService.remove_eq]
  refine .ask keeps_conserved conserved ?_
  intro course chance conserved
  have leaves : (Effect.findByCode code).LeavesLinks := True.intro
  have passed := (conserved.inHand call).pass leaves chance
  have answered : (Shared.answer chance (.findByCode code) course.state).1 =
      .ok (.ok (course.state.store.findByCode code)) := rfl
  refine ⟨passed.1, ?_⟩
  rw [answered]
  cases found : course.state.store.findByCode code with
  | none => exact passed.2.conserved
  | some link =>
      have isRow := (Store.findByCode_eq_some found).1
      have unpending : link.pending = [] := conserved.announced.records.unpending link isRow
      have stored : [link.identity] ⊆ course.state.store.identities :=
        List.cons_subset.mpr ⟨List.mem_map_of_mem isRow, List.nil_subset _⟩
      have inHand : InHand call [link.identity] []
          (course.extend (course.exchange call (.findByCode code) chance)) :=
        ⟨passed.2.conserved, stored, passed.2.afforded⟩
      apply inHand.draw
      intro eventId course inHand
      apply inHand.quiet Effect.now_isQuiet True.intro
      intro occurred course inHand
      exact update_assures unpending inHand

/-! ## All runs and calls together -/

/-- A dispatch run conserves events if its handlers store no URLs. -/
theorem run_asks {dispatcher : Dispatcher} (aloof : dispatcher.bus.Handles Effect.LeavesLinks) :
    dispatcher.run.Asks Effect.LeavesLinks := by
  have dispatch (request : Effect) (isDispatch : Dispatcher.IsDispatch request) :
      request.LeavesLinks := by
    cases request with
    | addLink | updateLink => exact isDispatch
    | _ => exact True.intro
  exact (Dispatcher.runOnce_asks dispatch aloof).andThen fun _ => True.intro

/-- Every call conserves events. -/
theorem call_assures (made : Call) (conserved : Conserved course) :
    made.program.Assures (Shared.surroundings.recorded call) (contract call) (fun _ => Conserved)
      course := by
  cases made with
  | create service request =>
      apply (create_assures service request conserved).andThen
      · exact fun _ _ inHand => inHand.conserved
      · exact fun _ _ inHand => inHand.conserved
  | remove code =>
      apply (remove_assures code conserved).andThen
      · exact fun _ _ conserved => conserved
      · exact fun _ _ conserved => conserved
  | requeue id => exact assures_of_asks ⟨True.intro, fun _ => True.intro⟩ conserved

/-- Dispatch runs and calls beside each other. -/
def agreement (ι : Type) [DecidableEq ι] :
    Concurrent.Agreement ι Shared.surroundings Ending :=
  .keeping (Advances.refl Conserved (·.state.store.events)) Advances.trans
    (fun _ _ => Conserved) (fun _ _ => keeps_conserved) fun course count => by
      have unaltered : Store.Unaltered course.state.store (course.state.failSaves count).store :=
        ⟨rfl, rfl⟩
      intro conserved
      have proceeded := unaltered.proceeds conserved.announced
      exact ⟨⟨proceeded.1, conserved.added, conserved.afforded⟩, proceeded.2⟩

variable {κ : Type} [DecidableEq κ]

/-- The programs of dispatch runs and of calls. -/
def programs (dispatchers : ι → Dispatcher) (calls : κ → Call) : ι ⊕ κ → Program Ending
  | .inl run => (dispatchers run).run
  | .inr call => (calls call).program

theorem conserved_start {shared : Shared} (links : shared.store.links = [])
    (outbox : shared.store.outbox = []) : Conserved (⟨[], shared⟩ : SharedCourse ι) := by
  refine ⟨Store.announced_of_empty links outbox, ?_, ?_⟩
  · rw [outbox]
    rfl
  · intro call
    exact List.nil_subperm

/-- The agreement holds at the beginning, over a store without rows and messages. -/
theorem agreement_holds {dispatchers : ι → Dispatcher}
    (aloof : ∀ run, (dispatchers run).bus.Handles Effect.LeavesLinks) (calls : κ → Call)
    {shared : Shared} (conserved : Conserved (⟨[], shared⟩ : SharedCourse (ι ⊕ κ))) :
    (agreement (ι ⊕ κ)).Holds (.start shared (programs dispatchers calls)) := by
  intro call
  cases call with
  | inl run => exact assures_of_asks (run_asks (aloof run)) conserved
  | inr call => exact call_assures (calls call) conserved

/-- Messages have different ids if their ids were drawn once. -/
theorem Conserved.nodup_ids (conserved : Conserved course)
    (fresh : ∀ message ∈ course.state.store.outbox, (draws course).count message.id ≤ 1) :
    (course.state.store.outbox.map Message.id).Nodup := by
  rw [List.nodup_iff_count_le_one]
  intro id
  by_cases isId : id ∈ course.state.store.outbox.map Message.id
  · obtain ⟨message, member, rfl⟩ := List.mem_map.mp isId
    calc (course.state.store.outbox.map Message.id).count message.id
        = (course.history.flatMap addedIds).count message.id := by rw [conserved.added]
      _ ≤ (draws course).count message.id :=
          course.count_le_of_own addedIds drawnIds message.id fun call =>
            (conserved.afforded call).count_le message.id
      _ ≤ 1 := fresh message member
  · rw [List.count_eq_zero_of_not_mem isId]
    exact Nat.zero_le 1

end Conservation

open Conservation in
/-- Events are neither lost nor invented. Any number of dispatch runs, whose handlers store no
URLs, and of creations, removals and requeues run interleaved in any order over one store that
was empty, and any saves are made to fail. Then at any time each row is announced to be created
by exactly one message; each inactive row is announced to be removed by a message; each message
decodes to an event with its id that refers to a row; messages have different ids, if each of
these was drawn once; and whatever happens later, all messages stay where they are and say what
they say. -/
theorem events_are_conserved {ι κ : Type} [DecidableEq ι] [DecidableEq κ]
    (dispatchers : ι → Dispatcher) (calls : κ → Call)
    (aloof : ∀ run, (dispatchers run).bus.Handles Effect.LeavesLinks)
    (failing : Nat) (cache : Option Cache.Memory) (ticks : Nat)
    (schedule more : List (Turn (ι ⊕ κ) Shared.surroundings)) :
    let reached := (Concurrent.start ⟨{ failingSaves := failing }, cache, ticks⟩
      (programs dispatchers calls)).play schedule
    let store := reached.course.state.store
    let later := (reached.play more).course.state.store
    (∀ row ∈ store.links,
        (store.outbox.countP fun message => message.creation? == some row.identity) = 1) ∧
      (∀ row ∈ store.links, row.isActive = false → ∃ message ∈ store.outbox, ∃ event,
        message.decode = .ok event ∧ event.payload = .removed ⟨row.id, row.code⟩) ∧
      (∀ message ∈ store.outbox, ∃ event,
        message.decode = .ok event ∧ event.id = message.id ∧ event.RefersTo store) ∧
      ((∀ message ∈ store.outbox, (draws reached.course).count message.id ≤ 1) →
        (store.outbox.map Message.id).Nodup) ∧
      store.outbox.map Message.told <+: later.outbox.map Message.told := by
  intro reached store later
  have started : Conserved (⟨[], ⟨{ failingSaves := failing }, cache, ticks⟩⟩ :
      SharedCourse (ι ⊕ κ)) := conserved_start rfl rfl
  have begins := agreement_holds aloof calls started
  have conserved : Conserved reached.course := (begins.related _ Advances.trans schedule started).1
  have goesOn := (begins.play schedule).related _ Advances.trans more conserved
  have announced : store.Announced := conserved.announced
  refine ⟨?_, ?_, ?_, conserved.nodup_ids, ?_⟩
  · exact fun row isRow => announced.created_once isRow
  · intro row isRow isGone
    obtain ⟨event, isEvent, isRemoval⟩ := announced.gone row isRow isGone
    obtain ⟨message, member, decoded⟩ := Store.exists_message isEvent
    exact ⟨message, member, event, decoded, isRemoval⟩
  · exact fun message member => announced.exists_event member
  · exact announced.told_prefix goesOn.1.announced goesOn.2

open Conservation Time in
/-- A URL that is created, removed and announced to be both. -/
theorem events_are_conserved_of_removal :
    let now : Moment := ⟨⟨2026, 1, 2, by decide, by decide, by decide⟩, 3, 4, 5, 6,
      by decide, by decide, by decide, by decide⟩
    let chance (id : BitVec 128) : Chance := ⟨0, now, ⟨id⟩, false, ⟨0, .ok ()⟩⟩
    let calls : Bool → Call
      | true => .create ⟨.standard, none, 1⟩ ⟨"http://[::1]/", "http", "[::1]"⟩
      | false => .remove "AAAAAAB"
    let turn (call : Unit ⊕ Bool) (id : BitVec 128) : Turn (Unit ⊕ Bool) Shared.surroundings :=
      .move call (chance id)
    let schedule := turn (.inl ()) 0 :: [1, 0, 2, 0, 3, 0, 0].map (turn (.inr true)) ++
      turn (.inl ()) 0 :: [0, 4, 0, 0].map (turn (.inr false))
    let reached := (Concurrent.start ⟨{}, none, 0⟩
      (programs (fun _ => ⟨.standard, .standard⟩) calls)).play schedule
    let store := reached.course.state.store
    Bus.standard.Handles Effect.LeavesLinks ∧ store.links.map Link.isActive = [false] ∧
      (store.outbox.map Message.id).Nodup ∧
      ∀ message ∈ store.outbox, ∃ event,
        message.decode = .ok event ∧ event.id = message.id ∧ event.RefersTo store := by
  intro now chance calls turn schedule
  have conserved := events_are_conserved (fun _ : Unit => ⟨.standard, .standard⟩) calls
    (fun _ => Bus.standard_leavesLinks) 0 none 0 schedule []
  refine ⟨Bus.standard_leavesLinks, ?_, ?_, conserved.2.2.1⟩
  · decide +kernel
  · apply conserved.2.2.2.1
    decide +kernel

end Shortlink
