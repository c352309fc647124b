import Shortlink.Proofs.Outbox.Consumption
import Shortlink.Proofs.Outbox.Delivery
import Shortlink.Proofs.Store.Outcomes

/-!
# What deliveries settle

A delivery leaves the outbox alone if the handlers do. So the outcomes meet the rows that were
fetched, and with each message that was reached one count of the report grows by one, and the
counts of the outbox with it.
-/

namespace Shortlink

open Time (Moment)

/-! ## Handlers beside the outbox -/

/-- A request that leaves the outbox as it is. -/
def Effect.LeavesOutbox : Effect → Prop
  | .addLink _ | .updateLink _ _ | .saveProcessed _ | .requeue _ => False
  | _ => True

theorem Effect.LeavesOutbox.outbox {request : Effect} (leaves : request.LeavesOutbox)
    (chance : Chance) (shared : Shared) :
    (Shared.answer chance request shared).2.store.outbox = shared.store.outbox := by
  cases request with
  | addLink | updateLink | saveProcessed | requeue => exact leaves.elim
  | tryLease => rw [Consumption.answer_tryLease]
  | markConsumed marker => exact (Store.markConsumed_frame _ marker).2
  | cacheGet | cacheSet | cacheRemove | cacheRemoveAll =>
      exact congrArg Store.outbox (Shared.onCache_store _ _ _)
  | _ => rfl

namespace Bus

variable (bus : Bus)

/-- Whenever a handler has come to its end, the outbox is as it was. -/
def SparesOutbox : Prop :=
  ∀ subscription ∈ bus.subscriptions, ∀ event,
    Shared.surroundings.Leaves (fun shared => shared.store.outbox)
      (subscription.handler event).attempt

/-- Handlers come to their end, well or with a failure. -/
def Completes : Prop :=
  ∀ subscription ∈ bus.subscriptions, ∀ event,
    Shared.surroundings.Completes (subscription.handler event).attempt

variable {bus}

theorem sparesOutbox_of_handles (handles : bus.Handles Effect.LeavesOutbox) :
    bus.SparesOutbox :=
  fun subscription member event => Surroundings.leaves_of_asks (I := Effect.interface)
    (fun _ leaves => leaves.outbox) (handles subscription member event)

/-- External consumers leave the outbox alone. -/
theorem external_sparesOutbox (consumers : List (String × String)) :
    (external consumers).SparesOutbox := by
  apply sparesOutbox_of_handles
  intro subscription member event
  obtain ⟨⟨eventType, consumer⟩, -, rfl⟩ := List.mem_map.mp member
  exact ⟨True.intro, fun _ => ⟨True.intro, fun _ => True.intro⟩⟩

/-- External consumers come to their end, whatever that is. -/
theorem external_completes (consumers : List (String × String)) :
    (external consumers).Completes := by
  intro subscription member event
  obtain ⟨⟨eventType, consumer⟩, -, rfl⟩ := List.mem_map.mp member
  exact fun chances begins => ⟨_, _, rfl⟩

end Bus

namespace Dispatcher

/-- What leaves the outbox as it was, with all that happens written down. -/
abbrev Spares {α : Type} (program : Program α) : Prop :=
  Shared.logged.Leaves (fun course => course.state.store.outbox) program

theorem compositional_spares : Script.Compositional Effect.LeavesOutbox fun _ => Spares :=
  Surroundings.compositional_leaves (I := Effect.interface) fun _ leaves chance course =>
    leaves.outbox chance course.state

theorem ask_spares {request : Effect} (leaves : request.LeavesOutbox) : Spares (ask request) :=
  compositional_spares.ask leaves fun reply => compositional_spares.done reply

theorem pause_spares (step n : Nat) : Spares (pause step n) := by
  apply pause_fine compositional_spares fun _ => True.intro
  rintro cause begins value ends ⟨chances, performed⟩
  cases performed

section spares

variable {dispatcher : Dispatcher} (spares : dispatcher.bus.SparesOutbox)
  {begins ends : SharedCourse Unit}
include spares

theorem publish_spares (event : Event) : Spares (dispatcher.bus.publish event).attempt := by
  refine Bus.publish_fine ?_ compositional_spares
  intro subscription member
  apply Subscription.deliver_fine compositional_spares True.intro True.intro
  exact (spares subscription member event).recorded ()

theorem outbox_of_publishes {step left made : Nat} {event : Event}
    {result : Except Failure Unit}
    (publishes : dispatcher.bus.Publishes step event left made begins result ends) :
    ends.state.store.outbox = begins.state.store.outbox := by
  induction publishes with
  | succeeds published => exact publish_spares spares event _ _ _ published
  | fails published => exact publish_spares spares event _ _ _ published
  | again published pauses rest ih =>
      have paused := pause_spares step _ _ _ _ pauses
      exact ih.trans (paused.trans (publish_spares spares event _ _ _ published))

theorem outbox_of_delivers {message : Message} {delivery : Delivery}
    (delivers : dispatcher.Delivers message begins delivery ends) :
    ends.state.store.outbox = begins.state.store.outbox := by
  cases delivers with
  | undecodable decoded => rfl
  | delivered decoded publishes => exact outbox_of_publishes spares publishes
  | failed decoded publishes => exact outbox_of_publishes spares publishes

theorem outbox_of_reaches {messages : List Message} {reached : List Reached}
    (reaches : dispatcher.Reaches begins messages reached ends) :
    ends.state.store.outbox = begins.state.store.outbox := by
  have asking : Spares (ask .isCancelled) := ask_spares True.intro
  have marking : Spares (ask .now) := ask_spares True.intro
  induction reaches with
  | all => rfl
  | cancelled asked => exact asking _ _ _ asked
  | next goesOn delivers marks reaches ih =>
      have delivered := (outbox_of_delivers spares delivers).trans (asking _ _ _ goesOn)
      exact ih.trans ((marking _ _ _ marks).trans delivered)

end spares

end Dispatcher

/-! ## The report -/

namespace Delivery

/-- The message was delivered. -/
def isDelivered : Delivery → Bool
  | .delivered => true
  | _ => false

/-- The last publication of the message has failed. -/
def isFailed : Delivery → Bool
  | .failed _ => true
  | _ => false

/-- The message could not be decoded. -/
def isUndecodable : Delivery → Bool
  | .undecodable _ => true
  | _ => false

theorem count_eq (report : DispatchReport) (delivery : Delivery) :
    delivery.count report =
      { report with
        delivered := report.delivered + if delivery.isDelivered then 1 else 0
        failed := report.failed + if delivery.isFailed then 1 else 0
        undecodable := report.undecodable + if delivery.isUndecodable then 1 else 0 } := by
  cases delivery with
  | delivered => rfl
  | failed reason => rfl
  | undecodable reason => rfl

theorem one_of_three (delivery : Delivery) :
    ((if delivery.isDelivered then 1 else 0) + (if delivery.isFailed then 1 else 0) +
      if delivery.isUndecodable then 1 else 0) = 1 := by
  cases delivery with
  | delivered => rfl
  | failed reason => rfl
  | undecodable reason => rfl

theorem error?_eq_none_iff (delivery : Delivery) :
    delivery.error? = none ↔ delivery = .delivered := by
  cases delivery with
  | delivered => exact ⟨fun _ => rfl, fun _ => rfl⟩
  | failed reason => exact ⟨nofun, nofun⟩
  | undecodable reason => exact ⟨nofun, nofun⟩

theorem error?_isNone (delivery : Delivery) : delivery.error?.isNone = delivery.isDelivered := by
  cases delivery with
  | delivered => rfl
  | failed reason => rfl
  | undecodable reason => rfl

theorem error?_isSome (delivery : Delivery) :
    (if delivery.error?.isSome then 1 else 0) =
      (if delivery.isFailed then 1 else 0) + if delivery.isUndecodable then 1 else 0 := by
  cases delivery with
  | delivered => rfl
  | failed reason => rfl
  | undecodable reason => rfl

end Delivery

namespace Dispatcher

/-- The report on the messages that were reached. -/
def reportOf (fetched : Nat) (reached : List Reached) : DispatchReport where
  fetched := fetched
  delivered := reached.countP (·.delivery.isDelivered)
  failed := reached.countP (·.delivery.isFailed)
  undecodable := reached.countP (·.delivery.isUndecodable)

theorem foldl_count (reached : List Reached) (report : DispatchReport) :
    reached.foldl (fun report message => message.delivery.count report) report =
      { report with
        delivered := report.delivered + reached.countP (·.delivery.isDelivered)
        failed := report.failed + reached.countP (·.delivery.isFailed)
        undecodable := report.undecodable + reached.countP (·.delivery.isUndecodable) } := by
  induction reached generalizing report with
  | nil => rfl
  | cons message rest ih =>
      rw [List.foldl_cons, ih, Delivery.count_eq]
      simp only [List.countP_cons, DispatchReport.mk.injEq, true_and, and_true]
      refine ⟨?_, ?_, ?_⟩
      · omega
      · omega
      · omega

theorem foldl_count_of_none (reached : List Reached) (fetched : Nat) :
    reached.foldl (fun report message => message.delivery.count report) { fetched := fetched } =
      reportOf fetched reached := by
  simp only [foldl_count, reportOf, Nat.zero_add]

/-- Each message that was reached is counted once. -/
theorem processed_reportOf (fetched : Nat) (reached : List Reached) :
    (reportOf fetched reached).processed = reached.length := by
  simp only [DispatchReport.processed, reportOf]
  induction reached with
  | nil => rfl
  | cons message rest ih =>
      have once := message.delivery.one_of_three
      simp only [List.countP_cons, List.length_cons]
      omega

/-! ## The outbox -/

theorem countP_error_isNone (reached : List Reached) :
    (reached.map Reached.outcome).countP (·.error.isNone) =
      reached.countP (·.delivery.isDelivered) := by
  rw [List.countP_map]
  exact List.countP_congr fun message _ => by
    rw [← message.delivery.error?_isNone]
    rfl

theorem countP_error_isSome (reached : List Reached) :
    (reached.map Reached.outcome).countP (·.error.isSome) =
      reached.countP (·.delivery.isFailed) + reached.countP (·.delivery.isUndecodable) := by
  induction reached with
  | nil => rfl
  | cons message rest ih =>
      have error : message.outcome.error = message.delivery.error? := rfl
      have either := message.delivery.error?_isSome
      simp only [List.map_cons, List.countP_cons, ih, error]
      omega

section outcomes

variable {outbox : List Message} (distinct : (outbox.map Message.id).Nodup)
  {reached : List Reached} (sublist : (reached.map Reached.message).Sublist outbox)
include distinct sublist

theorem nodup_outcomes : ((reached.map Reached.outcome).map Message.id).Nodup := by
  have same : (reached.map Reached.outcome).map Message.id =
      (reached.map Reached.message).map Message.id := by
    rw [List.map_map, List.map_map]
    rfl
  rw [same]
  exact distinct.sublist (sublist.map Message.id)

theorem settle_reached {message : Reached} (member : message ∈ reached) :
    Store.settle (reached.map Reached.outcome) message.message = message.outcome :=
  Store.settle_of_mem (nodup_outcomes distinct sublist) (List.mem_map_of_mem member) rfl

theorem settle_other {row : Message} (inOutbox : row ∈ outbox)
    (other : ∀ message ∈ reached, message.message ≠ row) :
    Store.settle (reached.map Reached.outcome) row = row := by
  apply Store.settle_of_not_mem
  rw [List.map_map, List.mem_map]
  rintro ⟨message, member, same⟩
  have stored : message.message ∈ outbox := sublist.subset (List.mem_map_of_mem member)
  exact other message member (List.inj_on_of_nodup_map distinct stored inOutbox same)

/-- The rows that were reached take their outcomes, beside the others, which stay. -/
theorem exists_perm_settle :
    ∃ others, outbox.Perm (reached.map Reached.message ++ others) ∧
      (outbox.map (Store.settle (reached.map Reached.outcome))).Perm
        (reached.map Reached.outcome ++ others) := by
  obtain ⟨others, split⟩ := sublist.exists_perm_append
  refine ⟨others, split, ?_⟩
  have ids := (split.map Message.id).nodup_iff.mp distinct
  rw [List.map_append] at ids
  have settled : (reached.map Reached.message).map
      (Store.settle (reached.map Reached.outcome)) = reached.map Reached.outcome := by
    rw [List.map_map]
    exact List.map_congr_left fun message member => settle_reached distinct sublist member
  have unchanged : others.map (Store.settle (reached.map Reached.outcome)) = others := by
    refine (List.map_congr_left fun row member => ?_).trans (List.map_id others)
    apply settle_other distinct sublist (split.symm.subset (List.mem_append_right _ member))
    rintro message isReached rfl
    exact (List.nodup_append.mp ids).2.2 _
      (List.mem_map_of_mem (List.mem_map_of_mem isReached)) _ (List.mem_map_of_mem member) rfl
  have mapped := split.map (Store.settle (reached.map Reached.outcome))
  rwa [List.map_append, settled, unchanged] at mapped

end outcomes

end Dispatcher

end Shortlink
