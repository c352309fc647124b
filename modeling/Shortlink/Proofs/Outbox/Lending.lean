import Shortlink.Proofs.Outbox.Dispatch
import Shortlink.Proofs.Script.Conversation

/-!
# The lease is lent and returned

Whatever is replied to a dispatch run, it does nothing without a lease, and the release of the lease
is the last that it asks for. In between it fetches once, delivers, and stores at most once, never
an empty list. What is replied to the release does not change what the run reports. Only where the
handler of a consumer breaks off, or a pause is too long to be represented, does a run break off
too, and then it gives the lease up instead.
-/

namespace Shortlink

namespace Lending

/-- The requests about the lease and the messages. -/
def isOutbox : Effect → Bool
  | .tryLease => true
  | .releaseLease _ => true
  | .dropLease _ => true
  | .fetchMessages _ => true
  | .saveProcessed _ => true
  | _ => false

/-- What deliveries ask for by themselves, without their handlers. -/
def IsDelivering : Effect → Prop
  | .isCancelled | .now | .sleep _ | .isConsumed _ | .markConsumed _ => True
  | _ => False

/-- What is said in deliveries: their own requests, and all that handlers of the bus say about
events. -/
inductive Delivers (bus : Bus) : List Saying → Prop where
  | nothing : Delivers bus []
  | own {request : Effect} {later : List Saying} (isOwn : IsDelivering request)
      (reply : request.Reply) (goesOn : Delivers bus later) :
      Delivers bus (⟨request, reply⟩ :: later)
  | handling {subscription : Subscription} {event : Event} {handled later : List Saying}
      {outcome : Except Failure Unit} (member : subscription ∈ bus.subscriptions)
      (handles : (subscription.handler event).attempt.Converses handled (.ok outcome))
      (goesOn : Delivers bus later) : Delivers bus (handled ++ later)

/-- How a batch goes: its messages cannot be fetched, or it reaches none of them, or it stores the
outcomes of those that it reaches, which can fail. -/
inductive Batch (dispatcher : Dispatcher) :
    List Saying → Except Failure DispatchReport → Prop where
  | unfetched (failure : Failure) :
      Batch dispatcher [⟨.fetchMessages dispatcher.settings.batchSize, .error failure⟩]
        (.error failure)
  | unreached (messages : List Message) {delivered : List Saying}
      (delivers : Delivers dispatcher.bus delivered) (report : DispatchReport) :
      Batch dispatcher
        (⟨.fetchMessages dispatcher.settings.batchSize, .ok messages⟩ :: delivered) (.ok report)
  | reached (messages : List Message) {delivered : List Saying}
      (delivers : Delivers dispatcher.bus delivered) {processed : List Message}
      (nonempty : processed ≠ []) (reply : Except Failure Unit) (report : DispatchReport) :
      Batch dispatcher
        (⟨.fetchMessages dispatcher.settings.batchSize, .ok messages⟩ ::
          (delivered ++ [⟨.saveProcessed processed, reply⟩]))
        (reply.map fun _ => report)

/-- Why a run can break off: the handler of a consumer does, or a pause before a retry cannot be
represented. -/
inductive BreaksOff (dispatcher : Dispatcher) (cause : Abort) : Prop where
  | handler {subscription : Subscription} {event : Event} {said : List Saying}
      (member : subscription ∈ dispatcher.bus.subscriptions)
      (breaks : (subscription.handler event).attempt.Converses said (.error cause))
  | pause {n : Nat} (isRetry : 0 < n) (within : n ≤ Backoff.retries dispatcher.settings.maxAttempts)
      (tooLong : Backoff.pause? dispatcher.settings.retryStep n = .error cause)

/-- What a run that holds the lease asks for to store outcomes: nothing, or once that of some
messages. -/
inductive Storing : List Effect → Prop where
  | nothing : Storing []
  | once {processed : List Message} (nonempty : processed ≠ []) :
      Storing [.saveProcessed processed]

/-- All that has been asked about the lease and the messages. -/
def outboxRequests (said : List Saying) : List Effect :=
  (said.map Said.request).filter isOutbox

variable {dispatcher : Dispatcher} {bus : Bus} {said first second : List Saying} {α : Type}

/-! ## Deliveries -/

theorem Delivers.append (one : Delivers bus first) (other : Delivers bus second) :
    Delivers bus (first ++ second) := by
  induction one with
  | nothing => exact other
  | own isOwn reply goesOn ih => exact .own isOwn reply ih
  | handling member handles goesOn ih =>
      rw [List.append_assoc]
      exact .handling member handles ih

/-- A part of a run has ended as it is to, or there is a reason for it to break off. -/
def Comes (dispatcher : Dispatcher) (ends : α → Prop) : Except Abort α → Prop
  | .ok value => ends value
  | .error cause => BreaksOff dispatcher cause

/-- What is said in a part of a run that ends is that of deliveries. -/
def Goes (dispatcher : Dispatcher) (script : Program α) : Prop :=
  ∀ said result, script.Converses said result →
    Comes dispatcher (fun _ => Delivers dispatcher.bus said) result

theorem compositional_goes :
    Script.Compositional IsDelivering fun _ script => Goes dispatcher script where
  done value := by
    rintro said result ⟨⟩
    exact .nothing
  ask := by
    rintro α request next isOwn continues said result ⟨reply, rest⟩
    have comes := continues reply _ _ rest
    cases result with
    | ok value => exact .own isOwn reply comes
    | error cause => exact comes
  andThen := by
    intro α β script next first second said result talk
    rcases talk.parts_of_andThen with ⟨value, _, _, begins, goesOn, rfl⟩ | ⟨cause, broken, rfl⟩
    · have delivered : Delivers dispatcher.bus _ := first _ _ begins
      have comes := second value _ _ goesOn
      cases result with
      | ok result => exact delivered.append comes
      | error cause => exact comes
    · exact first _ _ broken

theorem goes_handler {subscription : Subscription} (event : Event)
    (member : subscription ∈ dispatcher.bus.subscriptions) :
    Goes dispatcher (subscription.handler event).attempt := by
  intro said result talk
  cases result with
  | ok outcome =>
      rw [← List.append_nil said]
      exact .handling member talk .nothing
  | error cause => exact .handler member talk

theorem goes_pause {n : Nat} (isRetry : 0 < n)
    (within : n ≤ Backoff.retries dispatcher.settings.maxAttempts) :
    Goes dispatcher (Dispatcher.pause dispatcher.settings.retryStep n) := by
  unfold Dispatcher.pause
  cases pause : Backoff.pause? dispatcher.settings.retryStep n with
  | ok duration => exact compositional_goes.ask True.intro fun _ => compositional_goes.done ()
  | error cause =>
      rintro said result ⟨⟩
      exact .pause isRetry within pause

theorem goes_deliverAll (messages : List Message) (report : DispatchReport) :
    Goes dispatcher (dispatcher.deliverAll messages report) := by
  apply Dispatcher.deliverAll_fine ?_ compositional_goes ?_ True.intro True.intro
  · intro subscription member event
    exact Subscription.deliver_fine compositional_goes True.intro True.intro
      (goes_handler event member)
  · exact fun n => goes_pause

/-! ## Batches -/

theorem batch_of_converses {result : Except Abort (Except Failure DispatchReport)}
    (talk : dispatcher.dispatchBatch.attempt.Converses said result) :
    Comes dispatcher (Batch dispatcher said) result := by
  rw [Dispatcher.dispatchBatch_eq] at talk
  obtain ⟨reply, talk⟩ := talk
  cases reply with
  | error failure =>
      cases talk
      exact .unfetched failure
  | ok messages =>
      rcases talk.parts_of_andThen with ⟨reached, _, _, begins, rest, rfl⟩ | ⟨cause, broken, rfl⟩
      · have delivers : Delivers dispatcher.bus _ := goes_deliverAll messages _ _ _ begins
        split at rest
        next =>
          cases rest
          rw [List.append_nil]
          exact .unreached messages delivers reached.1
        next notEmpty =>
          have nonempty : reached.2 ≠ [] := fun none => notEmpty (List.isEmpty_iff.mpr none)
          obtain ⟨saved, rest⟩ := rest
          cases saved with
          | ok saved =>
              cases rest
              exact .reached messages delivers nonempty (.ok saved) reached.1
          | error failure =>
              cases rest
              exact .reached messages delivers nonempty (.error failure) reached.1
      · exact goes_deliverAll messages _ _ _ broken

/-- Deliveries to handlers that leave lease and messages alone do so too. -/
theorem outboxRequests_of_delivers (delivers : Delivers bus said)
    (handles : bus.Handles (isOutbox · = false)) : outboxRequests said = [] := by
  induction delivers with
  | nothing => rfl
  | @own request later isOwn reply goesOn ih =>
      have other : ¬isOutbox request = true := by
        cases request <;> first | contradiction | exact Bool.false_ne_true
      exact (List.filter_cons_of_neg other).trans ih
  | @handling subscription event handled later outcome member talk goesOn ih =>
      have other : outboxRequests handled = [] := by
        apply List.filter_eq_nil_iff.mpr
        intro request asked
        obtain ⟨saying, isSaid, rfl⟩ := List.mem_map.mp asked
        exact Bool.eq_false_iff.mp
          (talk.asked_of_asks (handles subscription member event) saying isSaid)
      rw [outboxRequests, List.map_append, List.filter_append, ← outboxRequests, other]
      exact ih

theorem storing_of_batch {outcome : Except Failure DispatchReport}
    (batch : Batch dispatcher said outcome)
    (handles : dispatcher.bus.Handles (isOutbox · = false)) :
    ∃ storing, Storing storing ∧
      outboxRequests said = .fetchMessages dispatcher.settings.batchSize :: storing := by
  cases batch with
  | unfetched failure => exact ⟨[], .nothing, rfl⟩
  | unreached messages delivers report =>
      refine ⟨[], .nothing, ?_⟩
      exact congrArg (_ :: ·) (outboxRequests_of_delivers delivers handles)
  | @reached messages delivered delivers processed nonempty reply report =>
      refine ⟨[.saveProcessed processed], .once nonempty, ?_⟩
      have nothing := outboxRequests_of_delivers delivers handles
      rw [outboxRequests] at nothing ⊢
      rw [List.map_cons, List.map_append,
        List.filter_cons_of_pos (a := Effect.fetchMessages dispatcher.settings.batchSize) rfl,
        List.filter_append, nothing]
      rfl

/-! ## Runs -/

variable {respondent : Respondent Effect.interface} {lease : Lease}

/-- A run that holds the lease releases it after a batch that has come to its end. -/
theorem converse_of_ended (leased : respondent [] .tryLease = .ok (some lease))
    {outcome : Except Failure DispatchReport} :
    let got : Saying := ⟨.tryLease, .ok (some lease)⟩
    let batch := dispatcher.dispatchBatch.attempt.converse fun earlier => respondent (got :: earlier)
    batch.2 = .ok outcome →
      ∃ reply, dispatcher.runOnce.attempt.converse respondent =
        (got :: batch.1 ++ [⟨.releaseLease lease, reply⟩], .ok outcome) := by
  intro got batch ended
  have uncleaned := Script.converse_onAbort_of_ok (ask (.dropLease lease)) ended
  rw [Dispatcher.runOnce_eq, Script.converse_ask _ leased]
  dsimp only
  rw [Script.converse_andThen_of_ok _ ((congrArg Prod.snd uncleaned).trans ended), uncleaned]
  exact ⟨_, rfl⟩

/-- A run that holds the lease gives it up after a batch that has broken off. -/
theorem converse_of_broken (leased : respondent [] .tryLease = .ok (some lease)) {cause : Abort} :
    let got : Saying := ⟨.tryLease, .ok (some lease)⟩
    let batch := dispatcher.dispatchBatch.attempt.converse fun earlier => respondent (got :: earlier)
    batch.2 = .error cause →
      dispatcher.runOnce.attempt.converse respondent =
        (got :: batch.1 ++ [⟨.dropLease lease, ()⟩], .error cause) := by
  intro got batch broken
  have cleaned := Script.converse_onAbort_of_error (ask (.dropLease lease)) broken
  rw [Dispatcher.runOnce_eq, Script.converse_ask _ leased]
  dsimp only
  rw [Script.converse_andThen_of_error _ (congrArg Prod.snd cleaned), cleaned]
  rfl

end Lending

open Lending in
/-- Whatever is replied to a dispatch run: without a lease it asks for nothing else, and where the
lease is denied it reports that it has been skipped. With a lease a batch follows, which fetches,
delivers and stores the outcomes of messages at most once. Where it has come to its end, with
whatever outcome, the run releases the lease as the last it asks for and reports this outcome. Where
no handler asks for a lease or for messages, these are all requests about them. A batch that breaks
off has a reason for it, and then the run gives up the lease. -/
theorem lease_is_returned (dispatcher : Dispatcher) (respondent : Respondent Effect.interface) :
    let run := dispatcher.runOnce.attempt.converse respondent
    (∀ failure, respondent [] .tryLease = .error failure →
      run = ([⟨.tryLease, .error failure⟩], .ok (.error failure))) ∧
    (respondent [] .tryLease = .ok none →
      run = ([⟨.tryLease, .ok none⟩], .ok (.ok { skipped := true }))) ∧
    ∀ lease, respondent [] .tryLease = .ok (some lease) →
      let got : Saying := ⟨.tryLease, .ok (some lease)⟩
      let batch := dispatcher.dispatchBatch.attempt.converse
        fun earlier => respondent (got :: earlier)
      (∀ outcome, batch.2 = .ok outcome →
        Batch dispatcher batch.1 outcome ∧
        (∃ reply, run = (got :: batch.1 ++ [⟨.releaseLease lease, reply⟩], .ok outcome)) ∧
        (dispatcher.bus.Handles (isOutbox · = false) → ∃ storing, Storing storing ∧
          outboxRequests run.1 = .tryLease :: .fetchMessages dispatcher.settings.batchSize ::
            storing ++ [.releaseLease lease])) ∧
      ∀ cause, batch.2 = .error cause →
        BreaksOff dispatcher cause ∧
        run = (got :: batch.1 ++ [⟨.dropLease lease, ()⟩], .error cause) := by
  intro run
  refine ⟨?_, ?_, ?_⟩
  · intro failure unanswered
    exact (congrArg (Script.converse · respondent) dispatcher.runOnce_eq).trans
      (Script.converse_ask _ unanswered)
  · intro denied
    exact (congrArg (Script.converse · respondent) dispatcher.runOnce_eq).trans
      (Script.converse_ask _ denied)
  · intro lease leased got batch
    have came : Comes dispatcher (Batch dispatcher batch.1) batch.2 :=
      batch_of_converses (Script.converses_converse _ _)
    constructor
    · intro outcome ended
      rw [ended] at came
      obtain ⟨reply, released⟩ := converse_of_ended leased ended
      refine ⟨came, ⟨reply, released⟩, ?_⟩
      intro handles
      obtain ⟨storing, isStoring, asked⟩ := storing_of_batch came handles
      refine ⟨storing, isStoring, ?_⟩
      have requests : outboxRequests run.1 =
          .tryLease :: (outboxRequests batch.1 ++ [.releaseLease lease]) := by
        rw [show run.1 = _ from congrArg Prod.fst released, outboxRequests, List.map_append,
          List.filter_append]
        rfl
      rw [requests, asked]
      rfl
    · intro cause broken
      rw [broken] at came
      exact ⟨came, converse_of_broken leased broken⟩

end Shortlink
