import Shortlink.Proofs.Outbox.Settlement

/-!
# The effect of a dispatch run

A run that gets the lease settles the first waiting messages up to its cancellation, and nothing
else: its handlers leave the outbox alone, and the outcomes are stored by id. So the counts of
its report and those of the outbox agree, and runs that are not cancelled work off the outbox
batch by batch.
-/

namespace Shortlink

/-- The requests of a course, in their order. -/
def Course.requests {ι σ : Type} {I : Interface} (course : Course ι I σ) : List I.Request :=
  course.history.map Exchange.request

/-- All pauses between the attempts can be represented. -/
def DispatchSettings.PausesFit (settings : DispatchSettings) : Prop :=
  ∀ n, 0 < n → n ≤ Backoff.retries settings.maxAttempts →
    ∃ duration, Backoff.pause? settings.retryStep n = .ok duration

namespace Dispatcher

/-- What a run asks for to store the outcomes. -/
def saving (reached : List Reached) : List Effect :=
  if reached.isEmpty then [] else [.saveProcessed (reached.map Reached.outcome)]

variable {dispatcher : Dispatcher} {chances : Nat → Chance} {begins ends : SharedCourse Unit}

/-- A batch reaches the messages that it has fetched, and then stores their outcomes. -/
theorem reaches_of_dispatchBatch {result : Except Failure DispatchReport}
    (performed : Shared.logged.perform chances dispatcher.dispatchBatch.attempt begins =
      (.ok result, ends)) :
    let messages := begins.state.store.fetch dispatcher.settings.batchSize
    ∃ fetched stopped reached, dispatcher.Reaches fetched messages reached stopped ∧
      result = .ok (reportOf messages.length reached) ∧
      ((∀ n, (chances n).isCancelled = false) → reached.length = messages.length) ∧
      fetched.requests = begins.requests ++ [.fetchMessages dispatcher.settings.batchSize] ∧
      fetched.state.store = begins.state.store ∧
      ends.requests = stopped.requests ++ saving reached ∧
      ends.state.store = stopped.state.store.saveProcessed (reached.map Reached.outcome) := by
  rw [dispatchBatch_eq] at performed
  obtain ⟨fetched, isReply, -, performed⟩ := Shared.parts_of_perform_ask performed
  cases isReply
  obtain ⟨⟨report, outcomes⟩, stopped, count, delivered, performed⟩ :=
    Surroundings.parts_of_perform_andThen performed
  obtain ⟨reached, reaches, rfl, rfl, all⟩ := reaches_of_deliverAll delivered
  rw [foldl_count_of_none] at performed
  refine ⟨_, stopped, reached, reaches, ?_⟩
  have requests : (begins.extend (begins.exchange ()
      (.fetchMessages dispatcher.settings.batchSize) (chances 0))).requests =
        begins.requests ++ [.fetchMessages dispatcher.settings.batchSize] := by
    simp [Course.requests, Course.exchange]
  cases reached with
  | nil =>
      cases performed
      refine ⟨rfl, fun goesOn => all fun n => goesOn _, requests, rfl, ?_, rfl⟩
      exact (List.append_nil _).symm
  | cons message rest =>
      obtain ⟨saved, isReply, -, performed⟩ := Shared.parts_of_perform_ask performed
      cases isReply
      cases performed
      refine ⟨rfl, fun goesOn => all fun n => goesOn _, requests, rfl, ?_, rfl⟩
      simp [Course.requests, Course.exchange, saving]

/-! ## One run -/

/-- The messages that a run fetches: the first that wait, as many as a batch can have. -/
def waiting (dispatcher : Dispatcher) (course : SharedCourse Unit) : List Message :=
  course.state.store.fetch dispatcher.settings.batchSize

/-- What a run has done that has got the lease and has reached these messages. -/
structure Dispatched (dispatcher : Dispatcher) (before after : SharedCourse Unit)
    (report : DispatchReport) (reached : List Reached) : Prop where
  /-- The messages were reached one after another. Beside that, the run has asked for nothing but
  the lease, the messages and the storing of their outcomes. -/
  course : ∃ fetched stopped lease,
    dispatcher.Reaches fetched (dispatcher.waiting before) reached stopped ∧
      fetched.requests =
        before.requests ++ [.tryLease, .fetchMessages dispatcher.settings.batchSize] ∧
      after.requests = stopped.requests ++ saving reached ++ [.releaseLease lease]
  messages : reached.map Reached.message = (dispatcher.waiting before).take reached.length
  /-- A message has no error if it was delivered, one that tells so if it cannot be decoded, and
  that of its last publication otherwise. -/
  errors : ∀ message ∈ reached,
    (∃ begins ends, dispatcher.Delivers message.message begins message.delivery ends) ∧
      (message.delivery.error? = none ↔ message.delivery = .delivered) ∧
      ((∃ reason, message.delivery.error? = some ("deserialization failed: " ++ reason)) ↔
        ∃ error, message.message.decode = .error error)
  /-- The rows that were reached have got their outcomes, and all others are as they were. -/
  rows : List.Forall₂ (fun row settled =>
      (∃ message ∈ reached, message.message = row ∧ settled = message.outcome) ∨
        (∀ message ∈ reached, message.message ≠ row) ∧ settled = row)
    before.state.store.outbox after.state.store.outbox
  counts : report = reportOf (dispatcher.waiting before).length reached
  total : report.delivered + report.failed + report.undecodable = reached.length
  pending : after.state.store.stats.pending = before.state.store.stats.pending - reached.length
  processed : after.state.store.stats.processed =
    before.state.store.stats.processed + report.delivered
  failed : after.state.store.stats.failed =
    before.state.store.stats.failed + (report.failed + report.undecodable)
  isReleased : after.state.store.isLeased = false

variable {before after fetched stopped : SharedCourse Unit} {reached : List Reached}

theorem isProcessed_of_mem_waiting {message : Message}
    (member : message ∈ dispatcher.waiting before) : message.isProcessed = false := by
  simpa using (List.mem_filter.mp (List.mem_of_mem_take member)).2

/-- Once the messages are reached and their outcomes are stored, all the rest follows. -/
theorem dispatched_of_reaches (lease : Lease) (spares : dispatcher.bus.SparesOutbox)
    (distinct : (before.state.store.outbox.map Message.id).Nodup)
    (reaches : dispatcher.Reaches fetched (dispatcher.waiting before) reached stopped)
    (opening : fetched.requests =
      before.requests ++ [.tryLease, .fetchMessages dispatcher.settings.batchSize])
    (closing : after.requests = stopped.requests ++ saving reached ++ [.releaseLease lease])
    (unchanged : fetched.state.store.outbox = before.state.store.outbox)
    (stored : after.state.store =
      (stopped.state.store.saveProcessed (reached.map Reached.outcome)).release) :
    dispatcher.Dispatched before after (reportOf (dispatcher.waiting before).length reached)
      reached := by
  have messages := List.prefix_iff_eq_take.mp reaches.isPrefix
  rw [List.length_map] at messages
  have sublist : (reached.map Reached.message).Sublist before.state.store.outbox :=
    reaches.isPrefix.sublist.trans ((List.take_sublist _ _).trans List.filter_sublist)
  have outbox : after.state.store.outbox =
      before.state.store.outbox.map (Store.settle (reached.map Reached.outcome)) := by
    have same := (outbox_of_reaches spares reaches).trans unchanged
    rw [stored, ← same]
    rw [← same] at distinct sublist
    exact Store.outbox_saveProcessed distinct (nodup_outcomes distinct sublist)
  obtain ⟨others, was, now⟩ := exists_perm_settle distinct sublist
  rw [← outbox] at now
  have isWaiting : ∀ message ∈ reached.map Reached.message, message.isProcessed = false :=
    fun message member => isProcessed_of_mem_waiting (reaches.isPrefix.subset member)
  have isSettled : ∀ outcome ∈ reached.map Reached.outcome, outcome.isProcessed = true := by
    intro outcome member
    obtain ⟨message, -, rfl⟩ := List.mem_map.mp member
    rfl
  obtain ⟨pending, processed, failed⟩ := Store.stats_of_settled was now isWaiting isSettled
  rw [List.length_map] at pending
  rw [countP_error_isNone] at processed
  rw [countP_error_isSome] at failed
  refine ⟨⟨fetched, stopped, lease, reaches, opening, closing⟩, messages, ?_, ?_, rfl,
    processed_reportOf _ reached, pending, processed, ?_, ?_⟩
  · intro message member
    obtain ⟨begins, ends, delivers⟩ := reaches.delivers message member
    exact ⟨⟨begins, ends, delivers⟩, message.delivery.error?_eq_none_iff, delivers.error?_iff⟩
  · rw [outbox, List.forall₂_map_right_iff]
    refine List.forall₂_same.mpr fun row member => ?_
    by_cases isReached : ∃ message ∈ reached, message.message = row
    · obtain ⟨message, inReached, rfl⟩ := isReached
      exact .inl ⟨message, inReached, rfl, settle_reached distinct sublist inReached⟩
    · have other : ∀ message ∈ reached, message.message ≠ row :=
        fun message inReached same => isReached ⟨message, inReached, same⟩
      exact .inr ⟨other, settle_other distinct sublist member other⟩
  · rw [failed]
    exact congrArg _ (Int.natCast_add _ _)
  · rw [stored]
    rfl

/-- Ids stay what they are. -/
theorem Dispatched.ids {report : DispatchReport}
    (dispatched : dispatcher.Dispatched before after report reached) :
    after.state.store.outbox.map Message.id = before.state.store.outbox.map Message.id := by
  have same : List.Forall₂ (fun row settled => row.id = settled.id) before.state.store.outbox
      after.state.store.outbox := by
    refine dispatched.rows.imp fun row settled => ?_
    rintro (⟨message, -, rfl, rfl⟩ | ⟨-, rfl⟩)
    · rfl
    · rfl
  have mapped : List.Forall₂ Eq (before.state.store.outbox.map Message.id)
      (after.state.store.outbox.map Message.id) :=
    List.forall₂_map_left_iff.mpr (List.forall₂_map_right_iff.mpr same)
  rw [List.forall₂_eq_eq_eq] at mapped
  exact mapped.symm

/-- A run that comes to its end was skipped, or it has got the lease and dispatched. -/
theorem runOnce_cases (spares : dispatcher.bus.SparesOutbox)
    (distinct : (before.state.store.outbox.map Message.id).Nodup)
    {result : Except Failure DispatchReport}
    (performed : Shared.logged.perform chances dispatcher.runOnce.attempt before =
      (.ok result, after)) :
    (before.state.store.isLeased = true ∧ result = .ok { skipped := true } ∧
        after.state.store = before.state.store) ∨
      (before.state.store.isLeased = false ∧ ∃ report reached, result = .ok report ∧
        report.skipped = false ∧ dispatcher.Dispatched before after report reached ∧
        ((∀ n, (chances n).isCancelled = false) →
          reached.length = (dispatcher.waiting before).length)) := by
  rw [runOnce_eq] at performed
  obtain ⟨lease, isReply, -, performed⟩ := Shared.parts_of_perform_ask performed
  have answered := Consumption.answer_tryLease (chances 0) before.state
  rw [answered] at isReply
  let leased := before.extend (before.exchange () .tryLease (chances 0))
  have leasedStore : leased.state.store = { before.state.store with isLeased := true } :=
    congrArg (fun answer => answer.2.store) answered
  cases isLeased : before.state.store.isLeased with
  | true =>
      rw [isLeased] at isReply
      cases isReply
      cases performed
      refine .inl ⟨rfl, rfl, leasedStore.trans ?_⟩
      rw [← isLeased]
  | false =>
      rw [isLeased] at isReply
      cases isReply
      obtain ⟨batch, batched, count, dispatched, performed⟩ :=
        Surroundings.parts_of_perform_andThen performed
      obtain ⟨fetched, stopped, reached, reaches, rfl, all, asked, unchanged, saved, stored⟩ :=
        reaches_of_dispatchBatch (Surroundings.perform_onAbort_eq_ok_iff.mp dispatched)
      obtain ⟨released, isReply, -, performed⟩ := Shared.parts_of_perform_ask performed
      cases isReply
      cases performed
      have messages : leased.state.store.fetch dispatcher.settings.batchSize =
          dispatcher.waiting before := by
        rw [leasedStore]
        rfl
      rw [messages] at reaches all
      refine .inr ⟨rfl, reportOf (dispatcher.waiting before).length reached, reached, ?_, rfl, ?_,
        fun goesOn => all fun n => goesOn _⟩
      · rw [messages]
      apply dispatched_of_reaches ⟨0⟩ spares distinct reaches
      · rw [asked]
        simp [Course.requests, Course.exchange]
      · rw [← saved]
        simp [Course.requests, Course.exchange]
      · rw [unchanged]
        exact congrArg (fun answer => answer.2.store.outbox) answered
      · rw [← stored]
        rfl

/-! ## Runs that come to their end -/

theorem IsDispatch.exists_reply {request : Effect} (isDispatch : IsDispatch request)
    (chance : Chance) (course : SharedCourse Unit) :
    ∃ reply, (Shared.logged.answer chance request course).1 = .ok reply := by
  cases request with
  | tryLease | releaseLease | dropLease | isConsumed | markConsumed | fetchMessages
  | saveProcessed | isCancelled | now | sleep => exact ⟨_, rfl⟩
  | _ => exact isDispatch.elim

/-- What comes to its end, with all that happens written down. -/
abbrev Completes {α : Type} (program : Program α) : Prop := Shared.logged.Completes program

theorem compositional_completes : Script.Compositional IsDispatch fun _ => Completes :=
  Surroundings.compositional_completes (I := Effect.interface) fun _ isDispatch =>
    isDispatch.exists_reply

/-- If the handlers come to their end and the pauses can be represented, so does a run. -/
theorem runOnce_completes (completes : dispatcher.bus.Completes)
    (fit : dispatcher.settings.PausesFit) : Completes dispatcher.runOnce.attempt := by
  have delivery := compositional_completes.mono fun _ isDelivery => IsDelivery.isDispatch isDelivery
  have batchwork := delivery.mono fun _ isBatchwork => IsBatchwork.isDelivery isBatchwork
  have delivers : ∀ subscription ∈ dispatcher.bus.subscriptions, ∀ event,
      Completes (subscription.deliver event).attempt := by
    intro subscription member event
    apply Subscription.deliver_fine delivery True.intro True.intro
    exact (completes subscription member event).recorded ()
  have pauses : ∀ n, 0 < n → n ≤ Backoff.retries dispatcher.settings.maxAttempts →
      Completes (pause dispatcher.settings.retryStep n) := by
    intro n isRetry within
    obtain ⟨duration, represented⟩ := fit n isRetry within
    rw [pause, represented]
    exact batchwork.ask True.intro fun reply => batchwork.done reply
  have batch : Completes dispatcher.dispatchBatch.attempt :=
    dispatchBatch_fine delivers batchwork pauses
  rw [runOnce_eq]
  refine compositional_completes.ask True.intro fun reply => ?_
  match reply with
  | .error failure => exact compositional_completes.done _
  | .ok none => exact compositional_completes.done _
  | .ok (some lease) =>
      apply compositional_completes.andThen (batch.onAbort _)
      intro result
      exact compositional_completes.ask True.intro fun _ => compositional_completes.done result

/-! ## Runs one after another -/

/-- The course after runs of one dispatcher, one after another. -/
def afterRuns (dispatcher : Dispatcher) (course : SharedCourse Unit) :
    List (Nat → Chance) → SharedCourse Unit
  | [] => course
  | chances :: rest =>
    dispatcher.afterRuns (Shared.logged.perform chances dispatcher.runOnce.attempt course).2 rest

theorem length_waiting (dispatcher : Dispatcher) (course : SharedCourse Unit) :
    ((dispatcher.waiting course).length : Int) =
      min (max 0 dispatcher.settings.batchSize) course.state.store.stats.pending := by
  simp only [waiting, Store.fetch, Store.stats, List.length_take, List.countP_eq_length_filter]
  omega

/-- A run that is not cancelled leaves a batch less to do. -/
theorem pending_of_run (spares : dispatcher.bus.SparesOutbox)
    (distinct : (before.state.store.outbox.map Message.id).Nodup)
    (free : before.state.store.isLeased = false) (goesOn : ∀ n, (chances n).isCancelled = false)
    {result : Except Failure DispatchReport}
    (performed : Shared.logged.perform chances dispatcher.runOnce.attempt before =
      (.ok result, after)) :
    after.state.store.stats.pending =
        max 0 (before.state.store.stats.pending - max 0 dispatcher.settings.batchSize) ∧
      (after.state.store.outbox.map Message.id).Nodup ∧ after.state.store.isLeased = false := by
  rcases runOnce_cases spares distinct performed with
    ⟨isLeased, -⟩ | ⟨-, report, reached, -, -, dispatched, all⟩
  · rw [free] at isLeased
    contradiction
  · have batch := length_waiting dispatcher before
    refine ⟨?_, ?_, dispatched.isReleased⟩
    · rw [dispatched.pending, all goesOn, batch]
      have waits : 0 ≤ before.state.store.stats.pending := Int.natCast_nonneg _
      omega
    · rw [dispatched.ids]
      exact distinct

/-- Runs that are not cancelled work off the outbox batch by batch. -/
theorem pending_afterRuns (spares : dispatcher.bus.SparesOutbox)
    (completes : dispatcher.bus.Completes) (fit : dispatcher.settings.PausesFit)
    (distinct : (before.state.store.outbox.map Message.id).Nodup)
    (free : before.state.store.isLeased = false) {runs : List (Nat → Chance)}
    (goOn : ∀ chances ∈ runs, ∀ n, (chances n).isCancelled = false) :
    (dispatcher.afterRuns before runs).state.store.stats.pending =
      max 0 (before.state.store.stats.pending -
        runs.length * max 0 dispatcher.settings.batchSize) := by
  induction runs generalizing before with
  | nil =>
      have waits : 0 ≤ before.state.store.stats.pending := Int.natCast_nonneg _
      rw [afterRuns, List.length_nil, Int.natCast_zero, Int.zero_mul, Int.sub_zero,
        Int.max_eq_right waits]
  | cons chances rest ih =>
      rw [List.forall_mem_cons] at goOn
      obtain ⟨result, after, performed⟩ := runOnce_completes completes fit chances before
      obtain ⟨pending, distinct, free⟩ := pending_of_run spares distinct free goOn.1 performed
      rw [afterRuns, performed, ih distinct free goOn.2, pending, List.length_cons,
        Int.natCast_add, Int.add_mul]
      have worked : 0 ≤ rest.length * max 0 dispatcher.settings.batchSize :=
        Int.mul_nonneg (Int.natCast_nonneg _) (Int.le_max_left _ _)
      omega

end Dispatcher

open Dispatcher in
/-- A run that gets the lease settles the first waiting messages in their order, those that it
has reached before it was cancelled, and changes nothing else in the outbox. Its report and the
counts of the outbox tell the same. If the handlers come to their end and the pauses can be
represented, the run comes to its end, and as many runs as there are batches leave nothing
waiting. -/
theorem dispatch_settles_what_it_reaches (dispatcher : Dispatcher)
    (spares : dispatcher.bus.SparesOutbox) (before : SharedCourse Unit)
    (distinct : (before.state.store.outbox.map Message.id).Nodup) :
    (∀ chances result after,
      Shared.logged.perform chances dispatcher.runOnce.attempt before = (.ok result, after) →
        (before.state.store.isLeased = true ∧ result = .ok { skipped := true } ∧
            after.state.store = before.state.store) ∨
          (before.state.store.isLeased = false ∧ ∃ report reached, result = .ok report ∧
            report.skipped = false ∧ dispatcher.Dispatched before after report reached ∧
            ((∀ n, Chance.isCancelled (chances n) = false) →
              reached.length = (dispatcher.waiting before).length))) ∧
      (dispatcher.bus.Completes → dispatcher.settings.PausesFit →
        Shared.logged.Completes dispatcher.runOnce.attempt ∧
          (before.state.store.isLeased = false → 1 ≤ dispatcher.settings.batchSize →
            ∀ runs : List (Nat → Chance),
              (∀ chances ∈ runs, ∀ n, (chances n).isCancelled = false) →
              let pending := before.state.store.stats.pending
              let batch := dispatcher.settings.batchSize
              let after := dispatcher.afterRuns before runs
              after.state.store.stats.pending = max 0 (pending - runs.length * batch) ∧
                ((runs.length : Int) = (pending + batch - 1) / batch →
                  after.state.store.stats.pending = 0))) := by
  refine ⟨fun chances result after => runOnce_cases spares distinct, ?_⟩
  intro completes fit
  refine ⟨runOnce_completes completes fit, ?_⟩
  intro free isBatch runs goOn pending batch after
  have left : after.state.store.stats.pending = max 0 (pending - runs.length * batch) := by
    have worked := pending_afterRuns spares completes fit distinct free goOn
    rwa [Int.max_eq_right (by omega : 0 ≤ dispatcher.settings.batchSize)] at worked
  refine ⟨left, fun enough => ?_⟩
  have covered : pending + batch - 1 < (runs.length + 1) * batch := by
    rw [enough]
    exact Int.lt_ediv_add_one_mul_self _ (by omega)
  rw [Int.add_mul, Int.one_mul] at covered
  omega

open Time in
/-- A message that cannot be decoded waits before one that can. A run with batches of one reaches
the first of them, and two runs leave nothing waiting. -/
theorem dispatch_settles_what_it_reaches_of_two :
    let now : Moment := ⟨⟨2026, 1, 2, by decide, by decide, by decide⟩, 3, 4, 5, 6,
      by decide, by decide, by decide, by decide⟩
    let event : Event := ⟨⟨1⟩, now, .removed ⟨⟨2⟩, "abc"⟩⟩
    let unreadable : Message := ⟨⟨2⟩, event.typeName, "not an event", now, none, none⟩
    let dispatcher : Dispatcher := ⟨⟨1, 3, 100⟩, .external [(event.typeName, "audit")]⟩
    let before : SharedCourse Unit := ⟨[], { outbox := [unreadable, .ofEvent event] }, none, 0⟩
    let chances : Nat → Chance := fun _ => ⟨1, now, ⟨0⟩, false, ⟨20, .ok ()⟩⟩
    dispatcher.bus.SparesOutbox ∧ (before.state.store.outbox.map Message.id).Nodup ∧
      dispatcher.bus.Completes ∧ dispatcher.settings.PausesFit ∧
      (∃ report reached after,
        Shared.logged.perform chances dispatcher.runOnce.attempt before =
            (.ok (.ok report), after) ∧
          dispatcher.Dispatched before after report reached ∧ reached.length = 1) ∧
      (dispatcher.afterRuns before [chances, chances]).state.store.stats.pending = 0 := by
  intro now event unreadable dispatcher before chances
  have spares : dispatcher.bus.SparesOutbox := Bus.external_sparesOutbox _
  have distinct : (before.state.store.outbox.map Message.id).Nodup := by decide
  have completes : dispatcher.bus.Completes := Bus.external_completes _
  have fit : dispatcher.settings.PausesFit := by
    intro n isRetry within
    have few : n ≤ 2 := Nat.le_trans within (by decide)
    have short : 100 * n / 1000 ≤ Number.maxWord64 :=
      Nat.le_trans (Nat.div_le_self _ _)
        (Nat.le_trans (Nat.mul_le_mul_left 100 few) (by decide))
    exact ⟨100 * n, if_pos short⟩
  obtain ⟨settles, works⟩ := dispatch_settles_what_it_reaches dispatcher spares before distinct
  obtain ⟨ends, drains⟩ := works completes fit
  refine ⟨spares, distinct, completes, fit, ?_, ?_⟩
  · obtain ⟨result, after, performed⟩ := ends chances before
    rcases settles chances result after performed with
      ⟨isLeased, -⟩ | ⟨-, report, reached, rfl, -, dispatched, all⟩
    · contradiction
    · exact ⟨report, reached, after, performed, dispatched, all fun _ => rfl⟩
  · exact (drains rfl (Int.le_refl 1) [chances, chances] (by simp [chances])).2 (by decide)

end Shortlink
