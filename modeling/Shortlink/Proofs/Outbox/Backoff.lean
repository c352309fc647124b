import Shortlink.Outbox.Invalidation
import Shortlink.Proofs.Link.Code
import Shortlink.Proofs.Outbox.Retries
import Shortlink.Proofs.Script.Conversation
import Shortlink.Proofs.Settings.Check

/-!
# Backoff of an accepted configuration

Attempts are counted in 32 bits and a pause is kept in whole seconds of 64 bits, so with other
settings retries would get lost or a pause could not be represented. An accepted configuration has
few attempts, and then neither happens, however long the step is: all pauses are multiples of the
step, and a message that cannot be published is tried as often as the settings say.
-/

namespace Shortlink

open Time (Moment)

/-! ## The pauses -/

theorem Backoff.pause?_eq {step n duration : Nat} (represented : pause? step n = .ok duration) :
    duration = step * n := by
  rw [pause?] at represented
  split at represented
  · exact (Except.ok.inj represented).symm
  · contradiction

/-- Where all pauses can be represented, they are what the settings say. -/
theorem DispatchSettings.PausesFit.pauses_eq {settings : DispatchSettings}
    (fit : settings.PausesFit)
    (attempts : Backoff.retries settings.maxAttempts + 1 = settings.maxAttempts) (count : Nat) :
    Backoff.pauses settings.retryStep settings.maxAttempts count =
      .ok (((List.range (settings.maxAttempts - 1)).map fun n =>
        settings.retryStep * (n + 1)).take count) := by
  have fewer : Backoff.retries settings.maxAttempts = settings.maxAttempts - 1 := by omega
  have represented : ∀ n ∈ List.range (min count (settings.maxAttempts - 1)),
      Backoff.pause? settings.retryStep (n + 1) = .ok (settings.retryStep * (n + 1)) := by
    intro n member
    rw [List.mem_range] at member
    obtain ⟨duration, isDuration⟩ := fit (n + 1) (by omega) (by omega)
    rw [isDuration, Backoff.pause?_eq isDuration]
  rw [Backoff.pauses, fewer, ← List.map_take, List.take_range]
  generalize List.range (min count (settings.maxAttempts - 1)) = retries at represented
  induction retries with
  | nil => rfl
  | cons n retries ih =>
      obtain ⟨first, later⟩ := List.forall_mem_cons.mp represented
      rw [List.mapM_cons, first, ih later]
      rfl

/-! ## The attempts -/

namespace Bus

/-- What is said while an event is published so many times, with a pause before each retry. All
publications but the last have failed, and the last one has ended so. `made` are the retries
before. -/
inductive Tries (bus : Bus) (step : Nat) (event : Event) : (count made : Nat) → List Saying →
    Except Abort (Except Failure Unit) → Prop where
  | once {made : Nat} {said : List Saying} {result : Except Abort (Except Failure Unit)}
      (published : (bus.publish event).attempt.Converses said result) :
      Tries bus step event 1 made said result
  | again {count made : Nat} {said rest : List Saying} {failure : Failure}
      {result : Except Abort (Except Failure Unit)}
      (fails : (bus.publish event).attempt.Converses said (.ok (.error failure)))
      (later : Tries bus step event count (made + 1) rest result) :
      Tries bus step event (count + 1) made
        (said ++ ⟨Effect.sleep (step * (made + 1)), ()⟩ :: rest) result

/-- With these replies an event cannot be published, whatever has been said before. -/
def NeverPublishes (bus : Bus) (event : Event) (respondent : Respondent Effect.interface) : Prop :=
  ∀ earlier, ∃ failure, ((bus.publish event).attempt.converse fun said =>
    respondent (earlier ++ said)).2 = .ok (.error failure)

variable {bus : Bus} {step count made : Nat} {event : Event} {said : List Saying}
  {result : Except Abort (Except Failure Unit)}

/-- An event has been published once, or in vain before it was published again. -/
theorem Tries.parts (tries : bus.Tries step event count made said result) :
    (count = 1 ∧ (bus.publish event).attempt.Converses said result) ∨
      ∃ first failure less rest, count = less + 1 ∧
        said = first ++ ⟨Effect.sleep (step * (made + 1)), ()⟩ :: rest ∧
        (bus.publish event).attempt.Converses first (.ok (.error failure)) ∧
        bus.Tries step event less (made + 1) rest result := by
  cases tries with
  | once published => exact .inl ⟨rfl, published⟩
  | again fails later => exact .inr ⟨_, _, _, _, rfl, rfl, fails, later⟩

/-- What is said tells how often an event has been published. -/
theorem Tries.count_eq {other : Nat} {resultOther : Except Abort (Except Failure Unit)}
    (tries : bus.Tries step event count made said result)
    (triesOther : bus.Tries step event other made said resultOther) : count = other := by
  induction tries generalizing other with
  | once published =>
      rcases triesOther.parts with ⟨rfl, -⟩ | ⟨first, failure, less, rest, -, same, fails, -⟩
      · rfl
      · have parts := published.eq_of_append fails ((List.append_nil _).trans same)
        cases parts.2.2
  | again fails later ih =>
      rcases triesOther.parts with
        ⟨-, published⟩ | ⟨first, failure, less, rest, rfl, same, failsOther, laterOther⟩
      · have parts := fails.eq_of_append published (List.append_nil _).symm
        cases parts.2.2
      · obtain ⟨-, -, sameRest⟩ := fails.eq_of_append failsOther same
        obtain ⟨-, rfl⟩ := List.cons.inj sameRest
        rw [ih laterOther]

end Bus

namespace Dispatcher

variable {bus : Bus} {step left made : Nat} {event : Event} {said : List Saying}
  {result : Except Abort (Except Failure Unit)}

/-- An event is published until a publication does not fail, or no retry is left. -/
theorem tries_of_retry
    (fit : ∀ n, made < n → n ≤ made + left → ∃ duration, Backoff.pause? step n = .ok duration)
    (talk : (retry bus step event left made).attempt.Converses said result) :
    ∃ count ≤ left + 1, bus.Tries step event count made said result ∧
      ∀ failure, result = .ok (.error failure) → count = left + 1 := by
  induction left generalizing made said with
  | zero => exact ⟨1, Nat.le_refl 1, .once talk, fun _ _ => rfl⟩
  | succ left ih =>
      rw [retry_succ] at talk
      rcases talk.parts_of_andThen with
        ⟨published, first, rest, publishes, goesOn, rfl⟩ | ⟨cause, broken, rfl⟩
      · cases published with
        | ok _ =>
            cases goesOn
            rw [List.append_nil]
            exact ⟨1, by omega, .once publishes, fun _ failed => by cases failed⟩
        | error failure =>
            obtain ⟨duration, represented⟩ := fit (made + 1) (by omega) (by omega)
            rw [pause, represented, Backoff.pause?_eq represented] at goesOn
            obtain ⟨⟨⟩, goesOn⟩ := goesOn
            obtain ⟨count, few, tries, all⟩ :=
              ih (fun n later within => fit n (by omega) (by omega)) goesOn
            exact ⟨count + 1, by omega, .again publishes tries,
              fun failure failed => by rw [all failure failed]⟩
      · exact ⟨1, by omega, .once broken, fun _ failed => by cases failed⟩

/-- An event that cannot be published is published in vain to the end. -/
theorem exists_failure_of_retry {respondent : Respondent Effect.interface}
    (fit : ∀ n, made < n → n ≤ made + left → ∃ duration, Backoff.pause? step n = .ok duration)
    (never : bus.NeverPublishes event respondent) :
    ∃ failure, ((retry bus step event left made).attempt.converse respondent).2 =
      .ok (.error failure) := by
  induction left generalizing made respondent with
  | zero => exact never []
  | succ left ih =>
      obtain ⟨failure, failed : ((bus.publish event).attempt.converse respondent).2 = _⟩ :=
        never []
      obtain ⟨duration, represented⟩ := fit (made + 1) (by omega) (by omega)
      rw [retry_succ, Script.converse_andThen_of_ok _ failed]
      simp only [pause, represented]
      refine ih (fun n later within => fit n (by omega) (by omega)) fun earlier => ?_
      simpa using never (_ ++ ⟨Effect.sleep duration, ()⟩ :: earlier)

/-- A message has failed if its event has been published in vain. -/
theorem exists_failure_of_failed {published : Except Abort (Except Failure Unit)} {reason : String}
    (failed : published.map delivery = .ok (.failed reason)) :
    ∃ failure, published = .ok (.error failure) := by
  cases published with
  | error cause => cases failed
  | ok result =>
      cases result with
      | ok _ => cases failed
      | error failure => exact ⟨failure, rfl⟩

/-- A message whose event cannot be published fails. -/
theorem exists_failed_of_deliver {settings : DispatchSettings} {message : Message}
    {respondent : Respondent Effect.interface} (fit : settings.PausesFit)
    (decoded : message.decode = .ok event) (never : bus.NeverPublishes event respondent) :
    ∃ reason, ((deliver ⟨settings, bus⟩ message).converse respondent).2 = .ok (.failed reason) := by
  obtain ⟨failure, failed⟩ := exists_failure_of_retry
    (fun n isRetry within => fit n isRetry (by simpa using within)) never
  refine ⟨failure.message, ?_⟩
  rw [deliver_eq, decoded, Script.converse_andThen_of_ok _ failed]
  rfl

/-- A message is delivered as its event has been published in the end. -/
theorem tries_of_deliver {settings : DispatchSettings} {message : Message} {talked : List Saying}
    {ended : Except Abort Delivery} (fit : settings.PausesFit)
    (decoded : message.decode = .ok event)
    (talk : (deliver ⟨settings, bus⟩ message).Converses talked ended) :
    ∃ published, ended = published.map delivery ∧
      ∃ count ≤ Backoff.retries settings.maxAttempts + 1,
        bus.Tries settings.retryStep event count 0 talked published ∧
        ∀ failure, published = .ok (.error failure) →
          count = Backoff.retries settings.maxAttempts + 1 := by
  rw [deliver_eq, decoded] at talk
  have pauses : ∀ n, 0 < n → n ≤ 0 + Backoff.retries settings.maxAttempts →
      ∃ duration, Backoff.pause? settings.retryStep n = .ok duration :=
    fun n isRetry within => fit n isRetry (by omega)
  rcases talk.parts_of_andThen with
    ⟨published, first, rest, publishes, concluded, rfl⟩ | ⟨cause, broken, rfl⟩
  · cases concluded
    rw [List.append_nil]
    exact ⟨.ok published, rfl, tries_of_retry pauses publishes⟩
  · exact ⟨.error cause, rfl, tries_of_retry pauses broken⟩

end Dispatcher

/-- With an accepted configuration, whose step is one word of milliseconds, there is one pause less
than there are attempts, and each is as many steps long as there were attempts before it. Whatever
is replied, the event of a message is published with these pauses in between until it does not fail,
and of a message that has failed, as one does that cannot be published, as often as the settings
say. Nothing breaks off but a publication. -/
theorem Settings.Config.backoff_is_exact {config : Config} (accepted : config.check = .ok ())
    (isWord : config.retryStep ≤ Number.maxWord64) :
    let settings := config.dispatch
    (∀ count, Backoff.pauses settings.retryStep settings.maxAttempts count =
      .ok (((List.range (config.maxAttempts - 1)).map fun n => config.retryStep * (n + 1)).take
        count)) ∧
      ∀ (bus : Bus) (event : Event) (message : Message), message.decode = .ok event →
        ∀ respondent : Respondent Effect.interface,
          let talk := (Dispatcher.deliver ⟨settings, bus⟩ message).converse respondent
          (∃ published, talk.2 = published.map Dispatcher.delivery ∧
            ∃ count ≤ config.maxAttempts,
              (∀ n, bus.Tries config.retryStep event n 0 talk.1 published ↔ n = count) ∧
              ∀ reason, talk.2 = .ok (.failed reason) → count = config.maxAttempts) ∧
          (bus.NeverPublishes event respondent → ∃ reason, talk.2 = .ok (.failed reason)) := by
  intro settings
  obtain ⟨isAttempt, few⟩ := (Config.check_eq_ok.mp accepted).maxAttempts
  have fit : settings.PausesFit := DispatchSettings.pausesFit_of_few isWord few
  have attempts : Backoff.retries settings.maxAttempts + 1 = settings.maxAttempts :=
    Backoff.retries_add_one isAttempt few
  refine ⟨fit.pauses_eq attempts, fun bus event message decoded respondent => ?_⟩
  intro talk
  refine ⟨?_, Dispatcher.exists_failed_of_deliver fit decoded⟩
  obtain ⟨published, ended, count, fewer, tries, all⟩ :=
    Dispatcher.tries_of_deliver fit decoded (Script.converses_converse _ respondent)
  rw [attempts] at fewer all
  refine ⟨published, ended, count, fewer, fun n => ⟨fun other => other.count_eq tries, ?_⟩, ?_⟩
  · rintro rfl
    exact tries
  · intro reason failed
    obtain ⟨failure, isFailure⟩ := Dispatcher.exists_failure_of_failed (ended.symm.trans failed)
    exact all failure isFailure

/-- The reply to a request where nothing works. -/
def Effect.refused (now : Moment) (failure : Failure) : (request : Effect) → request.Reply
  | .now => now
  | .newId => ⟨0⟩
  | .sleep _ | .dropLease _ => ()
  | .isCancelled | .cacheHealthy => false
  | .addLink link | .updateLink link _ => ⟨.error failure, link⟩
  | .codeExists _ | .findByCode _ | .listLinks _ _ | .tryLease | .releaseLease _
  | .fetchMessages _ | .saveProcessed _ | .outboxStats | .requeue _ | .isConsumed _
  | .markConsumed _ => .error failure
  | .cacheGet _ | .cacheSet _ _ _ | .cacheRemove _ | .cacheRemoveAll _ =>
    .error (.operation failure.message)
  | .consult _ _ => ⟨0, .error failure⟩

/-- A configuration with as many attempts and as long a step as can be. -/
def Settings.Config.withLongestStep : Config :=
  { withDatabase with maxAttempts := 20, retryStep := Number.maxWord64 }

open Settings in
/-- With as many attempts and as long a step as can be, and where nothing works, a message is
published twenty times, and the last pause is nineteen steps long. -/
theorem backoff_is_exact_of_longest_step :
    let now : Moment := ⟨⟨2026, 1, 2, by decide, by decide, by decide⟩, 3, 4, 5, 6,
      by decide, by decide, by decide, by decide⟩
    let event : Event := ⟨⟨1⟩, now, .removed ⟨⟨2⟩, "abc"⟩⟩
    let config := Config.withLongestStep
    let settings := config.dispatch
    let respondent : Respondent Effect.interface :=
      fun _ request => request.refused now (.database "gone")
    let delivery := Dispatcher.deliver ⟨settings, .standard⟩ (.ofEvent event)
    config.check = .ok () ∧ config.retryStep ≤ Number.maxWord64 ∧
      (Message.ofEvent event).decode = .ok event ∧
      (∃ pauses, Backoff.pauses settings.retryStep settings.maxAttempts 20 = .ok pauses ∧
        pauses.length = 19 ∧ pauses.getLast? = some (19 * Number.maxWord64)) ∧
      ∃ published, ∀ n, Bus.standard.Tries config.retryStep event n 0
        (delivery.converse respondent).1 published ↔ n = 20 := by
  intro now event config settings respondent delivery
  have accepted : Config.withLongestStep.check = .ok () := by rfl
  have isWord : config.retryStep ≤ Number.maxWord64 := Nat.le_refl _
  have decoded : (Message.ofEvent event).decode = .ok event := Message.decode_ofEvent event
  obtain ⟨pauses, deliveries⟩ := Config.backoff_is_exact accepted isWord
  refine ⟨accepted, isWord, decoded, ⟨_, pauses 20, by decide, by decide⟩, ?_⟩
  have never : Bus.standard.NeverPublishes event respondent := fun _ => ⟨_, rfl⟩
  obtain ⟨⟨published, -, count, -, tries, all⟩, fails⟩ :=
    deliveries .standard event (.ofEvent event) decoded respondent
  obtain ⟨reason, failed⟩ := fails never
  have twenty : count = 20 := all reason failed
  exact ⟨published, twenty ▸ tries⟩

end Shortlink
