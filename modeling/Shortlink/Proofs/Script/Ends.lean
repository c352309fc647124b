import Shortlink.Proofs.Script.Alone
import Shortlink.Proofs.Script.Interleaving
import Shortlink.Proofs.Script.Requests

/-!
# How a script alone comes to its end

A script that is put together of others runs these one after another: where the whole comes to
its end, each part has come to its own, and the next one has gone on from there. So what all
parts leave as it was the whole leaves as it was, if all parts come to an end, so does the whole,
and what each part yields the next one can go on from.
-/

namespace Shortlink

variable {I : Interface} {ι σ α β γ : Type}

namespace Surroundings

variable (surroundings : Surroundings I σ)

/-- By some chance, a script that begins in one state ends with a value in another. -/
def Ends (script : Script I α) (begins : σ) (value : α) (ends : σ) : Prop :=
  ∃ chances, surroundings.perform chances script begins = (.ok value, ends)

/-- A script comes to its end, by whatever chances, and wherever it begins. -/
def Completes (script : Script I α) : Prop :=
  ∀ chances begins, ∃ value ends, surroundings.perform chances script begins = (.ok value, ends)

/-- A script that has come to its end has left as it was what can be observed. -/
def Leaves (observe : σ → γ) (script : Script I α) : Prop :=
  ∀ begins value ends, surroundings.Ends script begins value ends →
    observe ends = observe begins

/-! ## Scripts that go on -/

/-- The second script meets with the chances that the first has left. -/
theorem perform_andThen (chances : Nat → surroundings.Chance) (script : Script I α)
    (next : α → Script I β) (begins : σ) :
    ∃ count, surroundings.perform chances (script.andThen next) begins =
      match surroundings.perform chances script begins with
      | (.ok first, between) =>
        surroundings.perform (fun n => chances (n + count)) (next first) between
      | (.error cause, between) => (.error cause, between) := by
  induction script generalizing begins chances with
  | done first => exact ⟨0, rfl⟩
  | abort cause => exact ⟨0, rfl⟩
  | ask request reply ih =>
      rw [Script.andThen_ask]
      rcases answered : surroundings.answer (chances 0) request begins with ⟨answer, between⟩
      cases answer with
      | error cause =>
          refine ⟨0, ?_⟩
          rw [perform_ask_of_error answered, perform_ask_of_error answered]
      | ok answer =>
          rw [perform_ask_of_ok answered, perform_ask_of_ok answered]
          obtain ⟨count, performed⟩ := ih answer _ between
          exact ⟨count + 1, performed⟩

/-- What is written down of a script that runs does not change its run. -/
theorem perform_recorded (call : ι) (chances : Nat → surroundings.Chance)
    (script : Script I α) (course : Course ι I σ) :
    surroundings.perform chances script course.state =
      (((surroundings.recorded call).perform chances script course).1,
        ((surroundings.recorded call).perform chances script course).2.state) := by
  induction script generalizing course chances with
  | done result => rfl
  | abort cause => rfl
  | ask request next ih =>
      rcases answered : surroundings.answer (chances 0) request course.state with
        ⟨answer, between⟩
      have recorded : (surroundings.recorded call).answer (chances 0) request course =
          (answer, course.extend ⟨call, request, answer, course.state, between⟩) := by
        simp only [Surroundings.recorded, answered]
      cases answer with
      | error cause =>
          rw [perform_ask_of_error answered, perform_ask_of_error recorded]
          rfl
      | ok reply =>
          rw [perform_ask_of_ok answered, perform_ask_of_ok recorded]
          exact ih reply _ (course.extend ⟨call, request, .ok reply, course.state, between⟩)

variable {surroundings} {chances : Nat → surroundings.Chance} {begins ends : σ} {value : β}

/-- Where two scripts have come to their end, the first has, and then the second. -/
theorem parts_of_perform_andThen {script : Script I α} {next : α → Script I β}
    (ended : surroundings.perform chances (script.andThen next) begins = (.ok value, ends)) :
    ∃ first between count, surroundings.perform chances script begins = (.ok first, between) ∧
      surroundings.perform (fun n => chances (n + count)) (next first) between =
        (.ok value, ends) := by
  obtain ⟨count, performed⟩ := surroundings.perform_andThen chances script next begins
  rw [performed] at ended
  rcases begun : surroundings.perform chances script begins with ⟨cause | first, between⟩
  · rw [begun] at ended
    cases ended
  · rw [begun] at ended
    exact ⟨first, between, count, rfl, ended⟩

/-- Where a request and what follows it have come to their end, the request has got a reply. -/
theorem parts_of_perform_ask {request : I.Request} {next : I.Reply request → Script I β}
    (ended : surroundings.perform chances (.ask request next) begins = (.ok value, ends)) :
    ∃ reply between, surroundings.answer (chances 0) request begins = (.ok reply, between) ∧
      surroundings.perform (fun n => chances (n + 1)) (next reply) between =
        (.ok value, ends) := by
  rcases answered : surroundings.answer (chances 0) request begins with ⟨cause | reply, between⟩
  · rw [perform_ask_of_error answered] at ended
    cases ended
  · rw [perform_ask_of_ok answered] at ended
    exact ⟨reply, between, rfl, ended⟩

/-- A cleanup has no part in a script that comes to its end. -/
theorem perform_onAbort_eq_ok_iff {script : Script I β} {cleanup : Script I Unit} :
    surroundings.perform chances (script.onAbort cleanup) begins = (.ok value, ends) ↔
      surroundings.perform chances script begins = (.ok value, ends) := by
  induction script generalizing begins chances with
  | done result => rfl
  | abort cause =>
      constructor
      · intro ended
        obtain ⟨_, between, count, -, broken⟩ := parts_of_perform_andThen ended
        cases broken
      · intro ended
        cases ended
  | ask request next ih =>
      rw [Script.onAbort]
      rcases answered : surroundings.answer (chances 0) request begins with ⟨answer, between⟩
      cases answer with
      | error cause => rw [perform_ask_of_error answered, perform_ask_of_error answered]
      | ok reply =>
          rw [perform_ask_of_ok answered, perform_ask_of_ok answered]
          exact ih reply

theorem Ends.of_recorded {call : ι} {script : Script I β} {course after : Course ι I σ}
    (ended : (surroundings.recorded call).Ends script course value after) :
    surroundings.Ends script course.state value after.state := by
  obtain ⟨chances, performed⟩ := ended
  have recorded := surroundings.perform_recorded call chances script course
  rw [performed] at recorded
  exact ⟨chances, recorded⟩

/-! ## What all parts have in common -/

/-- What is the same after every answer to a request of a kind is left as it was by scripts that
are put together of such requests. -/
theorem compositional_leaves {observe : σ → γ} {allowed : I.Request → Prop}
    (same : ∀ request, allowed request → ∀ chance state,
      observe (surroundings.answer chance request state).2 = observe state) :
    Script.Compositional allowed fun _ => surroundings.Leaves observe where
  done value := by
    rintro begins _ ends ⟨chances, ended⟩
    cases ended
    rfl
  ask := by
    rintro α request next isAllowed continues begins value ends ⟨chances, ended⟩
    obtain ⟨reply, between, answered, rest⟩ := parts_of_perform_ask ended
    have unchanged := same request isAllowed (chances 0) begins
    rw [answered] at unchanged
    exact (continues reply _ _ _ ⟨_, rest⟩).trans unchanged
  andThen := by
    rintro α β script next first second begins value ends ⟨chances, ended⟩
    obtain ⟨result, between, count, begun, rest⟩ := parts_of_perform_andThen ended
    exact (second result _ _ _ ⟨_, rest⟩).trans (first _ _ _ ⟨_, begun⟩)

/-- Scripts that are put together of requests which are always answered come to their end. -/
theorem compositional_completes {allowed : I.Request → Prop}
    (answers : ∀ request, allowed request → ∀ chance state,
      ∃ reply, (surroundings.answer chance request state).1 = .ok reply) :
    Script.Compositional allowed fun _ => surroundings.Completes where
  done value chances begins := ⟨value, begins, rfl⟩
  ask := by
    intro α request next isAllowed continues chances begins
    obtain ⟨reply, answered⟩ := answers request isAllowed (chances 0) begins
    rw [perform_ask_of_ok (Prod.ext answered rfl)]
    exact continues reply _ _
  andThen := by
    intro α β script next first second chances begins
    obtain ⟨result, between, begun⟩ := first chances begins
    obtain ⟨count, performed⟩ := surroundings.perform_andThen chances script next begins
    rw [performed, begun]
    exact second result _ between

theorem Completes.onAbort {script : Script I β} (completes : surroundings.Completes script)
    (cleanup : Script I Unit) : surroundings.Completes (script.onAbort cleanup) := by
  intro chances begins
  obtain ⟨value, ends, performed⟩ := completes chances begins
  exact ⟨value, ends, perform_onAbort_eq_ok_iff.mpr performed⟩

theorem Leaves.recorded {observe : σ → γ} {script : Script I α}
    (leaves : surroundings.Leaves observe script) (call : ι) :
    (surroundings.recorded call).Leaves (fun course => observe course.state) script :=
  fun _ _ _ ended => leaves _ _ _ ended.of_recorded

theorem Completes.recorded {script : Script I α} (completes : surroundings.Completes script)
    (call : ι) : (surroundings.recorded call).Completes script := by
  intro chances course
  obtain ⟨value, ends, ended⟩ := completes chances course.state
  have recorded := (surroundings.perform_recorded call chances script course).symm.trans ended
  exact ⟨value, _, Prod.ext (Prod.mk.inj recorded).1 rfl⟩

/-- A script that only makes requests which leave what can be observed does so too. -/
theorem leaves_of_asks {observe : σ → γ} {allowed : I.Request → Prop} {script : Script I α}
    (same : ∀ request, allowed request → ∀ chance state,
      observe (surroundings.answer chance request state).2 = observe state)
    (asks : script.Asks allowed) : surroundings.Leaves observe script := by
  induction script with
  | done value => exact (compositional_leaves same).done value
  | abort cause =>
      rintro begins value ends ⟨chances, ended⟩
      cases ended
  | ask request next ih =>
      exact (compositional_leaves same).ask asks.1 fun reply => ih reply (asks.2 reply)

end Surroundings

/-! ## What a script yields -/

namespace Script

variable {surroundings : Surroundings I σ} {condition : α → σ → Prop} {state : σ}

/-- Alone, a script comes to its end, and its value and the state that it leaves satisfy a
condition. -/
def Yields (surroundings : Surroundings I σ) (condition : α → σ → Prop) (script : Script I α)
    (state : σ) : Prop :=
  script.Assures surroundings (.alone σ)
    (fun result after => ∃ value, result = .ok value ∧ condition value after) state

namespace Yields

theorem done {value : α} (holds : condition value state) :
    (Script.done value).Yields surroundings condition state := ⟨value, rfl, holds⟩

theorem ask {request : I.Request} {next : I.Reply request → Script I α}
    (step : ∀ chance, ∃ reply after, surroundings.answer chance request state = (.ok reply, after) ∧
      (next reply).Yields surroundings condition after) :
    (Script.ask request next).Yields surroundings condition state := .step_of_ok step

theorem imp {script : Script I α} {weaker : α → σ → Prop}
    (yields : script.Yields surroundings condition state)
    (implies : ∀ value after, condition value after → weaker value after) :
    script.Yields surroundings weaker state := by
  refine Assures.imp yields ?_
  rintro _ after ⟨value, rfl, holds⟩
  exact ⟨value, rfl, implies value after holds⟩

theorem andThen {script : Script I β} {next : β → Script I α} {between : β → σ → Prop}
    (first : script.Yields surroundings between state)
    (second : ∀ value after, between value after →
      (next value).Yields surroundings condition after) :
    (script.andThen next).Yields surroundings condition state := by
  refine Assures.andThen first ?_ ?_
  · rintro value after ⟨_, ended, holds⟩
    cases ended
    exact second value after holds
  · rintro cause after ⟨value, broken, -⟩
    cases broken

theorem onAbort {script : Script I α} (yields : script.Yields surroundings condition state)
    (cleanup : Script I Unit) : (script.onAbort cleanup).Yields surroundings condition state := by
  refine Assures.onAbort yields (fun _ _ ended => ended) (fun _ _ broken => broken) ?_
  rintro cause after ⟨value, broken, -⟩
  cases broken

theorem perform {script : Script I α} (yields : script.Yields surroundings condition state)
    (chances : Nat → surroundings.Chance) :
    ∃ value after, surroundings.perform chances script state = (.ok value, after) ∧
      condition value after := by
  obtain ⟨value, isValue, holds⟩ := Assures.perform yields chances
  exact ⟨value, _, Prod.ext isValue rfl, holds⟩

theorem perform_given {allowed : surroundings.Chance → Prop} {script : Script I α}
    (yields : script.Yields (surroundings.given allowed) condition state)
    (chances : Nat → surroundings.Chance) (isAllowed : ∀ n, allowed (chances n)) :
    ∃ value after, surroundings.perform chances script state = (.ok value, after) ∧
      condition value after := by
  obtain ⟨value, isValue, holds⟩ := Assures.perform_given yields isAllowed
  exact ⟨value, _, Prod.ext isValue rfl, holds⟩

end Yields

/-- A condition that requests of a kind keep, which are always answered, is kept by scripts that
are put together of them. -/
theorem compositional_keeps {holds : σ → Prop} {allowed : I.Request → Prop}
    (step : ∀ request, allowed request → ∀ chance state, holds state → ∃ reply after,
      surroundings.answer chance request state = (.ok reply, after) ∧ holds after) :
    Compositional allowed fun _ script =>
      ∀ state, holds state → script.Yields surroundings (fun _ => holds) state where
  done _ _ held := .done held
  ask := by
    intro α request next isAllowed continues state held
    apply Yields.ask
    intro chance
    obtain ⟨reply, after, answered, kept⟩ := step request isAllowed chance state held
    exact ⟨reply, after, answered, continues reply after kept⟩
  andThen first second := fun state held => (first state held).andThen second

end Script

end Shortlink
