import Shortlink.Proofs.Script.Assurance

/-!
# A script alone

Where nothing happens between the requests of a script, each of them meets the state that
the one before has left. What a script assures alone holds at the end of its run.
-/

namespace Shortlink

variable {I : Interface} {σ α β : Type}

namespace Surroundings

variable (surroundings : Surroundings I σ)

/-- Answers a request with the first of the chances that are to come. -/
def answerNext (request : I.Request) (state : σ × (Nat → surroundings.Chance)) :
    Except Abort (I.Reply request) × σ × (Nat → surroundings.Chance) :=
  let (reply, after) := surroundings.answer (state.2 0) request state.1
  (reply, after, fun n => state.2 (n + 1))

/-- The end of a script that nothing interrupts, and the state that it leaves. -/
def perform (chances : Nat → surroundings.Chance) (script : Script I α) (state : σ) :
    Except Abort α × σ :=
  let (result, after) := script.run surroundings.answerNext (state, chances)
  (result, after.1)

variable {surroundings} {chances : Nat → surroundings.Chance} {request : I.Request}
  {next : I.Reply request → Script I α} {state after : σ}

theorem perform_ask_of_ok {reply : I.Reply request}
    (answered : surroundings.answer (chances 0) request state = (.ok reply, after)) :
    surroundings.perform chances (.ask request next) state =
      surroundings.perform (fun n => chances (n + 1)) (next reply) after := by
  simp only [perform, Script.run, answerNext, answered]

theorem perform_ask_of_error {cause : Abort}
    (answered : surroundings.answer (chances 0) request state = (.error cause, after)) :
    surroundings.perform chances (.ask request next) state = (.error cause, after) := by
  simp only [perform, Script.run, answerNext, answered]

/-- The surroundings where only such chances come up as are allowed. -/
def given (surroundings : Surroundings I σ) (allowed : surroundings.Chance → Prop) :
    Surroundings I σ where
  Chance := { chance // allowed chance }
  answer chance := surroundings.answer chance.1
  Disturbance := surroundings.Disturbance
  disturb := surroundings.disturb

end Surroundings

namespace Script

/-- The contract of a script beside which nothing happens. -/
def Contract.alone (σ : Type) : Contract σ where
  rely state other := state = other
  guarantee _ _ := True
  rely_refl _ := rfl
  rely_trans one two := one.trans two

variable {surroundings : Surroundings I σ} {post : Except Abort α → σ → Prop}

theorem alone_keeps (condition : σ → Prop) : (Contract.alone σ).Keeps condition :=
  fun holds same => same ▸ holds

/-- The rule of requests of a script alone. -/
theorem Assures.step {request : I.Request} {next : I.Reply request → Script I α} {state : σ}
    (step : ∀ chance,
      match surroundings.answer chance request state with
      | (.ok reply, after) => (next reply).Assures surroundings (.alone σ) post after
      | (.error cause, after) => post (.error cause) after) :
    (ask request next).Assures surroundings (.alone σ) post state := by
  rintro before rfl chance
  refine ⟨True.intro, ?_⟩
  have stepped := step chance
  rcases outcome : surroundings.answer chance request state with ⟨reply, after⟩
  rw [outcome] at stepped
  cases reply with
  | ok reply => exact stepped
  | error cause => exact stepped

/-- The rule of requests that do not break off. -/
theorem Assures.step_of_ok {request : I.Request} {next : I.Reply request → Script I α} {state : σ}
    (step : ∀ chance, ∃ reply after, surroundings.answer chance request state = (.ok reply, after) ∧
      (next reply).Assures surroundings (.alone σ) post after) :
    (ask request next).Assures surroundings (.alone σ) post state := by
  apply Assures.step
  intro chance
  obtain ⟨reply, after, answered, assured⟩ := step chance
  rw [answered]
  exact assured

theorem Assures.perform {script : Script I α} {state : σ}
    (assured : script.Assures surroundings (.alone σ) post state)
    (chances : Nat → surroundings.Chance) :
    post (surroundings.perform chances script state).1
      (surroundings.perform chances script state).2 := by
  induction script generalizing state chances with
  | done value => exact assured
  | abort cause => exact assured
  | ask request next ih =>
      have stepped := (assured state rfl (chances 0)).2
      rcases answered : surroundings.answer (chances 0) request state with ⟨reply, after⟩
      rw [answered] at stepped
      cases reply with
      | ok reply =>
          rw [Surroundings.perform_ask_of_ok answered]
          exact ih reply stepped _
      | error cause =>
          rw [Surroundings.perform_ask_of_error answered]
          exact stepped

/-- What a script assures where only some chances come up holds at the end of a run with such
chances. -/
theorem Assures.perform_given {allowed : surroundings.Chance → Prop} {script : Script I α}
    {state : σ} (assured : script.Assures (surroundings.given allowed) (.alone σ) post state)
    {chances : Nat → surroundings.Chance} (isAllowed : ∀ n, allowed (chances n)) :
    post (surroundings.perform chances script state).1
      (surroundings.perform chances script state).2 := by
  induction script generalizing state chances with
  | done value => exact assured
  | abort cause => exact assured
  | ask request next ih =>
      have stepped := (assured state rfl ⟨chances 0, isAllowed 0⟩).2
      rcases answered : surroundings.answer (chances 0) request state with ⟨reply, after⟩
      have answeredToo : (surroundings.given allowed).answer ⟨chances 0, isAllowed 0⟩ request
          state = (reply, after) := answered
      rw [answeredToo] at stepped
      cases reply with
      | ok reply =>
          rw [Surroundings.perform_ask_of_ok answered]
          exact ih reply stepped fun n => isAllowed (n + 1)
      | error cause =>
          rw [Surroundings.perform_ask_of_error answered]
          exact stepped

end Script

end Shortlink
