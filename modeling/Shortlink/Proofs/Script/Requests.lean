import Shortlink.Proofs.Script.Assurance

/-!
# The requests of a script

Two scripts are equal if they make the same requests and go on in the same way. A script that
only makes requests of one kind assures whatever this kind of requests keeps.
-/

namespace Shortlink.Script

variable {I : Interface} {σ α β : Type}

theorem ask_congr {request : I.Request} {next other : I.Reply request → Script I α}
    (same : ∀ reply, next reply = other reply) : ask request next = ask request other :=
  congrArg (ask request) (funext same)

theorem andThen_congr (script : Script I α) {next other : α → Script I β}
    (same : ∀ value, next value = other value) : script.andThen next = script.andThen other :=
  congrArg script.andThen (funext same)

theorem interpret_andThen {J : Interface}
    (implement : (request : I.Request) → Script J (I.Reply request)) (script : Script I α)
    (next : α → Script I β) :
    (script.andThen next).interpret implement =
      (script.interpret implement).andThen fun value => (next value).interpret implement := by
  induction script with
  | done value => rfl
  | abort cause => rfl
  | ask request reply ih =>
      simp only [andThen_ask, interpret, ih]
      exact (andThen_assoc _ _ _).symm

variable {allowed : I.Request → Prop}

/-- Whatever the replies are, a script only makes requests of a kind. -/
def Asks (allowed : I.Request → Prop) : Script I α → Prop
  | done _ => True
  | abort _ => True
  | ask request next => allowed request ∧ ∀ reply, (next reply).Asks allowed

theorem Asks.mono {more : I.Request → Prop} {script : Script I α} (asks : script.Asks allowed)
    (wider : ∀ request, allowed request → more request) : script.Asks more := by
  induction script with
  | done value => exact True.intro
  | abort cause => exact True.intro
  | ask request next ih => exact ⟨wider request asks.1, fun reply => ih reply (asks.2 reply)⟩

theorem Asks.andThen {script : Script I α} {next : α → Script I β}
    (first : script.Asks allowed) (second : ∀ value, (next value).Asks allowed) :
    (script.andThen next).Asks allowed := by
  induction script with
  | done value => exact second value
  | abort cause => exact True.intro
  | ask request reply ih => exact ⟨first.1, fun answer => ih answer (first.2 answer)⟩

theorem Asks.onAbort {script : Script I α} {cleanup : Script I Unit}
    (asks : script.Asks allowed) (cleans : cleanup.Asks allowed) :
    (script.onAbort cleanup).Asks allowed := by
  induction script with
  | done value => exact True.intro
  | abort cause => exact cleans.andThen fun _ => True.intro
  | ask request next ih => exact ⟨asks.1, fun reply => ih reply (asks.2 reply)⟩

/-- A property of scripts that passes from the parts of a script to the whole, and that requests
of a kind have. -/
structure Compositional (allowed : I.Request → Prop) (fine : (α : Type) → Script I α → Prop) :
    Prop where
  done : ∀ {α : Type} (value : α), fine α (done value)
  ask : ∀ {α : Type} {request : I.Request} {next : I.Reply request → Script I α},
    allowed request → (∀ reply, fine α (next reply)) → fine α (ask request next)
  andThen : ∀ {α β : Type} {script : Script I α} {next : α → Script I β},
    fine α script → (∀ value, fine β (next value)) → fine β (script.andThen next)

theorem Compositional.mono {fewer : I.Request → Prop} {fine : (α : Type) → Script I α → Prop}
    (compositional : Compositional allowed fine)
    (narrower : ∀ request, fewer request → allowed request) : Compositional fewer fine where
  done := compositional.done
  ask isAllowed continues := compositional.ask (narrower _ isAllowed) continues
  andThen := compositional.andThen

theorem compositional_asks : Compositional allowed fun _ script => script.Asks allowed where
  done _ := True.intro
  ask isAllowed continues := ⟨isAllowed, continues⟩
  andThen first second := first.andThen second

/-- A condition that others keep, and that all requests of a kind keep, is assured by every
script that only makes requests of this kind. -/
theorem Asks.assures {surroundings : Surroundings I σ} {contract : Contract σ}
    {pre : σ → Prop} {script : Script I α} {state : σ} (asks : script.Asks allowed)
    (stable : contract.Keeps pre)
    (step : ∀ request, allowed request → ∀ chance state, pre state →
      contract.guarantee state (surroundings.answer chance request state).2 ∧
        pre (surroundings.answer chance request state).2)
    (holds : pre state) : script.Assures surroundings contract (fun _ => pre) state := by
  induction script generalizing state with
  | done value => exact holds
  | abort cause => exact holds
  | ask request next ih =>
      intro before change chance
      have stepped := step request asks.1 chance before (stable holds change)
      refine ⟨stepped.1, ?_⟩
      cases (surroundings.answer chance request before).1 with
      | ok reply => exact ih reply (asks.2 reply) stepped.2
      | error cause => exact stepped.2

end Shortlink.Script
