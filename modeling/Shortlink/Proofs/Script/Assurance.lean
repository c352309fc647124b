import Mathlib.Logic.Basic
import Shortlink.Effect

/-!
# What a script assures

A script shares its state with others that change it between its requests. What the script
may rely on about these changes, and what it guarantees about its own, are relations
between states. A script assures a condition on its end if the condition holds however the
others behave within the first relation, and each of its own requests stays within the
second.
-/

namespace Shortlink

/-- How requests are answered over states of type `σ`, and how these change without any
request. What the state leaves open is decided by chance. -/
structure Surroundings (I : Interface) (σ : Type) where
  Chance : Type
  answer : Chance → (request : I.Request) → σ → Except Abort (I.Reply request) × σ
  Disturbance : Type
  disturb : Disturbance → σ → σ

namespace Script

variable {I : Interface} {σ α β : Type}

/-- The conditions between which a script assures its end. -/
structure Contract (σ : Type) where
  /-- The changes that others make between two requests. -/
  rely : σ → σ → Prop
  /-- The changes that the script makes with a request. -/
  guarantee : σ → σ → Prop
  rely_refl : ∀ state, rely state state
  rely_trans : ∀ {first second third}, rely first second → rely second third →
    rely first third

/-- The script assures the condition `post` on its end when it goes on from a state. -/
def Assures (surroundings : Surroundings I σ) (contract : Contract σ)
    (post : Except Abort α → σ → Prop) : Script I α → σ → Prop
  | done value, state => post (.ok value) state
  | abort cause, state => post (.error cause) state
  | ask request next, state =>
    ∀ before, contract.rely state before → ∀ chance,
      contract.guarantee before (surroundings.answer chance request before).2 ∧
        match (surroundings.answer chance request before).1 with
        | .ok reply =>
          (next reply).Assures surroundings contract post
            (surroundings.answer chance request before).2
        | .error cause => post (.error cause) (surroundings.answer chance request before).2

variable {surroundings : Surroundings I σ} {contract : Contract σ}
variable {post : Except Abort α → σ → Prop}

/-- Others keep a condition. -/
def Contract.Keeps (contract : Contract σ) (condition : σ → Prop) : Prop :=
  ∀ {state other}, condition state → contract.rely state other → condition other

/-- Changes by others do not take an assurance away. -/
theorem Assures.mono_rely {script : Script I α} {state other : σ}
    (stable : ∀ result, contract.Keeps (post result))
    (assured : script.Assures surroundings contract post state)
    (change : contract.rely state other) :
    script.Assures surroundings contract post other := by
  cases script with
  | done value => exact stable _ assured change
  | abort cause => exact stable _ assured change
  | ask request next =>
      intro before later chance
      exact assured before (contract.rely_trans change later) chance

theorem Assures.imp {post' : Except Abort α → σ → Prop} {script : Script I α} {state : σ}
    (assured : script.Assures surroundings contract post state)
    (weaker : ∀ result state, post result state → post' result state) :
    script.Assures surroundings contract post' state := by
  induction script generalizing state with
  | done value => exact weaker _ _ assured
  | abort cause => exact weaker _ _ assured
  | ask request next ih =>
      intro before change chance
      have step := assured before change chance
      refine ⟨step.1, ?_⟩
      revert step
      cases (surroundings.answer chance request before).1 with
      | ok reply => exact fun step => ih reply step.2
      | error cause => exact fun step => weaker _ _ step.2

/-- The rule of composition: the condition between two scripts is the one that the first
assures and from which the second goes on. -/
theorem Assures.andThen {post' : Except Abort β → σ → Prop} {script : Script I α}
    {next : α → Script I β} {state : σ}
    (first : script.Assures surroundings contract post state)
    (second : ∀ value state, post (.ok value) state →
      (next value).Assures surroundings contract post' state)
    (broken : ∀ cause state, post (.error cause) state → post' (.error cause) state) :
    (script.andThen next).Assures surroundings contract post' state := by
  induction script generalizing state with
  | done value => exact second value state first
  | abort cause => exact broken cause state first
  | ask request reply ih =>
      intro before change chance
      have step := first before change chance
      refine ⟨step.1, ?_⟩
      revert step
      cases (surroundings.answer chance request before).1 with
      | ok answer => exact fun step => ih answer step.2
      | error cause => exact fun step => broken _ _ step.2

/-- The rule of frames: a condition that neither others nor the script's own requests break
still holds at its end. -/
theorem Assures.frame {frame : σ → Prop} {script : Script I α} {state : σ}
    (assured : script.Assures surroundings contract post state) (relied : contract.Keeps frame)
    (guaranteed : ∀ {state other}, frame state → contract.guarantee state other → frame other)
    (holds : frame state) :
    script.Assures surroundings contract (fun result state => post result state ∧ frame state)
      state := by
  induction script generalizing state with
  | done value => exact ⟨assured, holds⟩
  | abort cause => exact ⟨assured, holds⟩
  | ask request next ih =>
      intro before change chance
      have step := assured before change chance
      have framed := guaranteed (relied holds change) step.1
      refine ⟨step.1, ?_⟩
      revert step
      cases (surroundings.answer chance request before).1 with
      | ok answer => exact fun step => ih answer step.2 framed
      | error cause => exact fun step => ⟨step.2, framed⟩

/-- The rule of cleaning up: where a script breaks off, the cleanup has to assure whatever is
promised of broken-off scripts. Where a request itself breaks off there is no cleanup. -/
theorem Assures.onAbort {post' : Except Abort α → σ → Prop} {script : Script I α}
    {cleanup : Script I Unit} {state : σ}
    (assured : script.Assures surroundings contract post state)
    (ends : ∀ value state, post (.ok value) state → post' (.ok value) state)
    (breaks : ∀ cause state, post (.error cause) state → post' (.error cause) state)
    (cleans : ∀ cause state, post (.error cause) state →
      cleanup.Assures surroundings contract (fun _ state => ∀ cause, post' (.error cause) state)
        state) :
    (script.onAbort cleanup).Assures surroundings contract post' state := by
  induction script generalizing state with
  | done value => exact ends value state assured
  | abort cause =>
      apply (cleans cause state assured).andThen
      · exact fun _ _ promised => promised cause
      · exact fun cause _ promised => promised cause
  | ask request next ih =>
      intro before change chance
      have step := assured before change chance
      refine ⟨step.1, ?_⟩
      revert step
      cases (surroundings.answer chance request before).1 with
      | ok answer => exact fun step => ih answer step.2
      | error cause => exact fun step => breaks _ _ step.2

end Script

end Shortlink
