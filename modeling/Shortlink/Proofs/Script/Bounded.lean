import Shortlink.Proofs.Script.Interleaving

/-!
# Bounded scripts

A script that makes no more than so many requests, whatever is replied, is over after as many
turns of its own, whatever other calls do in between.
-/

namespace Shortlink

variable {ι σ α β : Type} {I : Interface}

namespace Script

/-- Whatever the replies are, a script makes no more than so many requests. -/
def Within : Script I α → Nat → Prop
  | done _, _ => True
  | abort _, _ => True
  | ask _ _, 0 => False
  | ask _ next, bound + 1 => ∀ reply, (next reply).Within bound

variable {script : Script I α} {bound : Nat}

theorem within_done (value : α) (bound : Nat) : (done value : Script I α).Within bound := True.intro

theorem within_abort (cause : Abort) (bound : Nat) : (abort cause : Script I α).Within bound :=
  True.intro

theorem isOver_of_within_zero (within : script.Within 0) : script.IsOver := by
  cases script with
  | done value => exact True.intro
  | abort cause => exact True.intro
  | ask request next => exact within

/-- A request less is left after each reply. -/
theorem Within.next {request : I.Request} {next : I.Reply request → Script I α}
    (within : (ask request next).Within bound) (reply : I.Reply request) :
    (next reply).Within (bound - 1) := by
  cases bound with
  | zero => exact within.elim
  | succ bound => exact within reply

/-- What is computed from the result of a script in the end takes no further request. -/
theorem Within.andThen_done (within : script.Within bound) (convert : α → β) :
    (script.andThen fun value => .done (convert value)).Within bound := by
  induction script generalizing bound with
  | done value => exact True.intro
  | abort cause => exact True.intro
  | ask request next ih =>
      cases bound with
      | zero => exact within
      | succ bound => exact fun reply => ih reply (within reply)

end Script

namespace Concurrent

variable [DecidableEq ι] {surroundings : Surroundings I σ} {calls : Concurrent ι I σ α}
  {call : ι} {bound : Nat}

/-- A call makes one of its requests in each of its turns, and none in the turns of others. -/
theorem within_take (within : (calls.rest call).Within bound) (turn : Turn ι surroundings) :
    ((calls.take turn).rest call).Within
      (if turn.caller? = some call then bound - 1 else bound) := by
  split
  case isFalse other =>
    have idle : (calls.play [turn]).rest call = calls.rest call :=
      rest_play_of_idle (by simpa using other)
    exact idle ▸ within
  case isTrue own =>
    cases turn with
    | disturb disturbance => contradiction
    | move caller chance =>
        cases own
        cases script : calls.rest call with
        | done value => simpa only [take, script] using Script.within_done value (bound - 1)
        | abort cause => simpa only [take, script] using Script.within_abort cause (bound - 1)
        | ask request next =>
            rw [script] at within
            simp only [take, script]
            split
            · simpa only [Function.update_self] using within.next _
            · simpa only [Function.update_self] using Script.within_abort _ (bound - 1)

/-- Each of its turns in a schedule leaves a call one request less. -/
theorem within_play (within : (calls.rest call).Within bound)
    (turns : List (Turn ι surroundings)) :
    ((calls.play turns).rest call).Within
      (bound - turns.countP (fun turn => turn.caller? = some call)) := by
  induction turns generalizing calls bound with
  | nil => exact within
  | cons turn turns ih =>
      have played := ih (within_take within turn)
      rw [List.countP_cons]
      split at played
      case isTrue own =>
        rw [if_pos (decide_eq_true own), Nat.add_comm, ← Nat.sub_sub]
        exact played
      case isFalse other =>
        rw [if_neg (by simpa using other)]
        exact played

/-- A bounded call is over once it has had its turns. -/
theorem isOver_play (within : (calls.rest call).Within bound)
    {turns : List (Turn ι surroundings)}
    (enough : bound ≤ turns.countP (fun turn => turn.caller? = some call)) :
    ((calls.play turns).rest call).IsOver := by
  have played := within_play within turns
  rw [Nat.sub_eq_zero_of_le enough] at played
  exact Script.isOver_of_within_zero played

end Concurrent

end Shortlink
