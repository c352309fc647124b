import Shortlink.Link.Service
import Shortlink.Outbox.Dispatch
import Shortlink.Proofs.Calls.Shared

/-!
# Calls

The operations that callers can begin over one store and one cache, each with the way in
which it ends. Most of what a call asks for leaves the store and the cache alone, and is
settled by one rule.
-/

namespace Shortlink

/-- An operation that a caller begins. -/
inductive Call where
  | create (service : LinkService) (request : ShortenRequest)
  | remove (code : String)
  | requeue (id : Uuid)

/-- How a call or a dispatch run has ended. -/
inductive Ending where
  | created (result : Except Failure Link)
  | removed (result : Except Failure Unit)
  | requeued (result : Except Failure Bool)
  | dispatched (result : Except Failure DispatchReport)

/-- What a call does. -/
def Call.program : Call → Program Ending
  | .create service request => (service.create request).attempt.andThen fun result =>
    pure (.created result)
  | .remove code => (LinkService.remove code).attempt.andThen fun result =>
    pure (.removed result)
  | .requeue id => (ask (.requeue id)).andThen fun result => pure (.requeued result)

/-- A dispatch run beside such calls. -/
def Dispatcher.run (dispatcher : Dispatcher) : Program Ending :=
  dispatcher.runOnce.attempt.andThen fun result => pure (.dispatched result)

/-- A request is quiet if it leaves the store and the cache as they are. -/
def Effect.IsQuiet (request : Effect) : Prop :=
  ∀ chance shared, ∃ reply : request.Reply,
    Shared.answer chance request shared = (.ok reply, shared.later chance.elapsed)

namespace Effect

theorem now_isQuiet : now.IsQuiet := fun _ _ => ⟨_, rfl⟩
theorem newId_isQuiet : newId.IsQuiet := fun _ _ => ⟨_, rfl⟩

theorem codeExists_isQuiet (code : String) : (codeExists code).IsQuiet := fun _ _ => ⟨_, rfl⟩

end Effect

/-- The course of calls over one store and one cache. -/
abbrev SharedCourse (ι : Type) := Course ι Effect.interface Shared

/-- The exchange of a call that makes a request now. -/
def Course.exchange {ι : Type} (course : SharedCourse ι) (call : ι) (request : Effect)
    (chance : Chance) : Exchange ι Effect.interface Shared :=
  ⟨call, request, (Shared.answer chance request course.state).1, course.state,
    (Shared.answer chance request course.state).2⟩

namespace Script.Assures

variable {ι α : Type} {call : ι} {request : Effect} {next : request.Reply → Program α}
  {course : SharedCourse ι} {contract : Contract (SharedCourse ι)}
  {pre : SharedCourse ι → Prop} {post : Except Abort α → SharedCourse ι → Prop}

/-- The rule of requests: a condition that others keep still holds when the call makes its
request. -/
theorem ask (stable : contract.Keeps pre) (holds : pre course)
    (step : ∀ course chance, pre course →
      contract.guarantee course (course.extend (course.exchange call request chance)) ∧
        match (Shared.answer chance request course.state).1 with
        | .ok reply =>
          (next reply).Assures (Shared.surroundings.recorded call) contract post
            (course.extend (course.exchange call request chance))
        | .error cause =>
          post (.error cause) (course.extend (course.exchange call request chance))) :
    Assures (I := Effect.interface) (Shared.surroundings.recorded call) contract post
      (.ask request next) course := by
  intro before change chance
  have stepped := step before chance (stable holds change)
  refine ⟨stepped.1, ?_⟩
  cases answered : (Shared.answer chance request before.state).1 with
  | ok reply =>
      have recorded : ((Shared.surroundings.recorded call).answer chance request before).1 =
          .ok reply := answered
      rw [answered] at stepped
      rw [recorded]
      exact stepped.2
  | error cause =>
      have recorded : ((Shared.surroundings.recorded call).answer chance request before).1 =
          .error cause := answered
      rw [answered] at stepped
      rw [recorded]
      exact stepped.2

/-- The rule of quiet requests: a condition that others keep and that does not depend on
what has been asked survives them. -/
theorem quiet (isQuiet : request.IsQuiet) (stable : contract.Keeps pre)
    (passes : ∀ course exchange, pre course → exchange.call = call →
      exchange.before = course.state → exchange.after.store = course.state.store →
      contract.guarantee course (course.extend exchange) ∧ pre (course.extend exchange))
    (holds : pre course)
    (continues : ∀ reply course, pre course →
      (next reply).Assures (Shared.surroundings.recorded call) contract post course) :
    Assures (I := Effect.interface) (Shared.surroundings.recorded call) contract post
      (.ask request next) course := by
  refine ask stable holds ?_
  intro course chance holds
  obtain ⟨reply, answered⟩ := isQuiet chance course.state
  have sameStore : (course.exchange call request chance).after.store = course.state.store := by
    rw [Course.exchange, answered]
    rfl
  have passed := passes course _ holds rfl rfl sameStore
  refine ⟨passed.1, ?_⟩
  rw [answered]
  exact continues reply _ passed.2

end Script.Assures

end Shortlink
