import Shortlink.Link.Service
import Shortlink.Proofs.Calls.Shared
import Shortlink.Proofs.Outbox.Invalidation
import Shortlink.Proofs.Script.Alone

/-!
# Operations one after another

Everything that can be done with the service, a dispatch run and the passing of time included,
where each operation begins after the one before has ended. Cancellation of a run is left to
chance, as the clock and the draws are.
-/

namespace Shortlink

/-- The chances of the requests of an operation, in order. -/
abbrev Chances := Nat → Chance

/-- The end of a program that nothing interrupts, and what it leaves. -/
def Shared.perform {α : Type} (shared : Shared) (chances : Chances) (program : Program α) :
    Except Abort α × Shared :=
  surroundings.perform chances program shared

/-- An operation of the service. -/
inductive Operation where
  | create (service : LinkService) (request : ShortenRequest)
  | resolve (service : LinkService) (code : String)
  | list (service : LinkService) (page size : Int)
  | remove (code : String)
  | dispatch (settings : DispatchSettings)
  | requeue (id : Uuid)
  /-- So many nanoseconds pass. -/
  | wait (duration : Nat)

namespace Operation

/-- What an operation leaves. Events are dispatched to the bus of the service. -/
def perform (chances : Chances) (shared : Shared) : Operation → Shared
  | create service request => (shared.perform chances (service.create request).attempt).2
  | resolve service code => (shared.perform chances (service.resolve code).attempt).2
  | list service page size => (shared.perform chances (service.list page size).attempt).2
  | remove code => (shared.perform chances (LinkService.remove code).attempt).2
  | dispatch settings =>
    (shared.perform chances (Dispatcher.standard settings).runOnce.attempt).2
  | requeue id => (shared.perform chances (ask (.requeue id))).2
  | wait duration => shared.later duration

/-- What operations leave one after another. -/
def performAll (shared : Shared) (operations : List (Operation × Chances)) : Shared :=
  operations.foldl (fun shared (operation, chances) => operation.perform chances shared) shared

/-- What a condition needs to be kept by all operations. -/
theorem performAll_keeps {condition : Shared → Prop}
    (keeps : ∀ operation chances shared, condition shared →
      condition (perform chances shared operation))
    {shared : Shared} (holds : condition shared) (operations : List (Operation × Chances)) :
    condition (performAll shared operations) := by
  induction operations generalizing shared with
  | nil => exact holds
  | cons next rest ih => exact ih (keeps next.1 next.2 shared holds)

end Operation

end Shortlink
