import Shortlink.Cache.Error
import Shortlink.Failure
import Shortlink.Link.Save
import Shortlink.Script

/-!
# Effects

Everything that the service asks of its surroundings: the clock, random ids, the store, the
cache, and consumers of events outside the library. The service's operations are scripts
over these requests, so they say in which order they ask for what, and nothing of how it is
done.
-/

namespace Shortlink

open Time (Moment)

/-- The right to dispatch the outbox, which one dispatcher at a time can hold. -/
structure Lease where
  token : Nat
  deriving DecidableEq, Repr

/-- How an external consumer handles an event: how long it takes, in milliseconds, and how
it ends. -/
structure Consultation where
  duration : Nat
  outcome : Except Failure Unit

/-- What the service asks of its surroundings. -/
inductive Effect where
  | now
  | newId
  /-- To wait for so many milliseconds. -/
  | sleep (duration : Nat)
  /-- Whether the current run is to stop. -/
  | isCancelled
  /-- Whether a row has this code, active or not. -/
  | codeExists (code : String)
  /-- To store a new URL together with its pending events. The reply has the URL after the
  save. -/
  | addLink (link : Link)
  /-- To store the new state of a URL together with its pending events. The reply has the URL
  after the save. -/
  | updateLink (link : Link) (change : Change)
  /-- The active URL with this code. -/
  | findByCode (code : String)
  /-- Active URLs, the newest first, without the first `offset` ones and at most `limit`. -/
  | listLinks (offset limit : Int)
  | tryLease
  | releaseLease (lease : Lease)
  /-- To give up the right to dispatch without a release. -/
  | dropLease (lease : Lease)
  /-- The oldest messages that have not been processed, at most `limit`. -/
  | fetchMessages (limit : Int)
  /-- To store the outcome of these messages, all or none. -/
  | saveProcessed (messages : List Message)
  | outboxStats
  /-- To have a message processed again. The reply tells whether there is such a message. -/
  | requeue (id : Uuid)
  /-- Whether a consumer has handled an event. -/
  | isConsumed (marker : Marker)
  | markConsumed (marker : Marker)
  | cacheGet (key : String)
  /-- To cache a value for so many seconds, or for the cache's own time. -/
  | cacheSet (key value : String) (ttl : Option Nat)
  | cacheRemove (key : String)
  /-- To drop all entries whose keys start with `stem`. The reply is their number. -/
  | cacheRemoveAll (stem : String)
  | cacheHealthy
  /-- To have an external consumer handle an event. -/
  | consult (consumer : String) (event : Event)

namespace Effect

/-- The type of the reply to a request. -/
abbrev Reply : Effect → Type
  | now => Moment
  | newId => Uuid
  | sleep _ => Unit
  | isCancelled => Bool
  | codeExists _ => Except Failure Bool
  | addLink _ => SaveOutcome
  | updateLink _ _ => SaveOutcome
  | findByCode _ => Except Failure (Option Link)
  | listLinks _ _ => Except Failure (List Link)
  | tryLease => Except Failure (Option Lease)
  | releaseLease _ => Except Failure Unit
  | dropLease _ => Unit
  | fetchMessages _ => Except Failure (List Message)
  | saveProcessed _ => Except Failure Unit
  | outboxStats => Except Failure OutboxStats
  | requeue _ => Except Failure Bool
  | isConsumed _ => Except Failure Bool
  | markConsumed _ => Except Failure Unit
  | cacheGet _ => Except CacheError (Option String)
  | cacheSet _ _ _ => Except CacheError Unit
  | cacheRemove _ => Except CacheError Unit
  | cacheRemoveAll _ => Except CacheError Nat
  | cacheHealthy => Bool
  | consult _ _ => Consultation

/-- The interface of the service to its surroundings. -/
abbrev interface : Interface := ⟨Effect, Reply⟩

end Effect

/-- A computation of the service. -/
abbrev Program := Script Effect.interface

/-- A computation of the service that may end in a failure. -/
abbrev Action := ExceptT Failure Program

/-- Makes a request. -/
def ask (request : Effect) : Program request.Reply := Script.request (I := Effect.interface) request

namespace Action

/-- A computation that may end in a failure, as one that says how it ended. -/
def attempt {α : Type} (action : Action α) : Program (Except Failure α) := action.run

/-- A computation that says how it ended, as one that may end in a failure. -/
def ofProgram {α : Type} (program : Program (Except Failure α)) : Action α := ExceptT.mk program

/-- Makes a request that may fail with an error of the cache. -/
def orFail {α : Type} (toFailure : CacheError → Failure)
    (program : Program (Except CacheError α)) : Action α :=
  ExceptT.mk do
    match ← program with
    | .ok value => pure (.ok value)
    | .error error => pure (.error (toFailure error))

end Action

end Shortlink
