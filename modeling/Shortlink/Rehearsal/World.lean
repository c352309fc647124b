import Shortlink.Cache.Memory
import Shortlink.Number.Bounds
import Shortlink.Rehearsal.Fault
import Shortlink.Store.Tables

/-!
# The world of a rehearsal

Surroundings in which the service can be run without any other program: the store and the
cache in memory, a clock that moves on with every request, random numbers from a seed,
staged faults, and external consumers that follow a script and are written down. Sleeping
takes no time but is counted.
-/

namespace Shortlink.Rehearsal

open Time (Moment)

/-- How a scripted consumer ends one of its calls. -/
structure Reaction where
  failure : Option Failure
  /-- The current run is cancelled as well. -/
  cancels : Bool

/-- An external consumer that follows a script. -/
structure Actor where
  eventType : String
  name : String
  /-- How many milliseconds a call takes. -/
  duration : Nat
  /-- The ends of its calls in order; the last one is repeated. -/
  reactions : List Reaction
  /-- The number of calls so far. -/
  made : Nat := 0

/-- A call of a scripted consumer. -/
structure Call where
  consumer : String
  eventType : String
  eventId : Uuid
  /-- The milliseconds that had been slept before. -/
  slept : Nat

/-- The call as JSON. -/
def Call.toJson (call : Call) : Json :=
  .list [.text call.consumer, .text call.eventType, .text call.eventId.toString,
    .int call.slept]

/-- The surroundings of a rehearsal. -/
structure World where
  clock : Moment
  /-- The time of the cache in nanoseconds. -/
  ticks : Nat
  /-- The milliseconds slept so far. -/
  slept : Nat := 0
  seed : Nat
  isCancelled : Bool := false
  store : Store := {}
  /-- The cache, unless caching is disabled. -/
  cache : Option Cache.Memory
  plan : Plan := []
  actors : List Actor := []
  /-- The calls of scripted consumers, the latest first. -/
  calls : List Call := []

/-- The moment at which rehearsals begin. -/
def openingTime : Moment where
  date := ⟨2026, 6, 15, by decide, by decide, by decide⟩
  hour := 9
  minute := 30
  second := 0
  nanos := 271828000
  hour_lt := by decide
  minute_lt := by decide
  second_le := by decide
  nanos_lt := by decide

namespace World

/-- The world at the beginning of a rehearsal. -/
def opening (cache : Option Cache.Memory) : World :=
  { clock := openingTime, ticks := 86400 * 1000000000, seed := 7, cache := cache }

/-! ## Time and chance -/

/-- Scrambles a 64-bit number. -/
def scramble (n : Nat) : Nat :=
  let n := (n ^^^ (n >>> 30)) * 0xBF58476D1CE4E5B9 &&& Number.maxWord64
  let n := (n ^^^ (n >>> 27)) * 0x94D049BB133111EB &&& Number.maxWord64
  n ^^^ (n >>> 31)

/-- The next seed. -/
def nextSeed (seed : Nat) : Nat := (seed + 0x9E3779B97F4A7C15) &&& Number.maxWord64

/-- A random id. -/
def drawId (world : World) : Uuid × World :=
  let first := nextSeed world.seed
  let second := nextSeed first
  (.ofRandom (BitVec.ofNat 128 ((scramble first <<< 64) + scramble second)),
    { world with seed := second })

/-- The world a moment later. -/
def tick (world : World) : World :=
  { world with clock := world.clock.plusNanos 1000, ticks := world.ticks + 1000 }

/-- The next staged outcome for a target. -/
def nextOutcome (world : World) (target : Target) : Outcome × World :=
  let (outcome, plan) := world.plan.next target
  (outcome, { world with plan := plan })

/-! ## The store -/

/-- A request to the store, unless it is staged to fail. -/
def withStore {α : Type} (world : World) (target : Target)
    (act : Store → Except Failure α × Store) : Except Failure α × World :=
  match world.nextOutcome target with
  | (.fail failure, world) => (.error failure, world)
  | (_, world) =>
    let (result, store) := act world.store
    (result, { world with store := store })

/-- A save of a URL, unless it is staged to fail, which leaves the URL as it is. -/
def save (world : World) (target : Target) (link : Link)
    (act : Store → SaveOutcome × Store) : SaveOutcome × World :=
  match world.nextOutcome target with
  | (.fail failure, world) => (⟨.error failure, link⟩, world)
  | (_, world) =>
    let (outcome, store) := act world.store
    (outcome, { world with store := store })

/-- A question to the store, unless it is staged to fail. -/
def query {α : Type} (world : World) (target : Target) (read : Store → α) :
    Except Failure α × World :=
  world.withStore target fun store => (.ok (read store), store)

/-- Whether a row has a code; the answer may be staged. -/
def codeExists (world : World) (code : String) : Except Failure Bool × World :=
  match world.nextOutcome .codeExists with
  | (.fail failure, world) => (.error failure, world)
  | (.say answer, world) => (.ok answer, world)
  | (_, world) => (.ok (world.store.hasCode code), world)

/-- Gives back the right to dispatch. It is free also where that is staged to fail. -/
def releaseLease (world : World) : Except Failure Unit × World :=
  let (outcome, world) := world.nextOutcome .release
  let world := { world with store := world.store.release }
  match outcome with
  | .fail failure => (.error failure, world)
  | _ => (.ok (), world)

/-! ## The cache -/

/-- A request to the cache, unless it is staged to fail. -/
def withCache {α : Type} (world : World) (target : Target) (disabled : α)
    (act : Cache.Memory → Except Abort α × Cache.Memory) :
    Except Abort (Except CacheError α) × World :=
  match world.nextOutcome target with
  | (.failCache error, world) => (.ok (.error error), world)
  | (_, world) =>
    match world.cache with
    | none => (.ok (.ok disabled), world)
    | some cache =>
      let (result, cache) := act cache
      (result.map .ok, { world with cache := some cache })

/-! ## Consumers -/

/-- The reaction of a consumer to its next call. -/
def Actor.react (actor : Actor) : Reaction :=
  (actor.reactions[actor.made]?).getD (actor.reactions.getLastD ⟨none, false⟩)

/-- Calls a scripted consumer. A consumer without a script just succeeds. -/
def consult (world : World) (consumer : String) (event : Event) : Consultation × World :=
  let isCalled (actor : Actor) := actor.eventType == event.typeName && actor.name == consumer
  match world.actors.find? isCalled with
  | none => (⟨0, .ok ()⟩, world)
  | some actor =>
    let reaction := Actor.react actor
    (⟨actor.duration, reaction.failure.elim (.ok ()) .error⟩,
      { world with
        actors := world.actors.map fun actor =>
          if isCalled actor then { actor with made := actor.made + 1 } else actor
        calls := ⟨consumer, event.typeName, event.id, world.slept⟩ :: world.calls
        isCancelled := world.isCancelled || reaction.cancels })

/-! ## Answers -/

/-- Answers a request. -/
def answer (request : Effect) (world : World) : Except Abort request.Reply × World :=
  let world := world.tick
  match request with
  | .now => (.ok world.clock, world)
  | .newId =>
    let (id, world) := world.drawId
    (.ok id, world)
  | .sleep duration => (.ok (), { world with slept := world.slept + duration })
  | .isCancelled => (.ok world.isCancelled, world)
  | .codeExists code =>
    let (result, world) := world.codeExists code
    (.ok result, world)
  | .addLink link =>
    let (outcome, world) := world.save .add link (·.add link world.clock)
    (.ok outcome, world)
  | .updateLink link change =>
    let (outcome, world) := world.save .update link (·.update link change world.clock)
    (.ok outcome, world)
  | .findByCode code =>
    let (result, world) := world.query .findByCode (·.findByCode code)
    (.ok result, world)
  | .listLinks offset limit =>
    let (result, world) := world.query .list (·.list offset limit)
    (.ok result, world)
  | .tryLease =>
    let (result, world) := world.withStore .lease fun store =>
      let (lease, store) := store.tryLease
      (.ok lease, store)
    (.ok result, world)
  | .releaseLease _ =>
    let (result, world) := world.releaseLease
    (.ok result, world)
  | .dropLease _ => (.ok (), { world with store := world.store.release })
  | .fetchMessages limit =>
    let (result, world) := world.query .fetch (·.fetch limit)
    (.ok result, world)
  | .saveProcessed messages =>
    let (result, world) := world.withStore .saveProcessed fun store =>
      (.ok (), store.saveProcessed messages)
    (.ok result, world)
  | .outboxStats =>
    let (result, world) := world.query .stats Store.stats
    (.ok result, world)
  | .requeue id =>
    let (result, world) := world.withStore .requeue fun store =>
      let (isFound, store) := store.requeue id
      (.ok isFound, store)
    (.ok result, world)
  | .isConsumed marker =>
    let (result, world) := world.query .isConsumed (·.isConsumed marker)
    (.ok result, world)
  | .markConsumed marker =>
    let (result, world) := world.withStore .markConsumed fun store =>
      (.ok (), store.markConsumed marker)
    (.ok result, world)
  | .cacheGet key =>
    world.withCache .cacheGet none fun cache => (.ok (cache.get? world.ticks key), cache)
  | .cacheSet key value ttl =>
    world.withCache .cacheSet () (·.set world.ticks key value ttl)
  | .cacheRemove key =>
    world.withCache .cacheRemove () fun cache => (.ok (), cache.erase key)
  | .cacheRemoveAll stem =>
    world.withCache .cacheRemoveAll 0 fun cache =>
      let (count, cache) := cache.eraseAll world.ticks stem
      (.ok count, cache)
  | .cacheHealthy =>
    match world.nextOutcome .cacheHealthy with
    | (.failCache _, world) => (.ok false, world)
    | (_, world) => (.ok true, world)
  | .consult consumer event =>
    let (consultation, world) := world.consult consumer event
    (.ok consultation, world)

/-! ## Running -/

/-- The world after a program that broke off: if it took the right to dispatch, it gave it
up. -/
def abandon (world : World) (wasLeased : Bool) : World :=
  { world with store := { world.store with isLeased := wasLeased } }

/-- The end of a program that was started while the right to dispatch was taken or not. -/
def conclude {α : Type} (wasLeased : Bool) :
    Except Abort α × World → Except Abort α × World
  | (.ok value, after) => (.ok value, after)
  | (.error cause, after) => (.error cause, after.abandon wasLeased)

/-- Runs a program. One that breaks off gives up the right to dispatch if it took it. -/
def perform {α : Type} (world : World) (program : Program α) : Except Abort α × World :=
  conclude world.store.isLeased (program.run answer world)

/-- Runs a program until it sleeps. The result is its end, or what it sleeps for and what
it does afterwards. A sleep of no time at all is no sleep. -/
def performUntilSleep {α : Type} (world : World) :
    Program α → (Except Abort α ⊕ Nat × Program α) × World
  | .done value => (.inl (.ok value), world)
  | .abort cause => (.inl (.error cause), world)
  | .ask (.sleep (duration + 1)) next => (.inr (duration + 1, next ()), world)
  | .ask request next =>
    match answer request world with
    | (.ok reply, world) => world.performUntilSleep (next reply)
    | (.error cause, world) => (.inl (.error cause), world)

/-- Runs two programs side by side: the first until it sleeps, then the second to its end,
then the rest of the first. -/
def performPair {α β : Type} (world : World) (first : Program α) (second : Program β) :
    (Except Abort α × Except Abort β) × World :=
  let wasLeased := world.store.isLeased
  match world.performUntilSleep first with
  | (.inl result, between) =>
    let (result, between) := conclude wasLeased (result, between)
    let (other, after) := between.perform second
    ((result, other), after)
  | (.inr (duration, rest), between) =>
    let (other, after) := between.perform second
    let awake := { after with slept := max after.slept (between.slept + duration) }
    let (result, after) := conclude wasLeased (rest.run answer awake)
    ((result, other), after)

end World

end Shortlink.Rehearsal
