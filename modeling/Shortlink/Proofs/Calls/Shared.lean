import Shortlink.Proofs.Script.Interleaving
import Shortlink.Rehearsal.World

/-!
# What calls share

The store and the cache that all calls share, and how requests are answered over them. The
clock, random ids, cancellation and external consumers are left to chance, so a statement
about all chances is one about every clock, every draw and every consumer.

Rehearsals are a special case: without staged faults, what a rehearsed world answers is what
the shared state answers by some chance.
-/

namespace Shortlink

open Time (Moment)

/-- What a request meets with that the store and the cache do not decide. -/
structure Chance where
  /-- The nanoseconds that have passed since the request before. -/
  elapsed : Nat
  now : Moment
  id : Uuid
  isCancelled : Bool
  consultation : Consultation

/-- What all calls share. -/
structure Shared where
  store : Store
  /-- The cache, unless caching is disabled. -/
  cache : Option Cache.Memory
  /-- The time of the cache in nanoseconds. -/
  ticks : Nat

namespace Shared

/-- A request to the store. -/
def onStore {α : Type} (shared : Shared) (act : Store → α × Store) :
    Except Abort α × Shared :=
  let (reply, store) := act shared.store
  (.ok reply, { shared with store := store })

/-- A question, which leaves everything as it is. -/
def query {α : Type} (shared : Shared) (reply : α) : Except Abort α × Shared :=
  (.ok reply, shared)

/-- A request to the cache. -/
def onCache {α : Type} (shared : Shared) (disabled : α)
    (act : Cache.Memory → Except Abort α × Cache.Memory) :
    Except Abort (Except CacheError α) × Shared :=
  match shared.cache with
  | none => (.ok (.ok disabled), shared)
  | some cache =>
    let (reply, cache) := act cache
    (reply.map .ok, { shared with cache := some cache })

@[simp] theorem onCache_store {α : Type} (shared : Shared) (disabled : α)
    (act : Cache.Memory → Except Abort α × Cache.Memory) :
    (shared.onCache disabled act).2.store = shared.store := by
  unfold onCache
  cases shared.cache with
  | none => rfl
  | some cache => rfl

/-- The state when some time has passed. -/
def later (shared : Shared) (elapsed : Nat) : Shared :=
  { shared with ticks := shared.ticks + elapsed }

/-- The answer to a request that is made now. -/
def reply (chance : Chance) (request : Effect) (shared : Shared) :
    Except Abort request.Reply × Shared :=
  match request with
  | .now => shared.query chance.now
  | .newId => shared.query chance.id
  | .sleep _ => shared.query ()
  | .isCancelled => shared.query chance.isCancelled
  | .codeExists code => shared.query (.ok (shared.store.hasCode code))
  | .addLink link => shared.onStore (·.add link chance.now)
  | .updateLink link change => shared.onStore (·.update link change chance.now)
  | .findByCode code => shared.query (.ok (shared.store.findByCode code))
  | .listLinks offset limit => shared.query (.ok (shared.store.list offset limit))
  | .tryLease => shared.onStore fun store => (.ok store.tryLease.1, store.tryLease.2)
  | .releaseLease _ => shared.onStore fun store => (.ok (), store.release)
  | .dropLease _ => shared.onStore fun store => ((), store.release)
  | .fetchMessages limit => shared.query (.ok (shared.store.fetch limit))
  | .saveProcessed messages =>
    shared.onStore fun store => (.ok (), store.saveProcessed messages)
  | .outboxStats => shared.query (.ok shared.store.stats)
  | .requeue id => shared.onStore fun store => (.ok (store.requeue id).1, (store.requeue id).2)
  | .isConsumed marker => shared.query (.ok (shared.store.isConsumed marker))
  | .markConsumed marker => shared.onStore fun store => (.ok (), store.markConsumed marker)
  | .cacheGet key => shared.onCache none fun cache => (.ok (cache.get? shared.ticks key), cache)
  | .cacheSet key value ttl => shared.onCache () (·.set shared.ticks key value ttl)
  | .cacheRemove key => shared.onCache () fun cache => (.ok (), cache.erase key)
  | .cacheRemoveAll stem =>
    shared.onCache 0 fun cache =>
      (.ok (cache.eraseAll shared.ticks stem).1, (cache.eraseAll shared.ticks stem).2)
  | .cacheHealthy => shared.query true
  | .consult _ _ => shared.query chance.consultation

/-- The answer to a request, by chance some time after the one before. -/
def answer (chance : Chance) (request : Effect) (shared : Shared) :
    Except Abort request.Reply × Shared :=
  (shared.later chance.elapsed).reply chance request

/-- Makes the next saves fail when they commit. -/
def failSaves (count : Nat) (shared : Shared) : Shared :=
  { shared with store := { shared.store with failingSaves := count } }

/-- The surroundings of calls; at any time the next saves can be made to fail. -/
def surroundings : Surroundings Effect.interface Shared where
  Chance := Chance
  answer := answer
  Disturbance := Nat
  disturb := failSaves

end Shared

namespace Rehearsal.World

/-- What calls share in a rehearsed world. -/
def shared (world : World) : Shared := ⟨world.store, world.cache, world.ticks⟩

/-- The chance that a world stands for at its next request. -/
def chance (world : World) (request : Effect) : Chance where
  elapsed := 1000
  now := world.tick.clock
  id := world.tick.drawId.1
  isCancelled := world.isCancelled
  consultation :=
    match request with
    | .consult consumer event => (world.tick.consult consumer event).1
    | _ => ⟨0, .ok ()⟩

/-- External consumers do not touch what calls share, nor the staged faults. -/
theorem consult_shared (world : World) (consumer : String) (event : Event) :
    (world.consult consumer event).2.shared = world.shared ∧
      (world.consult consumer event).2.plan = world.plan := by
  simp only [consult]
  cases world.actors.find? _ with
  | none => exact ⟨rfl, rfl⟩
  | some actor => exact ⟨rfl, rfl⟩

/-- Without staged faults a rehearsed world answers as the shared state does. -/
theorem answer_shared (world : World) (unstaged : world.plan = []) (request : Effect) :
    world.shared.answer (world.chance request) request =
        ((world.answer request).1, (world.answer request).2.shared) ∧
      (world.answer request).2.plan = [] := by
  rcases world with ⟨clock, ticks, slept, seed, isCancelled, store, cache, plan, actors, calls⟩
  subst unstaged
  cases request with
  | consult consumer event =>
      have untouched := consult_shared (tick ⟨clock, ticks, slept, seed, isCancelled, store,
        cache, [], actors, calls⟩) consumer event
      exact ⟨Prod.ext rfl untouched.1.symm, untouched.2⟩
  | cacheGet key | cacheSet key value ttl | cacheRemove key | cacheRemoveAll stem =>
      cases cache <;> exact ⟨rfl, rfl⟩
  | _ => exact ⟨rfl, rfl⟩

end Rehearsal.World

end Shortlink
