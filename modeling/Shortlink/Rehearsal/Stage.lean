import Shortlink.Rehearsal.CacheServer
import Shortlink.Rehearsal.Database

/-!
# Stages

The surroundings of a rehearsal: a world whose store and cache are in memory, or one with a
scripted database or a scripted cache server in their place.
-/

namespace Shortlink.Rehearsal

/-- What stands in the place of the world's own store and cache. -/
inductive Backend where
  | memory
  | database (database : Database)
  /-- A cache server, with the time to live where none is asked for. -/
  | cacheServer (defaultTtl : Nat) (server : CacheServer)

/-- The surroundings of a rehearsal. -/
structure Stage where
  world : World
  backend : Backend

namespace Stage

/-- The stage with another backend. -/
def withBackend (stage : Stage) (backend : Backend) : Stage := { stage with backend := backend }

/-- The stage without a cache. -/
def withoutCache (stage : Stage) : Stage := ⟨{ stage.world with cache := none }, .memory⟩

/-- Connects the stage to a cache server. -/
def connectCache (stage : Stage) (defaultTtl : Nat) (server : CacheServer) (url : String) :
    Except Abort (Except CacheError Unit) × Stage :=
  let (result, world, server) :=
    (Cache.Redis.connect url).run CacheServer.answer (stage.world, server)
  (result, ⟨world, .cacheServer defaultTtl server⟩)

/-- Gives the stage the cache of a configuration: the server at the address if there is one
and it answers, and else no cache. -/
def chooseCache (stage : Stage) (defaultTtl : Nat) (server : CacheServer)
    (url? : Option String) : Stage :=
  let (result, world, server) :=
    (Cache.Redis.isAvailable url?).run CacheServer.answer (stage.world, server)
  match result with
  | .ok true => ⟨world, .cacheServer defaultTtl server⟩
  | _ => withoutCache { stage with world := world }

/-- The statements that a scripted database was sent, in order. -/
def statements (stage : Stage) : List Sent :=
  match stage.backend with
  | .database database => database.sent.reverse
  | _ => []

/-- The commands that a scripted cache server was sent, in order. -/
def commands (stage : Stage) : List (List String) :=
  match stage.backend with
  | .cacheServer _ server => server.sent.reverse
  | _ => []

/-- Runs a program. -/
def perform {α : Type} (stage : Stage) (program : Program α) : Except Abort α × Stage :=
  match stage.backend with
  | .memory =>
    let (result, world) := stage.world.perform program
    (result, ⟨world, .memory⟩)
  | .database database =>
    let (result, world, database) :=
      (Postgres.withDatabase program).run Database.answer (stage.world, database)
    (result, ⟨world, .database database⟩)
  | .cacheServer defaultTtl server =>
    let (result, world, server) :=
      (Cache.Redis.withRedis defaultTtl program).run CacheServer.answer (stage.world, server)
    (result, ⟨world, .cacheServer defaultTtl server⟩)

end Stage

end Shortlink.Rehearsal
