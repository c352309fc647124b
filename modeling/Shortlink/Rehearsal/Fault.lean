import Shortlink.Effect

/-!
# Staged faults

Requests that are to fail in a rehearsal, or to be answered without the store. For each
target there is a queue of outcomes, one for each of the requests to come.
-/

namespace Shortlink.Rehearsal

/-- The requests whose outcome can be staged. -/
inductive Target where
  | codeExists
  | add
  | update
  | findByCode
  | list
  | lease
  | release
  | fetch
  | saveProcessed
  | stats
  | requeue
  | isConsumed
  | markConsumed
  | cacheGet
  | cacheSet
  | cacheRemove
  | cacheRemoveAll
  | cacheHealthy
  deriving DecidableEq, Repr

/-- The names of the targets. -/
def Target.names : List (String × Target) :=
  [("exists_by_code", .codeExists), ("add", .add), ("update", .update),
    ("find_by_code", .findByCode), ("list", .list), ("lease", .lease), ("release", .release),
    ("fetch", .fetch), ("save_processed", .saveProcessed), ("stats", .stats),
    ("requeue", .requeue), ("consumer_exists", .isConsumed),
    ("consumer_insert", .markConsumed), ("cache_get", .cacheGet), ("cache_set", .cacheSet),
    ("cache_remove", .cacheRemove), ("cache_remove_by_prefix", .cacheRemoveAll),
    ("cache_health", .cacheHealthy)]

/-- The target with a name. -/
def Target.ofName? (name : String) : Option Target := names.lookup name

/-- A staged outcome. -/
inductive Outcome where
  /-- The request goes through. -/
  | pass
  | fail (failure : Failure)
  | failCache (error : CacheError)
  /-- The answer to a question. -/
  | say (answer : Bool)

/-- The staged outcomes by their targets, in the order in which they are to happen. -/
abbrev Plan := List (Target × Outcome)

namespace Plan

/-- Stages more outcomes for a target. -/
def stage (plan : Plan) (target : Target) (outcomes : List Outcome) : Plan :=
  plan ++ outcomes.map fun outcome => (target, outcome)

/-- The next outcome for a target, and the plan without it. -/
def next (target : Target) : Plan → Outcome × Plan
  | [] => (.pass, [])
  | (other, outcome) :: rest =>
    if other = target then (outcome, rest)
    else
      let (found, rest) := next target rest
      (found, (other, outcome) :: rest)

end Plan

end Shortlink.Rehearsal
