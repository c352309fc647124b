import Shortlink.Cache.Key
import Shortlink.Outbox.Bus

/-!
# Invalidation

The handlers that keep the cache in step with the store: a new URL makes all listing pages
stale, and a removed one also its resolved entry.
-/

namespace Shortlink

namespace Invalidation

/-- Makes a request to the cache that has to succeed. -/
def insist {α : Type} (program : Program (Except CacheError α)) : Action α :=
  Action.orFail (fun error => .invalidation error.message) program

/-- Drops all listing pages. -/
def dropPages : Action Unit := do
  let _ ← insist (ask (.cacheRemoveAll Cache.listStem))
  pure ()

/-- Drops all listing pages when a URL is created. -/
def onCreated : Handler := fun event =>
  match event.payload with
  | .created _ => dropPages
  | .removed _ => pure ()

/-- Drops the resolved entry and all listing pages when a URL is removed. -/
def onRemoved : Handler := fun event =>
  match event.payload with
  | .created _ => pure ()
  | .removed removed => do
    insist (ask (.cacheRemove (Cache.codeKey removed.code)))
    dropPages

/-- The consumer name of the handler of creations. -/
def createdConsumer : String := "ShortenedUrlListInvalidator"

/-- The consumer name of the handler of removals. -/
def removedConsumer : String := "ShortenedUrlCacheEvictor"

end Invalidation

namespace Bus

/-- The bus of the service. -/
def standard : Bus :=
  ⟨[⟨EventType.created.name, Invalidation.createdConsumer, Invalidation.onCreated⟩,
    ⟨EventType.removed.name, Invalidation.removedConsumer, Invalidation.onRemoved⟩]⟩

theorem of_standard : of standard.subscriptions = .ok standard := rfl

end Bus

end Shortlink
