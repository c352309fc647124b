import Shortlink.Cache.Codec
import Shortlink.Effect

/-!
# Reading through the cache

A value is taken from the cache, or else loaded and cached. Whatever goes wrong with the
cache, or stands in it without making sense, counts as absence.
-/

namespace Shortlink.Cache

variable {α : Type}

/-- The cached value under a key, if there is one that can be read. -/
def lookUp (codec : Codec α) (key : String) : Program (Option α) := do
  match ← ask (.cacheGet key) with
  | .ok (some text) => pure (codec.decode? text)
  | _ => pure none

/-- Caches a value as far as it can be written. The result of the cache does not matter. -/
def keep (codec : Codec α) (key : String) (ttl : Option Nat) (value : α) : Program Unit := do
  match codec.encode? value with
  | some text =>
    let _ ← ask (.cacheSet key text ttl)
    pure ()
  | none => pure ()

/-- The cached value under a key, or else the one that `load` gives, which is then
cached. -/
def getOrLoad (codec : Codec α) (key : String) (ttl : Option Nat) (load : Action α) :
    Action α := do
  match ← lookUp codec key with
  | some value => pure value
  | none =>
    let value ← load
    keep codec key ttl value
    pure value

end Shortlink.Cache
