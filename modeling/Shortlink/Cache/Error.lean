/-!
# Cache errors
-/

namespace Shortlink

/-- Why the cache did not do what it was asked for. -/
inductive CacheError where
  | connection (reason : String)
  | operation (reason : String)
  deriving DecidableEq, Repr

/-- The wording of a cache error. -/
def CacheError.message : CacheError → String
  | .connection reason => "Cache connection error: " ++ reason
  | .operation reason => "Cache operation error: " ++ reason

end Shortlink
