import Shortlink.Json

/-!
# Failures

A failure is what an operation of the service reports instead of a result: its kind,
a message for people and details for programs. Every failure that the library itself
raises is built here, so that its wording stands in one place.
-/

namespace Shortlink

/-- The four kinds of failure. -/
inductive FailureKind where
  | validation
  | notFound
  | conflict
  | internal
  deriving DecidableEq, Repr

/-- The code under which a kind is reported. -/
def FailureKind.code : FailureKind → String
  | .validation => "validation_error"
  | .notFound => "not_found"
  | .conflict => "conflict"
  | .internal => "internal_error"

/-- The kind reported under a code. -/
def FailureKind.ofCode? : String → Option FailureKind
  | "validation_error" => some .validation
  | "not_found" => some .notFound
  | "conflict" => some .conflict
  | "internal_error" => some .internal
  | _ => none

/-- What an operation reports instead of a result. -/
structure Failure where
  kind : FailureKind
  message : String
  details : Json
  deriving Repr, BEq

namespace Failure

/-- The failure as JSON. -/
def toJson (failure : Failure) : Json :=
  .object [("error", .text failure.kind.code), ("message", .text failure.message),
    ("details", failure.details)]

/-- A uniqueness rule of the store was violated. -/
def isConflict (failure : Failure) : Bool := failure.kind = .conflict

/-- The store failed for a reason of its own. -/
def database (reason : String) : Failure :=
  ⟨.internal, "Database error", .object [("reason", .text reason)]⟩

/-- A row with the same unique value is already stored. -/
def duplicate (constraint : Option String) : Failure :=
  ⟨.conflict, "Unique constraint violation",
    .object [("constraint", .optionalText constraint)]⟩

/-- A stored text is not the value it should be. -/
def serialization (reason : String) : Failure :=
  ⟨.internal, "Serialization error", .object [("reason", .text reason)]⟩

/-- The URL to shorten is not usable. -/
def unusableUrl (reason : String) : Failure :=
  ⟨.validation, "Invalid URL format", .object [("reason", .text reason)]⟩

/-- The scheme or host for the short URL is not usable. -/
def unusableContext (reason : String) : Failure :=
  ⟨.validation, "Invalid request context", .object [("reason", .text reason)]⟩

/-- The page or its size is out of bounds. -/
def unusablePage (page size maxSize : Int) : Failure :=
  ⟨.validation, "Invalid pagination",
    .object [("page", .int page), ("page_size", .int size), ("max_page_size", .int maxSize)]⟩

/-- No active URL has this code. -/
def codeNotFound (code : String) : Failure :=
  ⟨.notFound, "Short URL not found", .object [("code", .text code)]⟩

/-- No stored URL has this id. -/
def idNotFound (id : String) : Failure :=
  ⟨.notFound, "Shortened URL not found", .object [("id", .text id)]⟩

/-- Every attempt to store a new URL failed. -/
def attemptsExhausted (attempts : Nat) (last : Option String) : Failure :=
  ⟨.internal, "Failed to create short URL after " ++ toString attempts ++ " attempts",
    .object [("attempts", .int attempts), ("last_error", .optionalText last)]⟩

/-- The cache could not drop the entries that an event makes stale. -/
def invalidation (reason : String) : Failure :=
  ⟨.internal, "Cache invalidation failed: " ++ reason, .object [("reason", .text reason)]⟩

/-- Some handlers of an event failed; `failures` has one text for each, in order. -/
def handlers (eventId eventType : String) (failures : List String) : Failure :=
  ⟨.internal,
    toString failures.length ++ " handler(s) failed for " ++ eventType ++ " " ++ eventId ++ ": "
      ++ "; ".intercalate failures,
    .object [("event_id", .text eventId), ("event_type", .text eventType),
      ("failures", .list (failures.map .text))]⟩

/-- Two handlers of one event type share a consumer name. -/
def duplicateConsumer (eventType consumer : String) : Failure :=
  ⟨.validation, "Duplicate event consumer",
    .object [("event_type", .text eventType), ("consumer", .text consumer)]⟩

/-- A job's schedule cannot be read. -/
def unusableSchedule (job schedule reason : String) : Failure :=
  ⟨.validation, "Invalid job schedule",
    .object [("job", .text job), ("schedule", .text schedule), ("reason", .text reason)]⟩

end Failure

end Shortlink
