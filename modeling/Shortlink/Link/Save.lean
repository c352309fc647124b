import Shortlink.Failure
import Shortlink.Link.Basic
import Shortlink.Outbox.Message

/-!
# Saving a shortened URL

A save writes the URL with stamped audit fields together with one outbox message for each
pending event. What it will write is prepared first; the aggregate itself changes only
after the write has succeeded.
-/

namespace Shortlink

open Time (Moment)

/-- What a save writes. -/
structure PreparedSave where
  audit : Audit
  messages : List Message
  deriving DecidableEq, Repr

/-- How a save has ended: whether it was stored, and what the aggregate then is. -/
structure SaveOutcome where
  result : Except Failure Unit
  link : Link

/-- The aggregate of a save that was stored. -/
def SaveOutcome.stored (outcome : SaveOutcome) : Except Failure Link :=
  outcome.result.map fun _ => outcome.link

namespace Link

/-- The audit fields that a save writes. -/
def stampAudit (link : Link) (change : Change) (now : Moment) : Audit :=
  link.audit.apply change now

/-- The messages of the pending events, in order. -/
def captureEvents (link : Link) : List Message := link.pending.map .ofEvent

/-- What a save writes. -/
def prepareSave (link : Link) (change : Change) (now : Moment) : PreparedSave :=
  ⟨link.stampAudit change now, link.captureEvents⟩

/-- The aggregate after its save: with the audit fields written and nothing pending. -/
def finishSave (link : Link) (audit : Audit) : Link :=
  { link with audit := audit, pending := [] }

end Link

end Shortlink
