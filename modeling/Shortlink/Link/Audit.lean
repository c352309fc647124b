import Shortlink.Time.Stamp

/-!
# Audit fields

When a stored record was created and last updated, and whether it is active. Removal is
soft: the record stays and becomes inactive.
-/

namespace Shortlink

open Time (Moment)

/-- The audit fields of a record. -/
structure Audit where
  created : Moment
  updated : Option Moment
  isActive : Bool
  deriving DecidableEq, Repr

/-- What a save does to a record. -/
inductive Change where
  | added
  | modified
  | deleted
  deriving DecidableEq, Repr

namespace Audit

/-- The audit fields of a record created at `now`. -/
def begun (now : Moment) : Audit := ⟨now, none, true⟩

/-- The audit fields after a change at `now`. -/
def apply (audit : Audit) (change : Change) (now : Moment) : Audit :=
  match change with
  | .added => { audit with created := now, isActive := true }
  | .modified => { audit with updated := some now }
  | .deleted => { audit with isActive := false, updated := some now }

/-- The audit fields as JSON. -/
def toJson (audit : Audit) : Json :=
  .object [("created", audit.created.toJson),
    ("updated", Json.optional Moment.toJson audit.updated), ("active", .bool audit.isActive)]

end Audit

end Shortlink
