import Shortlink.Json.Printer
import Shortlink.Json.Record

/-!
# Job settings

The jobs that a configuration lists: a name, a schedule, and whether the job is to run.
-/

namespace Shortlink

open Json (Reader ReadError Field TextField Record)

/-- One entry of the list of jobs. -/
structure JobSettings where
  name : String
  enabled : Bool
  schedule : String
  deriving DecidableEq, Repr

namespace JobSettings

/-- The name of the job that dispatches the outbox. -/
def outboxJob : String := "ProcessOutboxMessagesJob"

/-- The jobs where nothing else is asked for: the outbox is dispatched every ten seconds. -/
def standard : List JobSettings := [⟨outboxJob, true, "0/10 * * * * *"⟩]

/-- The fields of an entry that have been read. -/
structure Draft where
  name : Option String := none
  enabled : Option Bool := none
  schedule : Option String := none

/-- Entries as records. A job is enabled unless the entry says otherwise. -/
def record : Record Draft JobSettings where
  title := "struct JobSettings"
  empty := {}
  fields := [
    (TextField.of "name" Reader.plainText (·.name) fun draft value =>
      { draft with name := some value }).toField,
    { name := "enabled"
      isSet := (·.enabled.isSome)
      read := fun draft _ => do
        let value ← Reader.boolean
        pure { draft with enabled := some value }
      absent := fun draft => some { draft with enabled := some true } },
    (TextField.of "schedule" Reader.plainText (·.schedule) fun draft value =>
      { draft with schedule := some value }).toField]
  finish draft :=
    match draft.name, draft.schedule with
    | none, _ => .error (.missingField "name")
    | some _, none => .error (.missingField "schedule")
    | some name, some schedule => .ok ⟨name, draft.enabled.getD true, schedule⟩

/-- Reads a list of entries from its JSON text. -/
def parseList (text : String) : Except ReadError (List JobSettings) :=
  Reader.readAll (Reader.listOf record.read) text.toList

/-- An entry as JSON. -/
def toJson (job : JobSettings) : Json :=
  .object [("name", .text job.name), ("enabled", .bool job.enabled),
    ("schedule", .text job.schedule)]

/-- The JSON text of a list of entries. -/
def printList (jobs : List JobSettings) : String := (Json.list (jobs.map toJson)).compact

end JobSettings

end Shortlink
