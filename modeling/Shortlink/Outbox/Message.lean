import Shortlink.Link.Event

/-!
# Outbox messages

An event as it is stored until it has been delivered: its type and its JSON text beside the
time and the outcome of the delivery.
-/

namespace Shortlink

open Time (Moment)

/-- A stored event with the state of its delivery. -/
structure Message where
  id : Uuid
  eventType : String
  content : String
  occurred : Moment
  processed : Option Moment
  error : Option String
  deriving DecidableEq, Repr

/-- Why a stored message is not an event. -/
inductive DecodeError where
  | payload (reason : String)
  | typeMismatch (stored actual : String)
  deriving DecidableEq, Repr

/-- The wording of a decoding error. -/
def DecodeError.message : DecodeError → String
  | .payload reason => "invalid event payload: " ++ reason
  | .typeMismatch stored actual =>
    "type discriminator mismatch: stored `" ++ stored ++ "`, payload `" ++ actual ++ "`"

namespace Message

/-- The message of an event, not yet processed. -/
def ofEvent (event : Event) : Message where
  id := event.id
  eventType := event.typeName
  content := event.toJson.compact
  occurred := event.occurred
  processed := none
  error := none

/-- The event of a message, whose type must be the stored one. -/
def decode (message : Message) : Except DecodeError Event :=
  match Event.parse message.content with
  | .error error => .error (.payload error.message)
  | .ok event =>
    if event.typeName = message.eventType then .ok event
    else .error (.typeMismatch message.eventType event.typeName)

/-- The message has been processed, with or without an error. -/
def isProcessed (message : Message) : Bool := message.processed.isSome

/-- The message after it was processed at `now`. -/
def markProcessed (message : Message) (now : Moment) (error : Option String) : Message :=
  { message with processed := some now, error := error }

/-- The message waiting for delivery again. -/
def requeue (message : Message) : Message := { message with processed := none, error := none }

/-- The message as JSON. -/
def toJson (message : Message) : Json :=
  .object [("id", .text message.id.toString), ("event_type", .text message.eventType),
    ("content", .text message.content), ("occurred", message.occurred.toJson),
    ("processed", Json.optional Moment.toJson message.processed),
    ("error", .optionalText message.error)]

end Message

/-- The mark that a consumer has handled an event. -/
structure Marker where
  eventId : Uuid
  consumer : String
  deriving DecidableEq, Repr

/-- How many messages wait, were delivered, and failed. -/
structure OutboxStats where
  pending : Int
  processed : Int
  failed : Int
  deriving DecidableEq, Repr

/-- The counts as JSON. -/
def OutboxStats.toJson (stats : OutboxStats) : Json :=
  .list [.int stats.pending, .int stats.processed, .int stats.failed]

end Shortlink
