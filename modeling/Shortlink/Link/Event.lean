import Shortlink.Json.Printer
import Shortlink.Json.Record
import Shortlink.Time.Stamp
import Shortlink.Uuid

/-!
# Events

What happens to shortened URLs: one is created, one is removed. An event is stored and
passed on as JSON text, with its payload tagged by the event's type.
-/

namespace Shortlink

open Json (Reader ReadError Field TextField Record TextRecord)
open Time (Moment Stamp.form)

/-- A URL was shortened. -/
structure LinkCreated where
  linkId : Uuid
  code : String
  longUrl : String
  shortUrl : String
  deriving DecidableEq, Repr

/-- A shortened URL was removed. -/
structure LinkRemoved where
  linkId : Uuid
  code : String
  deriving DecidableEq, Repr

/-- The types of events. -/
inductive EventType where
  | created
  | removed
  deriving DecidableEq, Repr

/-- The name of an event type. -/
def EventType.name : EventType → String
  | .created => "ShortenedUrlCreated"
  | .removed => "ShortenedUrlRemoved"

/-- The event types in the order in which errors list them. -/
def EventType.all : List EventType := [.created, .removed]

/-- The event type with a name. -/
def EventType.ofName? (name : String) : Option EventType := all.find? (·.name == name)

/-- What happened. -/
inductive Payload where
  | created (value : LinkCreated)
  | removed (value : LinkRemoved)
  deriving DecidableEq, Repr

/-- The type of a payload. -/
def Payload.type : Payload → EventType
  | .created _ => .created
  | .removed _ => .removed

/-- Something that happened, with an id of its own and its time. -/
structure Event where
  id : Uuid
  occurred : Moment
  payload : Payload
  deriving DecidableEq, Repr

/-- The name of an event's type. -/
def Event.typeName (event : Event) : String := event.payload.type.name

/-! ## Writing -/

/-- The data of a payload as JSON. -/
def Payload.dataJson : Payload → Json
  | .created value =>
    .object [("shortened_url_id", value.linkId.toJson), ("code", .text value.code),
      ("original_url", .text value.longUrl), ("short_url", .text value.shortUrl)]
  | .removed value =>
    .object [("shortened_url_id", value.linkId.toJson), ("code", .text value.code)]

/-- A payload as JSON: its type and its data. -/
def Payload.toJson (payload : Payload) : Json :=
  .object [("type", .text payload.type.name), ("data", payload.dataJson)]

/-- An event as JSON. -/
def Event.toJson (event : Event) : Json :=
  .object [("id", event.id.toJson), ("occurred_on_utc", event.occurred.toJson),
    ("payload", event.payload.toJson)]

/-! ## Reading -/

/-- A field that has to be there at the end of a record. -/
def required {β : Type} (name : String) : Option β → Except ReadError β
  | some value => .ok value
  | none => .error (.missingField name)

/-- The fields of a creation that have been read. -/
structure LinkCreated.Draft where
  linkId : Option Uuid := none
  code : Option String := none
  longUrl : Option String := none
  shortUrl : Option String := none

/-- Creations as records of strings. -/
def LinkCreated.record : TextRecord LinkCreated.Draft LinkCreated where
  title := "struct ShortenedUrlCreated"
  empty := {}
  fields := [
    .of "shortened_url_id" Uuid.form (·.linkId) fun draft value =>
      { draft with linkId := some value },
    .of "code" Reader.plainText (·.code) fun draft value => { draft with code := some value },
    .of "original_url" Reader.plainText (·.longUrl) fun draft value =>
      { draft with longUrl := some value },
    .of "short_url" Reader.plainText (·.shortUrl) fun draft value =>
      { draft with shortUrl := some value }]
  finish draft := do
    let linkId ← required "shortened_url_id" draft.linkId
    let code ← required "code" draft.code
    let longUrl ← required "original_url" draft.longUrl
    let shortUrl ← required "short_url" draft.shortUrl
    pure ⟨linkId, code, longUrl, shortUrl⟩

/-- The fields of a removal that have been read. -/
structure LinkRemoved.Draft where
  linkId : Option Uuid := none
  code : Option String := none

/-- Removals as records of strings. -/
def LinkRemoved.record : TextRecord LinkRemoved.Draft LinkRemoved where
  title := "struct ShortenedUrlRemoved"
  empty := {}
  fields := [
    .of "shortened_url_id" Uuid.form (·.linkId) fun draft value =>
      { draft with linkId := some value },
    .of "code" Reader.plainText (·.code) fun draft value => { draft with code := some value }]
  finish draft := do
    let linkId ← required "shortened_url_id" draft.linkId
    let code ← required "code" draft.code
    pure ⟨linkId, code⟩

namespace Payload

/-- What an error calls a payload. -/
def title : String := "adjacently tagged enum EventPayload"

/-- Reads the data of a payload of the given type. -/
def readData (depth : Nat) : EventType → Reader Payload
  | .created => .created <$> LinkCreated.record.read depth
  | .removed => .removed <$> LinkRemoved.record.read depth

/-- The payload of the given type with data that was read before the type. -/
def ofBuffered (data : Json.Buffered) : EventType → Except ReadError Payload
  | .created => .created <$> LinkCreated.record.ofBuffered data
  | .removed => .removed <$> LinkRemoved.record.ofBuffered data

/-- The event type that a name stands for. -/
def typeOf (name : String) : Reader EventType :=
  match EventType.ofName? name with
  | some type => pure type
  | none => Reader.fail (.unknownVariant name (EventType.all.map EventType.name))

/-- Reads the type of a payload: its name, or an object with that name and `null`. -/
def readType (depth : Nat) : Reader EventType := do
  match ← Reader.peek with
  | none => Reader.fail .eofInValue
  | some '"' => typeOf (← Reader.textOf Reader.plainText)
  | some '\x7b' =>
    let _ ← Reader.nested depth
    Reader.skip
    let type ← typeOf (← Reader.textOf ⟨"variant identifier", .ok⟩)
    Reader.colon
    match ← Reader.peek with
    | none => Reader.fail .eofInValue
    | some 'n' =>
      Reader.skip
      Reader.word ['u', 'l', 'l']
    | some _ => Reader.unexpected "unit"
    match ← Reader.peek with
    | some '\x7d' => Reader.skip
    | some _ => Reader.fail .expectedValue
    | none => Reader.fail .eofInObject
    pure type
  | some _ => Reader.fail .expectedValue

/-- The next member of a payload that is its type or its data; others are passed over, and
`steps` bounds their number. The result tells whether it is the type. -/
def nextMember : Nat → Bool → Reader (Option Bool)
  | 0, _ => Reader.fail .eofInObject
  | steps + 1, first => do
    match ← Reader.nextName first with
    | none => pure none
    | some "type" => pure (some true)
    | some "data" => pure (some false)
    | some _ =>
      Reader.colon
      Reader.skipValue
      nextMember steps false

/-- The next member of a payload that is its type or its data. -/
def member (first : Bool) : Reader (Option Bool) := do
  nextMember ((← get).length + 1) first

/-- Nothing but passed-over members may follow type and data. -/
def noMoreMembers : Reader Unit := do
  match ← member false with
  | none => pure ()
  | some true => Reader.fail (.duplicateField "type")
  | some false => Reader.fail (.duplicateField "data")

/-- Reads the members of a payload that stands as an object. -/
def readMembers (depth : Nat) : Reader Payload := do
  match ← member true with
  | none => Reader.fail (.missingField "type")
  | some true =>
    Reader.colon
    let type ← readType depth
    match ← member false with
    | none => Reader.fail (.missingField "data")
    | some true => Reader.fail (.duplicateField "type")
    | some false =>
      Reader.colon
      let payload ← readData depth type
      noMoreMembers
      pure payload
  | some false =>
    Reader.colon
    let data ← Reader.buffered depth
    match ← member false with
    | none => Reader.fail (.missingField "type")
    | some false => Reader.fail (.duplicateField "data")
    | some true =>
      Reader.colon
      match ofBuffered data (← readType depth) with
      | .error error => Reader.fail error
      | .ok payload =>
        noMoreMembers
        pure payload

/-- Reads the items of a payload that stands as a list. -/
def readItems (depth : Nat) : Reader Payload := do
  if ← Reader.nextItem true then
    let type ← readType depth
    if ← Reader.nextItem false then readData depth type
    else Reader.fail (.invalidLength 1 title)
  else Reader.fail (.invalidLength 0 title)

/-- Reads a payload. -/
def read (depth : Nat) : Reader Payload := do
  match ← Reader.peek with
  | none => Reader.fail .eofInValue
  | some '[' =>
    let depth ← Reader.nested depth
    Reader.skip
    let payload ← readItems depth
    Reader.endList
    pure payload
  | some '\x7b' =>
    let depth ← Reader.nested depth
    Reader.skip
    let payload ← readMembers depth
    Reader.endObject
    pure payload
  | some _ => Reader.unexpected title

end Payload

/-- The fields of an event that have been read. -/
structure Event.Draft where
  id : Option Uuid := none
  occurred : Option Moment := none
  payload : Option Payload := none

/-- Events as records. -/
def Event.record : Record Event.Draft Event where
  title := "struct DomainEvent"
  empty := {}
  fields := [
    (TextField.of "id" Uuid.form (·.id) fun draft value =>
      { draft with id := some value }).toField,
    (TextField.of "occurred_on_utc" Stamp.form (·.occurred) fun draft value =>
      { draft with occurred := some value }).toField,
    { name := "payload"
      isSet := (·.payload.isSome)
      read := fun draft depth => do
        let payload ← Payload.read depth
        pure { draft with payload := some payload } }]
  finish draft := do
    let id ← required "id" draft.id
    let occurred ← required "occurred_on_utc" draft.occurred
    let payload ← required "payload" draft.payload
    pure ⟨id, occurred, payload⟩

/-- Reads an event from its JSON text. -/
def Event.parse (text : String) : Except ReadError Event :=
  Reader.readAll Event.record.read text.toList

end Shortlink
