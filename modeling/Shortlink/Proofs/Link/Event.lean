import Shortlink.Proofs.Json.Records
import Shortlink.Proofs.Time.Stamp
import Shortlink.Proofs.Uuid
import Shortlink.Outbox.Message

/-!
# Events are read back

The message of an event decodes to that event. An event is a record around its payload, which
is an object of its type and its data, and the data is a record again.
-/

namespace Shortlink

open Json
open Json.Reader (reads_textOf peek_bind skip_bind isSolid_quote)

/-! ## The forms of ids and moments -/

theorem Uuid.form_parse_toString (id : Uuid) : Uuid.form.parse id.toString = .ok id := by
  have parsed : Uuid.parse? id.toString.toList = some id := by
    rw [Uuid.toString, String.toList_ofList]
    exact Uuid.parse?_text id
  simp only [Uuid.form, parsed]

theorem Time.Stamp.form_parse_toString (moment : Moment) :
    Stamp.form.parse (Stamp.toString moment) = .ok moment := by
  have parsed : Stamp.parse (Stamp.toString moment).toList = .ok moment := by
    rw [Stamp.toString, String.toList_ofList]
    exact Stamp.parse_text moment
  simp only [Stamp.form, parsed]
  rfl

theorem plainText_parse (text : String) : Reader.plainText.parse text = .ok text := rfl

/-! ## Payloads -/

namespace Payload

theorem reads_created (value : LinkCreated) (depth : Nat) :
    Reads (LinkCreated.record.read (depth + 2)) (print (Payload.created value).dataJson)
      value := by
  have fills : Record.Fills LinkCreated.record.toRecord.fields (depth + 1)
      [("shortened_url_id", value.linkId.toJson), ("code", .text value.code),
        ("original_url", .text value.longUrl), ("short_url", .text value.shortUrl)] {}
      ⟨some value.linkId, some value.code, some value.longUrl, some value.shortUrl⟩ := by
    refine ⟨_, _, rfl, rfl,
      Record.reads_textField (Uuid.form_parse_toString value.linkId) _ _ _ _, ?_⟩
    refine ⟨_, _, rfl, rfl, Record.reads_textField (plainText_parse value.code) _ _ _ _, ?_⟩
    refine ⟨_, _, rfl, rfl, Record.reads_textField (plainText_parse value.longUrl) _ _ _ _, ?_⟩
    refine ⟨_, _, rfl, rfl, Record.reads_textField (plainText_parse value.shortUrl) _ _ _ _, ?_⟩
    rfl
  exact Record.reads_of_fills fills rfl

theorem reads_removed (value : LinkRemoved) (depth : Nat) :
    Reads (LinkRemoved.record.read (depth + 2)) (print (Payload.removed value).dataJson)
      value := by
  have fills : Record.Fills LinkRemoved.record.toRecord.fields (depth + 1)
      [("shortened_url_id", value.linkId.toJson), ("code", .text value.code)] {}
      ⟨some value.linkId, some value.code⟩ := by
    refine ⟨_, _, rfl, rfl,
      Record.reads_textField (Uuid.form_parse_toString value.linkId) _ _ _ _, ?_⟩
    refine ⟨_, _, rfl, rfl, Record.reads_textField (plainText_parse value.code) _ _ _ _, ?_⟩
    rfl
  exact Record.reads_of_fills fills rfl

theorem reads_readData (payload : Payload) (depth : Nat) :
    Reads (readData (depth + 2) payload.type) (print payload.dataJson) payload := by
  cases payload with
  | created value => exact (reads_created value depth).map
  | removed value => exact (reads_removed value depth).map

theorem ofName?_name (type : EventType) : EventType.ofName? type.name = some type := by
  cases type with
  | created => rfl
  | removed => rfl

theorem reads_readType (type : EventType) (depth : Nat) :
    Reads (readType depth) (print (.text type.name)) type := by
  intro rest
  have named := reads_textOf (plainText_parse type.name) rest
  rw [print]
  rw [printText, List.cons_append] at named ⊢
  rw [readType, peek_bind isSolid_quote]
  change (Reader.textOf Reader.plainText >>= fun name => typeOf name) _ = _
  rw [bind_eq_of_ok named, typeOf, ofName?_name]
  rfl

theorem member_type (first : Bool) (value : Json) (members : List (String × Json))
    (rest : List Char) :
    member first (remainingMembers first (("type", value) :: members) ++ rest) =
      .ok (some true, ':' :: (print value ++ (remainingMembers false members ++ rest))) := by
  have shown (text : List Char) : (get : Reader (List Char)) text = .ok (text, text) := rfl
  rw [member, bind_eq_of_ok (shown _), nextMember,
    bind_eq_of_ok (nextName_cons first "type" value members rest)]
  rfl

theorem member_data (first : Bool) (value : Json) (members : List (String × Json))
    (rest : List Char) :
    member first (remainingMembers first (("data", value) :: members) ++ rest) =
      .ok (some false, ':' :: (print value ++ (remainingMembers false members ++ rest))) := by
  have shown (text : List Char) : (get : Reader (List Char)) text = .ok (text, text) := rfl
  rw [member, bind_eq_of_ok (shown _), nextMember,
    bind_eq_of_ok (nextName_cons first "data" value members rest)]
  rfl

theorem noMoreMembers_eq (rest : List Char) :
    noMoreMembers (remainingMembers false [] ++ '\x7d' :: rest) = .ok ((), '\x7d' :: rest) := by
  have shown (text : List Char) : (get : Reader (List Char)) text = .ok (text, text) := rfl
  have ended : member false (remainingMembers false [] ++ '\x7d' :: rest) =
      .ok (none, '\x7d' :: rest) := by
    rw [member, bind_eq_of_ok (shown _), nextMember, bind_eq_of_ok (nextName_nil false rest)]
    rfl
  rw [noMoreMembers, bind_eq_of_ok ended]
  rfl

theorem readMembers_eq (payload : Payload) (depth : Nat) (rest : List Char) :
    readMembers (depth + 2)
        (remainingMembers true [("type", .text payload.type.name), ("data", payload.dataJson)] ++
          '\x7d' :: rest) =
      .ok (payload, '\x7d' :: rest) := by
  rw [readMembers, bind_eq_of_ok (member_type true _ _ _)]
  change (Reader.colon >>= fun _ => readType (depth + 2) >>= fun type => _) _ = _
  rw [bind_eq_of_ok (colon_eq _), bind_eq_of_ok (reads_readType payload.type _ _),
    bind_eq_of_ok (member_data false _ _ _)]
  change (Reader.colon >>= fun _ => readData (depth + 2) payload.type >>= fun payload => _) _ = _
  rw [bind_eq_of_ok (colon_eq _), bind_eq_of_ok (reads_readData payload depth _),
    bind_eq_of_ok (noMoreMembers_eq rest)]
  rfl

/-- A payload is read back from its JSON. -/
theorem reads_toJson (payload : Payload) (depth : Nat) :
    Reads (Payload.read (depth + 3)) (print payload.toJson) payload := by
  intro rest
  let text := remainingMembers true
    [("type", .text payload.type.name), ("data", payload.dataJson)] ++ '\x7d' :: rest
  have whole : print payload.toJson ++ rest = '\x7b' :: text := by
    simp [toJson, print, remainingMembers, text]
  have opened : Reader.nested (depth + 3) ('\x7b' :: text) = .ok (depth + 2, '\x7b' :: text) := rfl
  rw [whole, read, peek_bind isSolid_openBrace]
  change (Reader.nested (depth + 3) >>= fun depth => Reader.skip >>= fun _ => _) _ = _
  rw [bind_eq_of_ok opened, skip_bind, bind_eq_of_ok (readMembers_eq payload depth rest),
    bind_eq_of_ok (endObject_eq rest)]
  rfl

end Payload

/-! ## Events -/

theorem Event.reads_toJson (event : Event) (depth : Nat) :
    Reads (Event.record.read (depth + 4)) (print event.toJson) event := by
  have fills : Record.Fills Event.record.fields (depth + 3)
      [("id", event.id.toJson), ("occurred_on_utc", event.occurred.toJson),
        ("payload", event.payload.toJson)] {}
      ⟨some event.id, some event.occurred, some event.payload⟩ := by
    refine ⟨_, _, rfl, rfl, Record.reads_textField (Uuid.form_parse_toString event.id) _ _ _ _, ?_⟩
    refine ⟨_, _, rfl, rfl,
      Record.reads_textField (Time.Stamp.form_parse_toString event.occurred) _ _ _ _, ?_⟩
    refine ⟨_, ⟨some event.id, some event.occurred, some event.payload⟩, rfl, rfl, ?_, rfl⟩
    intro rest
    change (Payload.read (depth + 3) >>= fun payload => pure _) _ = _
    rw [bind_eq_of_ok (Payload.reads_toJson event.payload depth rest)]
    rfl
  exact Record.reads_of_fills fills rfl

theorem Event.parse_compact (event : Event) : Event.parse event.toJson.compact = .ok event := by
  rw [Event.parse, compact, String.toList_ofList]
  exact readAll_of_reads (Event.reads_toJson event 124)

/-- The message of an event decodes to the event. -/
theorem Message.decode_ofEvent (event : Event) : (Message.ofEvent event).decode = .ok event := by
  simp only [Message.decode, Message.ofEvent, Event.parse_compact, if_true]

/-- The message of an event is unprocessed, carries the event's id, type and time, and loses
nothing of it: what it decodes to is the event itself, whatever its texts and its time are. -/
theorem Message.ofEvent_keeps_event (event : Event) :
    (Message.ofEvent event).id = event.id ∧
      (Message.ofEvent event).eventType = event.payload.type.name ∧
      (Message.ofEvent event).occurred = event.occurred ∧
      (Message.ofEvent event).isProcessed = false ∧
      (Message.ofEvent event).error = none ∧
      (Message.ofEvent event).decode = .ok event := by
  have decoded := Message.decode_ofEvent event
  exact ⟨rfl, rfl, rfl, rfl, rfl, decoded⟩

-- A leap second before the year 0 and a code that has to be escaped.
example :
    let event : Event := ⟨⟨0⟩, ⟨⟨-1, 12, 31, by decide, by decide, by decide⟩, 23, 59, 60,
      500000000, by decide, by decide, by decide, by decide⟩, .removed ⟨⟨1⟩, "\"\x00\\"⟩⟩
    (Message.ofEvent event).content =
      "\x7b\"id\":\"00000000-0000-0000-0000-000000000000\"," ++
        "\"occurred_on_utc\":\"-0001-12-31T23:59:60.500Z\"," ++
        "\"payload\":\x7b\"type\":\"ShortenedUrlRemoved\",\"data\":\x7b" ++
        "\"shortened_url_id\":\"00000000-0000-0000-0000-000000000001\"," ++
        "\"code\":\"\\\"\\u0000\\\\\"\x7d\x7d\x7d" := by
  decide +kernel

end Shortlink
