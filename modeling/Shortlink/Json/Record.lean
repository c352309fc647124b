import Shortlink.Json.Buffered

/-!
# Reading records

A record stands in a text as an object with named members or as a list of its fields in
their order. Members that are no field are passed over, a field may not occur twice, and
missing fields are reported at the end of the object, in the order of the fields.

The fields read so far are a draft of the record: a value of a type of its own in which
each of them is optional.
-/

namespace Shortlink.Json

variable {δ α : Type}

/-- A field of a record with drafts of type `δ`. -/
structure Field (δ : Type) where
  name : String
  /-- The draft has the field already. -/
  isSet : δ → Bool
  /-- Reads the field into the draft, nested at most so deep. -/
  read : δ → Nat → Reader δ
  /-- What the draft becomes when a list ends before the field; most fields have to be there. -/
  absent : δ → Option δ := fun _ => none

/-- A field that is a string. -/
structure TextField (δ : Type) where
  name : String
  isSet : δ → Bool
  expected : String
  /-- Puts the field's text into the draft. -/
  put : δ → String → Except ReadError δ

/-- The form of text that puts a field into a draft. -/
def TextField.form (field : TextField δ) (draft : δ) : Reader.TextForm δ :=
  ⟨field.expected, field.put draft⟩

/-- A string field as a field. -/
def TextField.toField (field : TextField δ) : Field δ where
  name := field.name
  isSet := field.isSet
  read draft _ := Reader.textOf (field.form draft)

/-- The text field of a draft in which `get` and `set` reach a value of the given form. -/
def TextField.of {β : Type} (name : String) (form : Reader.TextForm β) (get : δ → Option β)
    (set : δ → β → δ) : TextField δ where
  name := name
  isSet draft := (get draft).isSome
  expected := form.expected
  put draft text := (form.parse text).map (set draft)

/-- A record: its name in errors, its fields, the empty draft, and the end of reading. -/
structure Record (δ α : Type) where
  title : String
  fields : List (Field δ)
  empty : δ
  /-- The record of a draft, or the first field that it lacks. -/
  finish : δ → Except ReadError α

namespace Record

/-- What an error about the length of a list calls the record. -/
def lengthTitle (title : String) (count : Nat) : String :=
  title ++ " with " ++ toString count ++ (if count = 1 then " element" else " elements")

/-- The fields of a record that stands as a list, from the given place on. -/
def readItems (title : String) (total depth : Nat) : Nat → List (Field δ) → δ → Reader δ
  | _, [], draft => pure draft
  | place, field :: rest, draft => do
    if ← Reader.nextItem (place == 0) then
      let draft ← field.read draft depth
      readItems title total depth (place + 1) rest draft
    else
      match field.absent draft with
      | some draft => readItems title total depth (place + 1) rest draft
      | none => Reader.fail (.invalidLength place (lengthTitle title total))

/-- The members of a record that stands as an object; `steps` bounds their number. -/
def readMembers (fields : List (Field δ)) (depth : Nat) : Nat → Bool → δ → Reader δ
  | 0, _, _ => Reader.fail .eofInObject
  | steps + 1, first, draft => do
    match ← Reader.nextName first with
    | none => pure draft
    | some name =>
      match fields.find? (·.name == name) with
      | none =>
        Reader.colon
        Reader.skipValue
        readMembers fields depth steps false draft
      | some field =>
        if field.isSet draft then Reader.fail (.duplicateField name)
        else
          Reader.colon
          let draft ← field.read draft depth
          readMembers fields depth steps false draft

/-- Reads a record. -/
def read (record : Record δ α) (depth : Nat) : Reader α := do
  match ← Reader.peek with
  | none => Reader.fail .eofInValue
  | some '[' =>
    let depth ← Reader.nested depth
    Reader.skip
    let draft ← readItems record.title record.fields.length depth 0 record.fields record.empty
    let value ← finished draft
    Reader.endList
    pure value
  | some '\x7b' =>
    let depth ← Reader.nested depth
    Reader.skip
    let draft ← readMembers record.fields depth ((← get).length + 1) true record.empty
    let value ← finished draft
    Reader.endObject
    pure value
  | some _ => Reader.unexpected record.title
where
  /-- The record of a finished draft. -/
  finished (draft : δ) : Reader α :=
    match record.finish draft with
    | .ok value => pure value
    | .error error => Reader.fail error

end Record

/-- A record all of whose fields are strings. -/
structure TextRecord (δ α : Type) where
  title : String
  fields : List (TextField δ)
  empty : δ
  finish : δ → Except ReadError α

namespace TextRecord

/-- A record of strings as a record. -/
def toRecord (record : TextRecord δ α) : Record δ α where
  title := record.title
  fields := record.fields.map TextField.toField
  empty := record.empty
  finish := record.finish

/-- Reads a record of strings. -/
def read (record : TextRecord δ α) (depth : Nat) : Reader α := record.toRecord.read depth

/-- The fields of a record that has been buffered as a list. -/
def fromItems (title : String) (total : Nat) :
    Nat → List (TextField δ) → List Buffered → δ → Except ReadError (δ × List Buffered)
  | _, [], items, draft => .ok (draft, items)
  | place, _ :: _, [], _ => .error (.invalidLength place (Record.lengthTitle title total))
  | place, field :: fields, item :: items, draft => do
    let draft ← item.textOf (field.form draft)
    fromItems title total (place + 1) fields items draft

/-- The members of a record that has been buffered as an object. -/
def fromMembers (fields : List (TextField δ)) :
    List (String × Buffered) → δ → Except ReadError δ
  | [], draft => .ok draft
  | (name, value) :: rest, draft =>
    match fields.find? (·.name == name) with
    | none => fromMembers fields rest draft
    | some field =>
      if field.isSet draft then .error (.duplicateField name)
      else do
        let draft ← value.textOf (field.form draft)
        fromMembers fields rest draft

/-- The record that a buffered value stands for. -/
def ofBuffered (record : TextRecord δ α) : Buffered → Except ReadError α
  | .list items => do
    let total := record.fields.length
    let (draft, extra) ← fromItems record.title total 0 record.fields items record.empty
    let value ← record.finish draft
    if extra.isEmpty then .ok value
    else
      .error (.invalidLength items.length
        (toString total ++ (if total = 1 then " element" else " elements") ++ " in sequence"))
  | .object members => do
    record.finish (← fromMembers record.fields members record.empty)
  | other => .error (.invalidType other.found record.title)

end TextRecord

end Shortlink.Json
