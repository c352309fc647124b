import Shortlink.Link.Save
import Shortlink.Effect

/-!
# The store in memory

Three tables: the URLs, the outbox and the markers of consumers. Each operation is one
function on the tables, so a save writes the URL and its messages together or not at all.
-/

namespace Shortlink

open Time (Moment)

/-- The stored rows, each table in the order of insertion. -/
structure Store where
  links : List Link := []
  outbox : List Message := []
  markers : List Marker := []
  /-- How many of the next saves are to fail when they commit. -/
  failingSaves : Nat := 0
  /-- Somebody holds the right to dispatch. -/
  isLeased : Bool := false

namespace Store

/-- Replaces the first entry of a list that satisfies a condition. -/
def replaceFirst {α : Type} (found : α → Bool) (change : α → α) : List α → List α
  | [] => []
  | entry :: rest =>
    if found entry then change entry :: rest else entry :: replaceFirst found change rest

/-! ## URLs -/

/-- A save that was made to fail when it commits. -/
def rolledBack : Failure := .database "transaction rolled back"

/-- The name of the uniqueness rule of codes. -/
def codeConstraint : String := "shortened_urls_code_key"

/-- A row has this code, active or not. -/
def hasCode (store : Store) (code : String) : Bool := store.links.any (·.code == code)

/-- The row that a save writes: the URL with other audit fields and nothing pending. -/
def storedCopy (link : Link) (audit : Audit) : Link := { link with audit := audit }.clearPending

/-- Writes a prepared save, unless it was made to fail or `write` refuses it. The aggregate
moves on only after the write. -/
def commit (store : Store) (link : Link) (prepared : PreparedSave)
    (write : Store → Except Failure Store) : SaveOutcome × Store :=
  match store.failingSaves with
  | count + 1 => (⟨.error rolledBack, link⟩, { store with failingSaves := count })
  | 0 =>
    match write store with
    | .ok store => (⟨.ok (), link.finishSave prepared.audit⟩, store)
    | .error failure => (⟨.error failure, link⟩, store)

/-- Stores a new URL and its pending events. Code and id must be new. -/
def add (store : Store) (link : Link) (now : Moment) : SaveOutcome × Store :=
  let prepared := link.prepareSave .added now
  store.commit link prepared fun store =>
    if store.links.any fun row => row.code == link.code || row.id == link.id then
      .error (.duplicate (some codeConstraint))
    else
      .ok { store with
        links := store.links ++ [storedCopy link prepared.audit]
        outbox := store.outbox ++ prepared.messages }

/-- Stores the new state of a URL and its pending events. The row must be there. -/
def update (store : Store) (link : Link) (change : Change) (now : Moment) :
    SaveOutcome × Store :=
  let prepared := link.prepareSave change now
  store.commit link prepared fun store =>
    if store.links.any (·.id == link.id) then
      .ok { store with
        links :=
          replaceFirst (·.id == link.id) (fun _ => storedCopy link prepared.audit) store.links
        outbox := store.outbox ++ prepared.messages }
    else .error (.idNotFound link.id.toString)

/-- The first active row with this code. -/
def findByCode (store : Store) (code : String) : Option Link :=
  store.links.find? fun row => row.code == code && row.isActive

/-- A URL comes before or beside another in a listing. -/
def listedFirst (link other : Link) : Bool := !link.audit.created.isBefore other.audit.created

/-- All active URLs, the newest first; equally old ones keep their order. -/
def activeLinks (store : Store) : List Link :=
  (store.links.filter Link.isActive).mergeSort listedFirst

/-- At most `limit` active URLs after the first `offset` ones. -/
def list (store : Store) (offset limit : Int) : List Link :=
  (store.activeLinks.drop offset.toNat).take limit.toNat

/-! ## The outbox -/

/-- Takes the right to dispatch, unless somebody holds it. -/
def tryLease (store : Store) : Option Lease × Store :=
  if store.isLeased then (none, store) else (some ⟨0⟩, { store with isLeased := true })

/-- Gives back the right to dispatch. -/
def release (store : Store) : Store := { store with isLeased := false }

/-- The first messages that have not been processed, at most `limit`. -/
def fetch (store : Store) (limit : Int) : List Message :=
  (store.outbox.filter fun message => !message.isProcessed).take limit.toNat

/-- Stores the outcome of a message with its row, if there is one. -/
def saveOutcome (outbox : List Message) (message : Message) : List Message :=
  replaceFirst (·.id == message.id)
    (fun row => { row with processed := message.processed, error := message.error }) outbox

/-- Stores the outcomes of messages. -/
def saveProcessed (store : Store) (messages : List Message) : Store :=
  { store with outbox := messages.foldl saveOutcome store.outbox }

/-- How many messages wait, were delivered, and failed. -/
def stats (store : Store) : OutboxStats where
  pending := store.outbox.countP fun message => !message.isProcessed
  processed := store.outbox.countP fun message => message.isProcessed && message.error.isNone
  failed := store.outbox.countP fun message => message.isProcessed && message.error.isSome

/-- Has a message processed again. -/
def requeue (store : Store) (id : Uuid) : Bool × Store :=
  if store.outbox.any (·.id == id) then
    (true, { store with outbox := replaceFirst (·.id == id) Message.requeue store.outbox })
  else (false, store)

/-! ## Markers -/

/-- A consumer has handled an event. -/
def isConsumed (store : Store) (marker : Marker) : Bool := store.markers.contains marker

/-- Records that a consumer has handled an event. -/
def markConsumed (store : Store) (marker : Marker) : Store :=
  if store.isConsumed marker then store
  else { store with markers := store.markers ++ [marker] }

end Store

end Shortlink
