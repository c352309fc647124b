import Shortlink.Link.Audit
import Shortlink.Link.Event

/-!
# Shortened URLs

A shortened URL is an aggregate: its fields, its audit fields, and the events that it has
raised and that no save has stored yet.
-/

namespace Shortlink

open Time (Moment)

/-- A shortened URL. -/
structure Link where
  id : Uuid
  longUrl : String
  code : String
  shortUrl : String
  audit : Audit
  pending : List Event
  deriving DecidableEq, Repr

namespace Link

/-- A new shortened URL, with the event that it was created. -/
def create (id eventId : Uuid) (now occurred : Moment) (longUrl code shortUrl : String) :
    Link where
  id := id
  longUrl := longUrl
  code := code
  shortUrl := shortUrl
  audit := .begun now
  pending := [⟨eventId, occurred, .created ⟨id, code, longUrl, shortUrl⟩⟩]

/-- A stored shortened URL; nothing is pending. -/
def restore (id : Uuid) (longUrl code shortUrl : String) (audit : Audit) : Link :=
  ⟨id, longUrl, code, shortUrl, audit, []⟩

/-- Raises the event that the URL is removed. The audit fields change when that is saved. -/
def remove (link : Link) (eventId : Uuid) (occurred : Moment) : Link :=
  { link with
    pending := link.pending ++ [⟨eventId, occurred, .removed ⟨link.id, link.code⟩⟩] }

/-- Forgets the pending events. -/
def clearPending (link : Link) : Link := { link with pending := [] }

/-- The URL is not removed. -/
def isActive (link : Link) : Bool := link.audit.isActive

/-- The URL as JSON, with its pending events. -/
def toJson (link : Link) : Json :=
  .object [("id", .text link.id.toString), ("original_url", .text link.longUrl),
    ("code", .text link.code), ("short_url", .text link.shortUrl),
    ("audit", link.audit.toJson), ("events", .list (link.pending.map Event.toJson))]

end Link

end Shortlink
