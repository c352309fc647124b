import Shortlink.Cache.Codec
import Shortlink.Link.Basic

/-!
# Views

What a listing shows of a shortened URL.
-/

namespace Shortlink

open Json (TextRecord TextField Reader)
open Time (Moment Stamp.form)

/-- What a listing shows of a shortened URL. -/
structure LinkView where
  code : String
  longUrl : String
  shortUrl : String
  created : Moment
  deriving DecidableEq, Repr

/-- The view of a URL. -/
def Link.view (link : Link) : LinkView :=
  ⟨link.code, link.longUrl, link.shortUrl, link.audit.created⟩

namespace LinkView

/-- The fields of a view that have been read. -/
structure Draft where
  code : Option String := none
  longUrl : Option String := none
  shortUrl : Option String := none
  created : Option Moment := none

/-- Views as records of strings. -/
def record : TextRecord Draft LinkView where
  title := "struct LinkView"
  empty := {}
  fields := [
    .of "code" Reader.plainText (·.code) fun draft value => { draft with code := some value },
    .of "original_url" Reader.plainText (·.longUrl) fun draft value =>
      { draft with longUrl := some value },
    .of "short_url" Reader.plainText (·.shortUrl) fun draft value =>
      { draft with shortUrl := some value },
    .of "created_on_utc" Stamp.form (·.created) fun draft value =>
      { draft with created := some value }]
  finish draft := do
    let code ← required "code" draft.code
    let longUrl ← required "original_url" draft.longUrl
    let shortUrl ← required "short_url" draft.shortUrl
    let created ← required "created_on_utc" draft.created
    pure ⟨code, longUrl, shortUrl, created⟩

/-- A view as JSON. -/
def toJson (view : LinkView) : Json :=
  .object [("code", .text view.code), ("original_url", .text view.longUrl),
    ("short_url", .text view.shortUrl), ("created_on_utc", view.created.toJson)]

/-- The form in which views are cached. -/
def codec : Cache.Codec LinkView := ⟨record.read, toJson, true⟩

end LinkView

end Shortlink
