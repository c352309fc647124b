import Shortlink.Cache.Key
import Shortlink.Cache.Through
import Shortlink.Link.Address
import Shortlink.Link.Code
import Shortlink.Link.View
import Shortlink.Number.Bounds

/-!
# The service

Creation, resolution, listing and removal of shortened URLs. A creation draws a code until
one is free and then saves; a save that fails costs one of five attempts. Resolution and
listing read through the cache, and removal leaves the cache to the event that it raises.
-/

namespace Shortlink

/-- The settings of the service. -/
structure LinkService where
  codes : CodeSettings
  /-- For how many seconds answers are cached; the cache's own time if there is none. -/
  cacheTtl : Option Nat
  /-- How many codes are drawn at most in search of a free one. -/
  draws : Nat

/-- A request to shorten a URL: the scheme and the host under which the service is reached
make up the front of the short URL. -/
structure ShortenRequest where
  longUrl : String
  scheme : String
  host : String
  deriving DecidableEq, Repr

namespace LinkService

/-- How often a creation tries to save. -/
def maxAttempts : Nat := 5

/-- The greatest number of URLs on a page. -/
def maxPageSize : Int := 100

/-! ## Creation -/

/-- A code drawn at random. -/
def drawCode (codes : CodeSettings) : Program String := do
  match Code.ofUuid codes (← ask .newId) with
  | .ok code => pure code
  | .error cause => .abort cause

/-- A code that no row has; at most `draws` are drawn. -/
def freeCode (codes : CodeSettings) : Nat → Action String
  | 0 => Action.ofProgram (.abort .drawsExhausted)
  | draws + 1 => do
    let code ← drawCode codes
    if ← Action.ofProgram (ask (.codeExists code)) then freeCode codes draws else pure code

/-- A code that no row has. -/
def uniqueCode (service : LinkService) : Action String := freeCode service.codes service.draws

/-- A new shortened URL, not yet stored. -/
def newLink (longUrl code shortUrl : String) : Program Link := do
  let id ← ask .newId
  let created ← ask .now
  let eventId ← ask .newId
  let occurred ← ask .now
  pure (.create id eventId created occurred longUrl code shortUrl)

/-- One attempt to create a short URL with the given front. -/
def tryCreate (service : LinkService) (longUrl base : String) : Action Link := do
  let code ← service.uniqueCode
  let link ← newLink longUrl code (base ++ "/" ++ code)
  Action.ofProgram do
    let outcome ← ask (.addLink link)
    pure outcome.stored

/-- The given number of attempts, of which the first that succeeds counts. `last` is the
message of the failure before. -/
def createWithin (service : LinkService) (longUrl base : String) :
    Nat → Option String → Action Link
  | 0, last => throw (.attemptsExhausted maxAttempts last)
  | attempts + 1, _ => Action.ofProgram do
    match ← (service.tryCreate longUrl base).attempt with
    | .ok link => pure (.ok link)
    | .error failure =>
      (service.createWithin longUrl base attempts (some failure.message)).attempt

/-- The front of the short URL for a request that can be served. -/
def checkRequest (request : ShortenRequest) : Except Failure String :=
  match Address.validate request.longUrl.toList with
  | .error error => .error (.unusableUrl error.message)
  | .ok _ =>
    match Address.base request.scheme.toList request.host.toList with
    | .error error => .error (.unusableContext error.message)
    | .ok base => .ok (.ofList base)

/-- Shortens a URL. -/
def create (service : LinkService) (request : ShortenRequest) : Action Link := do
  let base ← liftExcept (checkRequest request)
  service.createWithin request.longUrl base maxAttempts none
where
  /-- A result that is known without any request. -/
  liftExcept {α : Type} (result : Except Failure α) : Action α :=
    Action.ofProgram (pure result)

/-! ## Resolution and listing -/

/-- Loads the URL behind a code from the store. -/
def loadOriginal (code : String) : Action String := do
  match ← Action.ofProgram (ask (.findByCode code)) with
  | some link => pure link.longUrl
  | none => throw (.codeNotFound code)

/-- The URL behind an active code. -/
def resolve (service : LinkService) (code : String) : Action String :=
  Cache.getOrLoad .string (Cache.codeKey code) service.cacheTtl (loadOriginal code)

/-- The number of URLs before a page, which must stay in the signed 64-bit range. -/
def pageOffset (page size : Int) : Program Int :=
  let offset := (page - 1) * size
  if offset ≤ Number.maxSigned64 then pure offset else .abort .offsetOverflow

/-- Loads a page from the store. -/
def loadPage (page size : Int) : Action (List LinkView) := do
  let offset ← pageOffset page size
  let links ← Action.ofProgram (ask (.listLinks offset size))
  pure (links.map Link.view)

/-- A page of the active URLs, the newest first. The first page has the number one. -/
def list (service : LinkService) (page size : Int) : Action (List LinkView) :=
  if page < 1 ∨ size < 1 ∨ maxPageSize < size then
    throw (.unusablePage page size maxPageSize)
  else
    Cache.getOrLoad LinkView.codec.list (Cache.pageKey page size) service.cacheTtl
      (loadPage page size)

/-! ## Removal -/

/-- A URL with the event that it is removed. -/
def raiseRemoved (link : Link) : Program Link := do
  let eventId ← ask .newId
  let occurred ← ask .now
  pure (link.remove eventId occurred)

/-- Removes an active URL. Its cached entries stay until the event is dispatched. -/
def remove (code : String) : Action Unit := do
  match ← Action.ofProgram (ask (.findByCode code)) with
  | none => throw (.codeNotFound code)
  | some link =>
    let removed ← raiseRemoved link
    Action.ofProgram do
      let outcome ← ask (.updateLink removed .deleted)
      pure outcome.result

end LinkService

end Shortlink
