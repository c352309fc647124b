import Shortlink.Web.Url

/-!
# Addresses

Which URLs may be shortened, and how the front of a short URL is made from the scheme and
the host under which the service is reached.
-/

namespace Shortlink

/-- Why an address is not usable. -/
inductive AddressError where
  | invalidFormat (reason : String)
  | unsupportedProtocol
  | invalidHost (reason : String)
  deriving DecidableEq, Repr

/-- The wording of an address error. -/
def AddressError.message : AddressError → String
  | .invalidFormat reason => "Invalid URL format: " ++ reason
  | .unsupportedProtocol => "Only HTTP and HTTPS protocols are allowed"
  | .invalidHost reason => "Invalid short URL host: " ++ reason

namespace Address

/-- The schemes that are served. -/
def isServed (scheme : List Char) : Bool :=
  scheme == ['h', 't', 't', 'p'] || scheme == ['h', 't', 't', 'p', 's']

/-- Checks that a text is an absolute URL of a served scheme with a host. -/
def validate (url : List Char) : Except AddressError Unit :=
  match Web.Url.parse url with
  | .error error => .error (.invalidFormat error.message)
  | .ok parsed =>
    if isServed parsed.scheme then
      match parsed.host with
      | some _ => .ok ()
      | none => .error (.invalidFormat "missing host")
    else .error .unsupportedProtocol

/-- The front of short URLs: scheme and host, where the host may have a port and slashes at
its end, but no path. -/
def base (scheme host : List Char) : Except AddressError (List Char) := do
  let scheme := scheme.map Char.toLower
  if ¬ isServed scheme then throw .unsupportedProtocol
  let host := Text.dropTrailing (· == '/') (Text.trim host)
  if host.isEmpty ∨ '/' ∈ host then throw (.invalidHost (.ofList host))
  let front := scheme ++ [':', '/', '/'] ++ host
  match Web.Url.parse (front ++ ['/']) with
  | .ok _ => pure front
  | .error error => throw (.invalidHost (.ofList (host ++ [':', ' '] ++ error.message.toList)))

end Address

end Shortlink
