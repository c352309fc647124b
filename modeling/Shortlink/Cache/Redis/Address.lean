import Shortlink.Number.Bounds
import Shortlink.Text.Integer
import Shortlink.Web.Query

/-!
# Addresses of cache servers

Which URLs name a Redis server: a host, or a socket in the file system, each with the number
of a database and a version of the protocol.
-/

namespace Shortlink.Cache.Redis

open Web (Url Query.last?)

/-- The schemes of a server with a host. -/
def hostSchemes : List String := ["redis", "valkey"]

/-- The schemes of a server behind a socket in the file system. -/
def socketSchemes : List String := ["unix", "redis+unix", "valkey+unix"]

/-- The text is the number of a database. -/
def isDatabase (text : List Char) : Bool :=
  (Text.readSigned Number.maxSigned64 text).isOk

/-- A version of the protocol is one of those known. -/
def isProtocol (version : String) : Bool := ["2", "resp2", "3", "resp3"].contains version

/-- The version of the protocol, if the URL asks for one, is one of those known. -/
def hasProtocol (url : Url) : Bool :=
  ((url.query.bind (Query.last? "protocol")).map isProtocol).getD true

/-- A path without the slashes at its ends. -/
def trimSlashes (path : List Char) : List Char :=
  ((path.dropWhile (· == '/')).reverse.dropWhile (· == '/')).reverse

/-- The URL names a server with a host. -/
def isHostAddress (url : Url) : Bool :=
  let database := trimSlashes url.path
  let (user, password) := url.userAndPassword
  url.host.isSome && (database.isEmpty || isDatabase database) &&
    (Url.decodePart? user).isSome && (Url.decodePart? (password.getD [])).isSome &&
    hasProtocol url

/-- The host is the machine itself. -/
def isLocal : Option Web.Host → Bool
  | none => true
  | some host => host == .plain ['l', 'o', 'c', 'a', 'l', 'h', 'o', 's', 't']

/-- The URL names a socket in the file system. -/
def isSocketAddress (url : Url) : Bool :=
  let database := (url.query.bind (Query.last? "db")).getD "0"
  isLocal url.host && url.path.head? == some '/' && isDatabase database.toList &&
    hasProtocol url

/-- The text names a server. -/
def isAddress (text : String) : Bool :=
  match Url.parse text.toList with
  | .error _ => false
  | .ok url =>
    let scheme := String.ofList url.scheme
    if hostSchemes.contains scheme then isHostAddress url
    else socketSchemes.contains scheme && isSocketAddress url

end Shortlink.Cache.Redis
