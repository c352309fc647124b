import Shortlink.Web.Url

/-!
# Queries

The names and values in the query of a URL. They are separated by ampersands and equality
signs; a plus sign stands for a blank, and any byte may be written with a percent sign.
-/

namespace Shortlink.Web.Query

/-- A name or a value without its escapes. -/
def unescape (text : List Char) : List Char :=
  Host.decodeText (Host.percentDecode
    (Text.encodeUtf8 (text.map fun c => if c = '+' then ' ' else c)))

/-- A name with its value; where there is no equality sign, the value is empty. -/
def pair (text : List Char) : String × String :=
  match Text.splitAtFirst? '=' text with
  | some (name, value) => (.ofList (unescape name), .ofList (unescape value))
  | none => (.ofList (unescape text), "")

/-- The names and values of a query, in order. -/
def pairs (query : List Char) : List (String × String) :=
  ((Text.piecesAt '&' query).filter fun piece => !piece.isEmpty).map pair

/-- The value of the last pair with a name. -/
def last? (name : String) (query : List Char) : Option String :=
  (pairs query).reverse.lookup name

end Shortlink.Web.Query

namespace Shortlink.Web.Url

/-- The names and values in the query of a URL. -/
def parameters (url : Url) : List (String × String) := Query.pairs (url.query.getD [])

/-- The user and the password in front of the host. -/
def userAndPassword (url : Url) : List Char × Option (List Char) :=
  match url.credentials with
  | none => ([], none)
  | some credentials =>
    match Text.splitAtFirst? ':' credentials with
    | some (user, password) => (user, some password)
    | none => (credentials, none)

/-- The text that a part of a URL stands for, if that is text. -/
def decodePart? (part : List Char) : Option (List Char) :=
  Text.decodeUtf8? (Host.percentDecode (Text.encodeUtf8 part))

end Shortlink.Web.Url
