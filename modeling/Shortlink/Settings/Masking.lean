import Shortlink.Text.Search

/-!
# Masking passwords

A connection string is shown with stars for its password: whatever stands between the first
colon of the credentials and the last at sign.
-/

namespace Shortlink.Settings

open Text (splitAtWord? splitAtFirst? splitAtLast?)

/-- What stands between the scheme of a URL and the rest. -/
def schemeMark : List Char := [':', '/', '/']

/-- The stars that stand for a password. -/
def stars : List Char := ['*', '*', '*']

/-- A connection string without its password. -/
def maskChars (url : List Char) : List Char :=
  match splitAtWord? schemeMark url with
  | none => url
  | some (scheme, rest) =>
    match splitAtLast? '@' rest with
    | none => url
    | some (credentials, host) =>
      match splitAtFirst? ':' credentials with
      | none => url
      | some (user, _) => scheme ++ schemeMark ++ user ++ ':' :: (stars ++ '@' :: host)

/-- A connection string without its password, as a string. -/
def mask (url : String) : String := .ofList (maskChars url.toList)

end Shortlink.Settings
