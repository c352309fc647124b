import Shortlink.Report
import Shortlink.Text.Integer
import Shortlink.Web.Query

/-!
# Addresses of databases

Which URLs can be the address of a database. A port may stand beside the host or among the
parameters.
-/

namespace Shortlink.Postgres

/-- Why a URL is not the address of a database. -/
inductive AddressError where
  | url (cause : Web.UrlError)
  | port (cause : Text.IntegerError)
  deriving DecidableEq, Repr

namespace AddressError

/-- The wording of an address error. -/
def message : AddressError → String
  | .url cause => cause.message
  | .port cause => cause.message

/-- What is said about an address error. -/
def report (error : AddressError) : Report :=
  .within ("error with configuration: " ++ error.message) (.plain error.message)

end AddressError

namespace Address

/-- Checks a parameter. -/
def checkParameter (parameter : String × String) : Except AddressError Unit :=
  if parameter.1 = "port" then
    match Text.readNatural Web.Url.maxPort parameter.2.toList with
    | .ok _ => .ok ()
    | .error cause => .error (.port cause)
  else .ok ()

/-- Checks an address. -/
def check (text : String) : Except AddressError Unit :=
  match Web.Url.parse text.toList with
  | .error cause => .error (.url cause)
  | .ok url => url.parameters.forM checkParameter

end Address

end Shortlink.Postgres
