import Shortlink.Text.Utf8

/-!
# The environment

The variables that a program is started with. Their values are bytes; a value that is not
UTF-8 can only be used where it is required, and is an error there.
-/

namespace Shortlink.Settings

/-- Why a variable has no text. -/
inductive VariableError where
  | unset
  | notUnicode (bytes : List UInt8)
  deriving DecidableEq, Repr

/-- The wording of a variable error. -/
def VariableError.message : VariableError → String
  | .unset => "environment variable not found"
  | .notUnicode bytes =>
    "environment variable was not valid unicode: " ++ Text.quotedBytes bytes

/-- The variables with their values. -/
structure Environment where
  values : List (String × List UInt8)

namespace Environment

/-- The text of a variable. -/
def read (environment : Environment) (name : String) : Except VariableError String :=
  match environment.values.lookup name with
  | none => .error .unset
  | some bytes =>
    match Text.decodeUtf8? bytes with
    | some text => .ok (.ofList text)
    | none => .error (.notUnicode bytes)

/-- The text of a variable, if it has one. -/
def read? (environment : Environment) (name : String) : Option String :=
  (environment.read name).toOption

/-- The text of a variable, or another one if it has none. -/
def readOr (environment : Environment) (name standard : String) : String :=
  (environment.read? name).getD standard

end Environment

end Shortlink.Settings
