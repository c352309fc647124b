import Shortlink.Json.Scalar

/-!
# Buffered JSON values

A value that is met before it is known what it should be is kept as it is and read later.
-/

namespace Shortlink.Json

/-- A value that has been read without an expectation. -/
inductive Buffered where
  | null
  | bool (value : Bool)
  | number (token : NumberToken)
  | text (value : String)
  | list (items : List Buffered)
  | object (members : List (String × Buffered))

/-- What is found where a buffered value stands. -/
def Buffered.found : Buffered → Found
  | .null => .null
  | .bool value => .bool value
  | .number token => token.found
  | .text value => .text value
  | .list _ => .sequence
  | .object _ => .map

namespace Reader

/-- The members of an object that has been opened, collected in reverse; `steps` bounds
their number. -/
def bufferedMembers (reader : Reader Buffered) :
    Nat → Bool → List (String × Buffered) → Reader (List (String × Buffered))
  | 0, _, _ => fail .eofInObject
  | steps + 1, first, taken => do
    match ← nextName first with
    | none => pure taken.reverse
    | some name =>
      colon
      let value ← reader
      bufferedMembers reader steps false ((name, value) :: taken)

/-- Any value, nested at most `depth - 1` deep. -/
def buffered : Nat → Reader Buffered
  | 0 => fail .tooDeep
  | depth + 1 => do
    match ← peek with
    | none => fail .eofInValue
    | some c =>
      match c with
      | 'n' => skip; word ['u', 'l', 'l']; pure .null
      | 't' => skip; word ['r', 'u', 'e']; pure (.bool true)
      | 'f' => skip; word ['a', 'l', 's', 'e']; pure (.bool false)
      | '-' => skip; .number <$> number true
      | '"' => skip; .text <$> stringRest
      | '[' =>
        let _ ← nested (depth + 1)
        skip
        let values ← items (buffered depth) ((← get).length + 1) true []
        endList
        pure (.list values)
      | '\x7b' =>
        let _ ← nested (depth + 1)
        skip
        let members ← bufferedMembers (buffered depth) ((← get).length + 1) true []
        endObject
        pure (.object members)
      | c =>
        if (decimalDigit? c).isSome then .number <$> number false else fail .expectedValue

end Reader

/-- A buffered string of the given form. -/
def Buffered.textOf {α : Type} (form : Reader.TextForm α) : Buffered → Except ReadError α
  | .text value => form.parse value
  | other => .error (.invalidType other.found form.expected)

end Shortlink.Json
