/-!
# JSON values

Values with integer numbers only, which is all that this library writes. Members of an
object keep the order in which they were given.
-/

namespace Shortlink

/-- A JSON value. -/
inductive Json where
  | null
  | bool (value : Bool)
  | int (value : Int)
  | text (value : String)
  | list (items : List Json)
  | object (members : List (String × Json))
  deriving Inhabited, Repr, BEq

namespace Json

/-- A value or its absence, which is `null`. -/
def optional {α : Type} (toJson : α → Json) : Option α → Json
  | none => .null
  | some value => toJson value

/-- An optional text. -/
def optionalText : Option String → Json := optional .text

end Json

end Shortlink
