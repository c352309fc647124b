import Shortlink.Json.Printer
import Shortlink.Json.Scalar

/-!
# Codecs

How values are written into the cache and read back: as JSON text. Text that is not of the
value's form reads as nothing.
-/

namespace Shortlink.Cache

open Json (Reader)

/-- The JSON form of a type of values. -/
structure Codec (α : Type) where
  read : Nat → Reader α
  toJson : α → Json
  /-- Whether values can be written at all. -/
  isStorable : Bool := true

namespace Codec

variable {α : Type}

/-- The text of a value, if it can be written. -/
def encode? (codec : Codec α) (value : α) : Option String :=
  if codec.isStorable then some (codec.toJson value).compact else none

/-- The value that a text stands for. -/
def decode? (codec : Codec α) (text : String) : Option α :=
  match Reader.readAll codec.read text.toList with
  | .ok value => some value
  | .error _ => none

/-- Strings. -/
def string : Codec String := ⟨fun _ => Reader.string, .text, true⟩

/-- Booleans. -/
def bool : Codec Bool := ⟨fun _ => Reader.boolean, .bool, true⟩

/-- Integers between two bounds. -/
def integer (low high : Int) : Codec Int :=
  ⟨fun _ => Reader.integer low high "an integer", .int, true⟩

/-- Lists of values. -/
def list (codec : Codec α) : Codec (List α) :=
  ⟨Reader.listOf codec.read, fun values => .list (values.map codec.toJson), codec.isStorable⟩

/-- Values or `null`. -/
def nullable (codec : Codec α) : Codec (Option α) :=
  ⟨fun depth => Reader.nullable (codec.read depth),
    fun value => (value.map codec.toJson).getD .null, codec.isStorable⟩

/-- The same values, which however cannot be written. -/
def unstorable (codec : Codec α) : Codec α := { codec with isStorable := false }

end Codec

end Shortlink.Cache
