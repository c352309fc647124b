import Shortlink.Json.Skip

/-!
# Reading scalars

Texts, booleans and integers, and the error when something else stands in their place.
-/

namespace Shortlink.Json.Reader

variable {α : Type}

/-- Fails because of the value that comes next. A scalar is read to name it, so a problem
inside it is reported instead. -/
def unexpected (expected : String) : Reader α := do
  let found ← match ← peek with
    | none => fail .eofInValue
    | some c =>
      match c with
      | 'n' => skip; word ['u', 'l', 'l']; pure Found.null
      | 't' => skip; word ['r', 'u', 'e']; pure (Found.bool true)
      | 'f' => skip; word ['a', 'l', 's', 'e']; pure (Found.bool false)
      | '-' => skip; NumberToken.found <$> number true
      | '"' => skip; Found.text <$> stringRest
      | '[' => pure Found.sequence
      | '\x7b' => pure Found.map
      | c =>
        if (decimalDigit? c).isSome then NumberToken.found <$> number false
        else fail .expectedValue
  fail (.invalidType found expected)

/-- A form of text: what an error calls it, and its reader. -/
structure TextForm (α : Type) where
  expected : String
  parse : String → Except ReadError α

/-- Any text. -/
def plainText : TextForm String := ⟨"a string", .ok⟩

/-- A string of the given form. -/
def textOf (form : TextForm α) : Reader α := do
  match ← peek with
  | none => fail .eofInValue
  | some '"' =>
    skip
    let value ← stringRest
    match form.parse value with
    | .ok result => pure result
    | .error error => fail error
  | some _ => unexpected form.expected

/-- A string. -/
def string : Reader String := textOf plainText

/-- A boolean. -/
def boolean : Reader Bool := do
  match ← peek with
  | none => fail .eofInValue
  | some 't' => skip; word ['r', 'u', 'e']; pure true
  | some 'f' => skip; word ['a', 'l', 's', 'e']; pure false
  | some _ => unexpected "a boolean"

/-- An integer between two bounds. -/
def integer (low high : Int) (expected : String) : Reader Int := do
  let token ← match ← peek with
    | none => fail .eofInValue
    | some '-' => skip; number true
    | some c => if (decimalDigit? c).isSome then number false else unexpected expected
  match token with
  | .integer value =>
    if low ≤ value ∧ value ≤ high then pure value
    else
      fail (.malformed ("invalid value: integer `" ++ toString value ++ "`, expected " ++
        expected))
  | .float negative value => fail (.invalidType (.float negative value) expected)

/-- A value or `null`. -/
def nullable (reader : Reader α) : Reader (Option α) := do
  match ← peek with
  | some 'n' => skip; word ['u', 'l', 'l']; pure none
  | _ => some <$> reader

/-- The items of a list that has been opened, collected in reverse; `steps` bounds their
number. -/
def items (reader : Reader α) : Nat → Bool → List α → Reader (List α)
  | 0, _, _ => fail .eofInList
  | steps + 1, first, taken => do
    if ← nextItem first then
      items reader steps false ((← reader) :: taken)
    else pure taken.reverse

/-- A list of values of one form. -/
def listOf (reader : Nat → Reader α) (depth : Nat) : Reader (List α) := do
  match ← peek with
  | none => fail .eofInValue
  | some '[' =>
    let depth ← nested depth
    skip
    let values ← items (reader depth) ((← get).length + 1) true []
    endList
    pure values
  | some _ => unexpected "a sequence"

end Shortlink.Json.Reader
