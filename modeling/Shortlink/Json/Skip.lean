import Shortlink.Json.Number

/-!
# Passing over JSON values

The value of a member that nobody asked for is checked for its grammar and dropped. The
lists and objects that are open are kept on a stack, so nesting is not limited here.
-/

namespace Shortlink.Json.Reader

/-- An open list or object. -/
inductive Frame where
  | list
  | object
  deriving DecidableEq

/-- Passes over one value that is no list and no object, or opens one. -/
def skipScalar : Reader (Option Frame) := do
  match ← peek with
  | none => fail .eofInValue
  | some c =>
    match c with
    | 'n' => skip; word ['u', 'l', 'l']; pure none
    | 't' => skip; word ['r', 'u', 'e']; pure none
    | 'f' => skip; word ['a', 'l', 's', 'e']; pure none
    | '-' => skip; skipNumber; pure none
    | '"' => skip; skipString; pure none
    | '[' => skip; pure (some .list)
    | '\x7b' => skip; pure (some .object)
    | c => if (decimalDigit? c).isSome then do skipNumber; pure none else fail .expectedValue

/-- After a value: closes what ends here and stops before the next value. The result is the
stack with the frame of that value on top, or nothing at the end of the outermost value.
`afterValue` tells whether the frame on top has had a value. -/
def closeFrames : (stack : List Frame) → (afterValue : Bool) → Reader (List Frame)
  | [], _ => pure []
  | frame :: outer, afterValue => do
    match ← peek with
    | none => fail (match frame with | .list => .eofInList | .object => .eofInObject)
    | some c =>
      if c = ',' ∧ afterValue then
        skip
        pure (frame :: outer)
      else if c = (match frame with | .list => ']' | .object => '\x7d') then
        skip
        closeFrames outer true
      else if afterValue then
        fail (match frame with
          | .list => .expectedCommaOrBracket
          | .object => .expectedCommaOrBrace)
      else pure (frame :: outer)

/-- Passes over the name of a member and its colon. -/
def skipName : Reader Unit := do
  match ← peek with
  | some '"' =>
    skip
    skipString
    match ← peek with
    | some ':' => skip
    | some _ => fail .expectedColon
    | none => fail .eofInObject
  | some _ => fail .keyMustBeText
  | none => fail .eofInObject

/-- Passes over values until the stack is empty; `steps` bounds their number. -/
def skipWithin : Nat → List Frame → Reader Unit
  | 0, _ => fail .eofInValue
  | steps + 1, stack => do
    let opened ← skipScalar
    let stack ← match opened with
      | some frame => closeFrames (frame :: stack) false
      | none => closeFrames stack true
    match stack with
    | [] => pure ()
    | .list :: _ => skipWithin steps stack
    | .object :: _ =>
      skipName
      skipWithin steps stack

/-- Passes over one value. -/
def skipValue : Reader Unit := do
  skipWithin ((← get).length + 1) []

end Shortlink.Json.Reader
