import Shortlink.Json.Error

/-!
# Reading JSON

Readers go through a text once, from left to right, and stop at the first problem. This
module has what all typed readers are made of: blanks, words, strings, numbers, and the
steps between the items of a list and the members of an object.
-/

namespace Shortlink.Json

/-- A reader takes a value off the front of a text. -/
abbrev Reader (α : Type) := StateT (List Char) (Except ReadError) α

namespace Reader

variable {α : Type}

/-- Stops reading. -/
def fail (error : ReadError) : Reader α := fun _ => .error error

/-- The blanks of the grammar. -/
def isBlank (c : Char) : Bool := c == ' ' || c == '\n' || c == '\t' || c == '\r'

/-- Skips blanks and shows the next character without taking it. -/
def peek : Reader (Option Char) := fun text =>
  let rest := text.dropWhile isBlank
  .ok (rest.head?, rest)

/-- Takes one character, whatever it is. -/
def skip : Reader Unit := fun text => .ok ((), text.drop 1)

/-- Takes the rest of a word of which the first letter has been taken. -/
def word : List Char → Reader Unit
  | [] => pure ()
  | expected :: more => do
    match ← get with
    | [] => fail .eofInValue
    | c :: rest =>
      if c = expected then
        set rest
        word more
      else fail .expectedWord

/-! ## Strings -/

/-- The value of a hexadecimal digit. -/
def hexValue? (c : Char) : Option Nat :=
  let n := c.toNat
  if 48 ≤ n ∧ n ≤ 57 then some (n - 48)
  else if 97 ≤ n ∧ n ≤ 102 then some (n - 87)
  else if 65 ≤ n ∧ n ≤ 70 then some (n - 55)
  else none

/-- The four digits of an escape. A text with fewer than four bytes left ends inside the
string; any other character among the four makes the escape invalid. -/
def fourDigits (text : List Char) : Except ReadError (Nat × List Char) :=
  match text with
  | a :: b :: c :: d :: rest =>
    match hexValue? a, hexValue? b, hexValue? c, hexValue? d with
    | some a, some b, some c, some d => .ok (((a * 16 + b) * 16 + c) * 16 + d, rest)
    | _, _, _, _ => .error .invalidEscape
  | short =>
    if 4 ≤ (String.ofList short).utf8ByteSize then .error .invalidEscape else .error .eofInString

/-- The character of an escape of one letter. -/
def shortEscape? : Char → Option Char
  | '"' => some '"'
  | '\\' => some '\\'
  | '/' => some '/'
  | 'b' => some (Char.ofNat 8)
  | 'f' => some (Char.ofNat 12)
  | 'n' => some '\n'
  | 'r' => some '\r'
  | 't' => some '\t'
  | _ => none

/-- The character of an escape whose first four digits have been read. -/
def escapedChar (unit : Nat) (rest : List Char) : Except ReadError (Char × List Char) :=
  if 0xDC00 ≤ unit ∧ unit ≤ 0xDFFF then .error .loneSurrogate
  else if unit < 0xD800 ∨ 0xDBFF < unit then .ok (Char.ofNat unit, rest)
  else
    match rest with
    | [] => .error .eofInString
    | '\\' :: [] => .error .eofInString
    | '\\' :: 'u' :: rest =>
      match fourDigits rest with
      | .error error => .error error
      | .ok (second, rest) =>
        if 0xDC00 ≤ second ∧ second ≤ 0xDFFF then
          .ok (Char.ofNat (0x10000 + (unit - 0xD800) * 0x400 + (second - 0xDC00)), rest)
        else .error .loneSurrogate
    | _ => .error .unpairedEscape

/-- The characters of a string after its opening quote, collected in reverse; `steps`
bounds their count. -/
def stringTail : Nat → List Char → List Char → Except ReadError (List Char × List Char)
  | 0, _, _ => .error .eofInString
  | _, _, [] => .error .eofInString
  | steps + 1, taken, c :: rest =>
    if c = '"' then .ok (taken.reverse, rest)
    else if c = '\\' then
      match rest with
      | [] => .error .eofInString
      | 'u' :: rest =>
        match fourDigits rest with
        | .error error => .error error
        | .ok (unit, rest) =>
          match escapedChar unit rest with
          | .error error => .error error
          | .ok (c, rest) => stringTail steps (c :: taken) rest
      | letter :: rest =>
        match shortEscape? letter with
        | some c => stringTail steps (c :: taken) rest
        | none => .error .invalidEscape
    else if c.toNat < 32 then .error .controlCharacter
    else stringTail steps (c :: taken) rest

/-- A string whose opening quote has been taken. -/
def stringRest : Reader String := fun text =>
  (stringTail (text.length + 1) [] text).map fun (chars, rest) => (String.ofList chars, rest)

/-- Passes over a string whose opening quote has been taken. Escapes are checked for their
form, not for the character that they stand for. -/
def skipStringTail : Nat → List Char → Except ReadError (List Char)
  | 0, _ => .error .eofInString
  | _, [] => .error .eofInString
  | steps + 1, c :: rest =>
    if c = '"' then .ok rest
    else if c = '\\' then
      match rest with
      | [] => .error .eofInString
      | 'u' :: rest =>
        match fourDigits rest with
        | .error error => .error error
        | .ok (_, rest) => skipStringTail steps rest
      | letter :: rest =>
        match shortEscape? letter with
        | some _ => skipStringTail steps rest
        | none => .error .invalidEscape
    else if c.toNat < 32 then .error .controlCharacter
    else skipStringTail steps rest

/-- Passes over a string whose opening quote has been taken. -/
def skipString : Reader Unit := fun text =>
  (skipStringTail (text.length + 1) text).map fun rest => ((), rest)

/-! ## Lists and objects -/

/-- Whether a list has another item, whose first character then comes next. -/
def nextItem (first : Bool) : Reader Bool := do
  match ← peek with
  | none => fail .eofInList
  | some ']' => pure false
  | some c =>
    if first then pure true
    else if c = ',' then
      skip
      match ← peek with
      | some ']' => fail .trailingComma
      | some _ => pure true
      | none => fail .eofInValue
    else fail .expectedCommaOrBracket

/-- The end of a list all of whose items have been read. -/
def endList : Reader Unit := do
  match ← peek with
  | some ']' => skip
  | some ',' =>
    skip
    match ← peek with
    | some ']' => fail .trailingComma
    | _ => fail .trailingCharacters
  | some _ => fail .trailingCharacters
  | none => fail .eofInList

/-- Whether an object has another member, whose opening quote then comes next. -/
def nextMember (first : Bool) : Reader Bool := do
  match ← peek with
  | none => fail .eofInObject
  | some '\x7d' => pure false
  | some c =>
    if first then
      if c = '"' then pure true else fail .keyMustBeText
    else if c = ',' then
      skip
      match ← peek with
      | some '"' => pure true
      | some '\x7d' => fail .trailingComma
      | some _ => fail .keyMustBeText
      | none => fail .eofInValue
    else fail .expectedCommaOrBrace

/-- The name of the next member of an object, if there is one. -/
def nextName (first : Bool) : Reader (Option String) := do
  if ← nextMember first then
    skip
    some <$> stringRest
  else pure none

/-- The colon between a name and its value. -/
def colon : Reader Unit := do
  match ← peek with
  | some ':' => skip
  | some _ => fail .expectedColon
  | none => fail .eofInObject

/-- The end of an object all of whose members have been read. -/
def endObject : Reader Unit := do
  match ← peek with
  | some '\x7d' => skip
  | some ',' => fail .trailingComma
  | some _ => fail .trailingCharacters
  | none => fail .eofInObject

/-- The nesting that is left inside one more list or object. -/
def nested (depth : Nat) : Reader Nat :=
  match depth with
  | 0 | 1 => fail .tooDeep
  | rest + 2 => pure (rest + 1)

/-- The nesting that a text may have. -/
def maxDepth : Nat := 128

/-- Reads a text that holds one value and nothing else. -/
def readAll (reader : Nat → Reader α) (text : List Char) : Except ReadError α :=
  match reader maxDepth text with
  | .error error => .error error
  | .ok (value, rest) =>
    if (rest.dropWhile isBlank).isEmpty then .ok value else .error .trailingCharacters

end Reader

end Shortlink.Json
