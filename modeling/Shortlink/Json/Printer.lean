import Shortlink.Json
import Shortlink.Text.Quoted

/-!
# Printing JSON

The compact text of a value: no blanks, members in their order, and only those characters
of a string escaped that must be.
-/

namespace Shortlink.Json

/-- A character as it stands inside a JSON string. -/
def escapeChar (c : Char) : List Char :=
  if c = '"' then ['\\', '"']
  else if c = '\\' then ['\\', '\\']
  else if c.toNat = 8 then ['\\', 'b']
  else if c.toNat = 9 then ['\\', 't']
  else if c.toNat = 10 then ['\\', 'n']
  else if c.toNat = 12 then ['\\', 'f']
  else if c.toNat = 13 then ['\\', 'r']
  else if c.toNat < 32 then
    ['\\', 'u', '0', '0', Text.hexDigit (c.toNat / 16), Text.hexDigit (c.toNat % 16)]
  else [c]

/-- A text as a JSON string, quotes included. -/
def printText (text : List Char) : List Char :=
  '"' :: (text.flatMap escapeChar ++ ['"'])

/-- Printed items with a comma between neighbours. -/
def separated : List (List Char) → List Char
  | [] => []
  | [item] => item
  | item :: rest => item ++ ',' :: separated rest

mutual

/-- The compact text of a value. -/
def print : Json → List Char
  | .null => ['n', 'u', 'l', 'l']
  | .bool true => ['t', 'r', 'u', 'e']
  | .bool false => ['f', 'a', 'l', 's', 'e']
  | .int value => (toString value).toList
  | .text value => printText value.toList
  | .list items => '[' :: (separated (printItems items) ++ [']'])
  | .object members => '\x7b' :: (separated (printMembers members) ++ ['\x7d'])

/-- The texts of the items of a list. -/
def printItems : List Json → List (List Char)
  | [] => []
  | item :: rest => print item :: printItems rest

/-- The texts of the members of an object. -/
def printMembers : List (String × Json) → List (List Char)
  | [] => []
  | (name, value) :: rest => (printText name.toList ++ ':' :: print value) :: printMembers rest

end

/-- The compact text of a value, as a string. -/
def compact (value : Json) : String := .ofList (print value)

end Shortlink.Json
