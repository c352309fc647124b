import Shortlink.Text.Visible

/-!
# Quoted text

How a text is shown inside an error message: in double quotes, with escapes for quotes,
backslashes and whatever is not visible. Bytes that are no UTF-8 are shown as `\xFF`.
-/

namespace Shortlink.Text

/-- A hexadecimal digit in lower case. -/
def hexDigit (n : Nat) : Char :=
  if n < 10 then Char.ofNat (48 + n) else Char.ofNat (87 + n)

/-- The hexadecimal digits of a number, without leading zeros; `steps` bounds their count. -/
def hexDigits : Nat → Nat → List Char
  | 0, _ => []
  | steps + 1, n =>
    if n < 16 then [hexDigit n] else hexDigits steps (n / 16) ++ [hexDigit (n % 16)]

/-- A character as it stands in a quoted text. Single quotes are escaped on demand. -/
def showChar (escapeSingle : Bool) (c : Char) : List Char :=
  match c.toNat with
  | 0 => ['\\', '0']
  | 9 => ['\\', 't']
  | 10 => ['\\', 'n']
  | 13 => ['\\', 'r']
  | 34 => ['\\', '"']
  | 92 => ['\\', '\\']
  | n =>
    if n = 39 && escapeSingle then ['\\', c]
    else if isVisible c then [c]
    else ['\\', 'u', '\x7b'] ++ hexDigits 6 n ++ ['\x7d']

/-- A text in double quotes. -/
def quoted (text : String) : String :=
  .ofList ('"' :: text.toList.flatMap (showChar false) ++ ['"'])

/-- A byte in a quoted text that is no part of a character. -/
def showByte (byte : UInt8) : List Char :=
  ['\\', 'x', (hexDigit (byte.toNat / 16)).toUpper, (hexDigit (byte.toNat % 16)).toUpper]

end Shortlink.Text
