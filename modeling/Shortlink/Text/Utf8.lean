import Shortlink.Text.Quoted

/-!
# UTF-8

Bytes are read as characters where they form some; a byte sequence that is no UTF-8 is
split into its characters and the bytes that belong to none.
-/

namespace Shortlink.Text

/-- A piece of a byte sequence: a character, or a byte that is part of none. -/
inductive Utf8Piece where
  | char (value : Char)
  | stray (value : UInt8)
  deriving DecidableEq, Repr

/-- The value bits of a continuation byte in the given bounds. -/
def continuation? (low high : Nat) (byte : UInt8) : Option Nat :=
  if low ≤ byte.toNat ∧ byte.toNat ≤ high then some (byte.toNat % 64) else none

/-- The character at the start of a byte sequence with the number of its bytes, or the
number of bytes at the start that can begin none. -/
def leadingChar : List UInt8 → Char × Nat ⊕ Nat
  | [] => .inr 0
  | first :: rest =>
    let lead := first.toNat
    let tail := continuation? 0x80 0xBF
    if lead < 0x80 then .inl (Char.ofNat lead, 1)
    else if 0xC2 ≤ lead ∧ lead ≤ 0xDF then
      match rest.head?.bind tail with
      | some a => .inl (Char.ofNat ((lead - 0xC0) * 64 + a), 2)
      | none => .inr 1
    else if 0xE0 ≤ lead ∧ lead ≤ 0xEF then
      let low := if lead = 0xE0 then 0xA0 else 0x80
      let high := if lead = 0xED then 0x9F else 0xBF
      match rest.head?.bind (continuation? low high) with
      | none => .inr 1
      | some a =>
        match rest[1]?.bind tail with
        | none => .inr 2
        | some b => .inl (Char.ofNat ((lead - 0xE0) * 4096 + a * 64 + b), 3)
    else if 0xF0 ≤ lead ∧ lead ≤ 0xF4 then
      let low := if lead = 0xF0 then 0x90 else 0x80
      let high := if lead = 0xF4 then 0x8F else 0xBF
      match rest.head?.bind (continuation? low high) with
      | none => .inr 1
      | some a =>
        match rest[1]?.bind tail with
        | none => .inr 2
        | some b =>
          match rest[2]?.bind tail with
          | none => .inr 3
          | some c =>
            .inl (Char.ofNat ((lead - 0xF0) * 262144 + a * 4096 + b * 64 + c), 4)
    else .inr 1

/-- The pieces of a byte sequence of at most `steps` bytes. -/
def utf8PiecesWithin : Nat → List UInt8 → List Utf8Piece
  | 0, _ => []
  | _, [] => []
  | steps + 1, first :: rest =>
    match leadingChar (first :: rest) with
    | .inl (c, length) => .char c :: utf8PiecesWithin steps (rest.drop (length - 1))
    | .inr length =>
      ((first :: rest).take length).map .stray ++
        utf8PiecesWithin steps (rest.drop (length - 1))

/-- The pieces of a byte sequence. -/
def utf8Pieces (bytes : List UInt8) : List Utf8Piece :=
  utf8PiecesWithin bytes.length bytes

/-- The characters of a byte sequence, if it is UTF-8 throughout. -/
def decodeUtf8? (bytes : List UInt8) : Option (List Char) :=
  (utf8Pieces bytes).mapM fun
    | .char c => some c
    | .stray _ => none

/-- The bytes of a text. -/
def encodeUtf8 (text : List Char) : List UInt8 :=
  (String.ofList text).toUTF8.toList

/-- A byte sequence in double quotes, with escapes for what is not visible. -/
def quotedBytes (bytes : List UInt8) : String :=
  .ofList ('"' :: ((utf8Pieces bytes).flatMap fun
    | .char c => showChar true c
    | .stray b => showByte b) ++ ['"'])

end Shortlink.Text
