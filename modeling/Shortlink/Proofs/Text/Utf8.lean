import Shortlink.Proofs.Text.Bytes
import Shortlink.Text.Utf8

/-!
# Texts come back from their bytes

A character's first byte tells how many bytes it has, and no byte of it is stray. So the bytes of
a text are read as this text again, one character after the other.
-/

namespace Shortlink.Text

theorem encodeUtf8_eq (text : List Char) : encodeUtf8 text = bytes text := by
  rw [encodeUtf8, toUTF8_toList, String.toList_ofList]

/-- A continuation byte carries its last six bits. -/
theorem continuation?_ofNat {low high value : Nat} (atLeast : low ≤ value) (atMost : value ≤ high)
    (isByte : value < 256) : continuation? low high (UInt8.ofNat value) = some (value % 64) := by
  rw [continuation?, UInt8.toNat_ofNat_of_lt' isByte]
  exact if_pos ⟨atLeast, atMost⟩

/-- The bytes of a character are taken off together, whatever follows them. -/
theorem leadingChar_append (c : Char) (rest : List UInt8) :
    leadingChar (String.utf8EncodeChar c ++ rest) =
      .inl (c, (String.utf8EncodeChar c).length) := by
  have valid : c.val.toNat < 0xD800 ∨ 0xDFFF < c.val.toNat ∧ c.val.toNat < 0x110000 := c.valid
  have isChar : Char.ofNat c.val.toNat = c := Char.ofNat_toNat c
  simp only [String.utf8EncodeChar]
  generalize c.val.toNat = value at valid isChar
  have lead {byte : Nat} (isByte : byte < 256) : (UInt8.ofNat byte).toNat = byte :=
    UInt8.toNat_ofNat_of_lt' isByte
  -- The lowest second byte depends on the first one, which rules out overlong forms and surrogates.
  split_ifs with one two three <;>
    simp only [List.cons_append, List.nil_append, leadingChar, List.head?_cons, Option.bind_some,
      List.getElem?_cons_succ, List.getElem?_cons_zero]
  · rw [lead (by omega), if_pos (by omega), isChar]
    rfl
  · rw [lead (by omega), if_neg (by omega), if_pos (by omega),
      continuation?_ofNat (by omega) (by omega) (by omega)]
    simp only [← isChar]
    congr
    omega
  · rw [lead (by omega), if_neg (by omega), if_neg (by omega), if_pos (by omega),
      continuation?_ofNat (by split_ifs <;> omega) (by split_ifs <;> omega) (by omega),
      continuation?_ofNat (by omega) (by omega) (by omega)]
    simp only [← isChar]
    congr
    omega
  · rw [lead (by omega), if_neg (by omega), if_neg (by omega), if_neg (by omega),
      if_pos (by omega),
      continuation?_ofNat (by split_ifs <;> omega) (by split_ifs <;> omega) (by omega),
      continuation?_ofNat (by omega) (by omega) (by omega),
      continuation?_ofNat (by omega) (by omega) (by omega)]
    simp only [← isChar]
    congr
    omega

theorem utf8PiecesWithin_bytes {steps : Nat} {text : List Char}
    (enough : (bytes text).length ≤ steps) :
    utf8PiecesWithin steps (bytes text) = text.map .char := by
  induction text generalizing steps with
  | nil => cases steps <;> rfl
  | cons c text induction =>
      have isCons : bytes (c :: text) = String.utf8EncodeChar c ++ bytes text := List.flatMap_cons
      have leads := leadingChar_append c (bytes text)
      rw [isCons] at enough ⊢
      obtain ⟨first, more, isFirst⟩ :=
        List.exists_cons_of_ne_nil (String.utf8EncodeChar_ne_nil (c := c))
      rw [isFirst, List.cons_append] at enough leads ⊢
      cases steps with
      | zero => simp at enough
      | succ steps =>
          have fits : (bytes text).length ≤ steps := by
            simp only [List.length_cons, List.length_append] at enough
            omega
          simp only [utf8PiecesWithin, leads, List.length_cons, Nat.add_sub_cancel,
            List.drop_left, induction fits, List.map_cons]

theorem decodeUtf8?_encodeUtf8 (text : List Char) :
    decodeUtf8? (encodeUtf8 text) = some text := by
  rw [decodeUtf8?, utf8Pieces, encodeUtf8_eq, utf8PiecesWithin_bytes (Nat.le_refl _)]
  induction text with
  | nil => rfl
  | cons c text induction => simp [induction]

end Shortlink.Text
