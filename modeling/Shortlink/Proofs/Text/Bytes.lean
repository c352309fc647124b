import Mathlib.Data.List.Nodup

/-!
# The order of bytes

UTF-8 keeps the order of texts. The bytes of two different characters differ before either of them
ends, and where they differ first the greater byte belongs to the greater character. So texts that
are compared byte by byte are compared character by character.
-/

namespace Shortlink.Text

/-- The bytes of a text. -/
def bytes (text : List Char) : List UInt8 := text.flatMap String.utf8EncodeChar

theorem toList_loop (array : ByteArray) (i : Nat) (read : List UInt8) :
    ByteArray.toList.loop array i read = read.reverse ++ array.data.toList.drop i := by
  fun_induction ByteArray.toList.loop array i read with
  | case1 i read inside ih =>
      have isByte : i < array.data.toList.length := by simpa using inside
      rw [ih, List.drop_eq_getElem_cons isByte]
      simp [ByteArray.get!, inside]
  | case2 i read outside =>
      rw [List.drop_eq_nil_of_le (by simpa using Nat.le_of_not_lt outside)]
      simp

theorem toUTF8_toList (text : String) : text.toUTF8.toList = bytes text.toList := by
  rw [ByteArray.toList, toList_loop, String.toUTF8, ← String.utf8Encode_toList, List.utf8Encode,
    List.toList_data_toByteArray]
  rfl

/-- The smaller of two characters has the smaller bytes, whatever follows them. -/
theorem utf8EncodeChar_append_lt {c d : Char} (less : c < d) (rest other : List UInt8) :
    String.utf8EncodeChar c ++ rest < String.utf8EncodeChar d ++ other := by
  have less : c.val.toNat < d.val.toNat := less
  have last : d.val.toNat < 1114112 := by
    have := d.valid
    omega
  simp only [String.utf8EncodeChar]
  split_ifs <;>
    simp only [List.cons_append, List.nil_append, List.cons_lt_cons_iff, UInt8.lt_iff_toNat_lt,
      ← UInt8.toNat_inj, UInt8.toNat_ofNat'] <;>
    simp (disch := omega) only [Nat.mod_eq_of_lt] <;>
    omega

theorem bytes_lt {text other : List Char} (less : text < other) : bytes text < bytes other := by
  induction text generalizing other with
  | nil =>
      cases other with
      | nil => exact absurd less (List.not_lt_nil _)
      | cons d other =>
          have nonempty : bytes (d :: other) ≠ [] := by
            simp [bytes, String.utf8EncodeChar_ne_nil]
          obtain ⟨byte, rest, isCons⟩ := List.exists_cons_of_ne_nil nonempty
          rw [isCons]
          exact List.nil_lt_cons byte rest
  | cons c text ih =>
      cases other with
      | nil => exact absurd less (List.not_lt_nil _)
      | cons d other =>
          rw [List.cons_lt_cons_iff] at less
          rw [bytes, bytes, List.flatMap_cons, List.flatMap_cons]
          rcases less with less | ⟨rfl, less⟩
          · exact utf8EncodeChar_append_lt less _ _
          · exact List.append_left_lt (ih less)

theorem bytes_lt_iff {text other : List Char} : bytes text < bytes other ↔ text < other := by
  constructor
  · intro less
    by_contra notLess
    rcases List.le_iff_lt_or_eq.mp (List.not_lt.mp notLess) with greater | rfl
    · exact List.lt_asymm (bytes_lt greater) less
    · exact List.lt_irrefl _ less
  · exact bytes_lt

end Shortlink.Text
