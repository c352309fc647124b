import Mathlib.Data.List.Basic
import Shortlink.Cache.Key
import Shortlink.Cache.Memory
import Shortlink.Proofs.Text.Integer

/-!
# Keys are told apart

Different answers are cached under different keys, and the stem of the listing covers the
keys of all pages and of no code.
-/

namespace Shortlink.Cache

theorem codeKey_injective {code other : String} (same : codeKey code = codeKey other) :
    code = other := by
  rw [codeKey, codeKey, ← String.toList_inj, String.toList_append, String.toList_append] at same
  rw [← String.toList_inj]
  exact List.append_cancel_left same

theorem hasStem_pageKey (page size : Int) :
    Memory.hasStem listStem (pageKey page size) = true := by
  rw [Memory.hasStem, List.isPrefixOf_iff_prefix, pageKey]
  simp only [String.toList_append, List.append_assoc]
  exact List.prefix_append _ _

theorem hasStem_codeKey (code : String) : Memory.hasStem listStem (codeKey code) = false := by
  rw [Memory.hasStem, codeKey, String.toList_append]
  rfl

theorem codeKey_ne_pageKey (code : String) (page size : Int) :
    codeKey code ≠ pageKey page size := by
  intro same
  have stem := hasStem_pageKey page size
  rw [← same, hasStem_codeKey] at stem
  contradiction

theorem repr_injective {n m : Nat} (same : n.repr = m.repr) : n = m := by
  rw [← Text.value_repr n, same, Text.value_repr]

theorem repr_ne_signed (n : Nat) (text : String) : n.repr ≠ "-" ++ text := by
  intro same
  have sign : '-' ∈ n.repr.toList := by
    rw [same, String.toList_append]
    exact List.mem_cons_self
  have isDigit := Text.isDigit_of_mem_repr sign
  contradiction

theorem toString_injective {n m : Int} (same : toString n = toString m) : n = m := by
  rw [Int.toString_eq_repr, Int.toString_eq_repr, Int.repr_eq_if, Int.repr_eq_if] at same
  split at same
  · split at same
    · have values := repr_injective same
      omega
    · exact absurd same (repr_ne_signed _ _)
  · split at same
    · exact absurd same.symm (repr_ne_signed _ _)
    · rw [← String.toList_inj, String.toList_append, String.toList_append] at same
      have values := repr_injective (String.toList_inj.mp (List.append_cancel_left same))
      omega

theorem colon_not_mem_toString (n : Int) : ':' ∉ (toString n).toList := by
  rw [Int.toString_eq_repr, Int.repr_eq_if]
  intro member
  split at member
  · have isDigit := Text.isDigit_of_mem_repr member
    contradiction
  · rw [String.toList_append, List.mem_append] at member
    rcases member with sign | digit
    · revert sign
      decide
    · have isDigit := Text.isDigit_of_mem_repr digit
      contradiction

theorem pageKey_injective {page size otherPage otherSize : Int}
    (same : pageKey page size = pageKey otherPage otherSize) :
    page = otherPage ∧ size = otherSize := by
  rw [pageKey, pageKey, ← String.toList_inj] at same
  simp only [String.toList_append, List.append_assoc] at same
  have numbers : (toString page).toList ++ ':' :: (toString size).toList =
      (toString otherPage).toList ++ ':' :: (toString otherSize).toList :=
    List.append_cancel_left (List.append_cancel_left same)
  rw [List.append_cons_inj_of_notMem (colon_not_mem_toString page)
    (colon_not_mem_toString size), String.toList_inj, String.toList_inj] at numbers
  exact ⟨toString_injective numbers.1, toString_injective numbers.2.2⟩

end Shortlink.Cache
