import Mathlib.Data.Int.Order.Basic
import Mathlib.Data.List.Lex
import Shortlink.Time.Moment

/-!
# The order of moments

Moments are compared part by part, the most significant part first. All moments have equally many
parts, so this is the dictionary order of lists, and moments are linearly ordered.
-/

namespace Shortlink.Time.Moment

variable {moment other : Moment}

theorem parts_injective (same : moment.parts = other.parts) : moment = other := by
  rcases moment with ⟨⟨_, _, _⟩, _, _, _, _⟩
  rcases other with ⟨⟨_, _, _⟩, _, _, _, _⟩
  simp only [parts, List.cons.injEq, Int.natCast_inj] at same
  obtain ⟨rfl, rfl, rfl, rfl, rfl, rfl, rfl, -⟩ := same
  rfl

/-- A moment is at most another one if its parts are so in dictionary order. -/
instance : PartialOrder Moment :=
  @PartialOrder.lift Moment (List Int) LinearOrder.toPartialOrder parts fun _ _ => parts_injective

protected theorem le_total (moment other : Moment) : moment ≤ other ∨ other ≤ moment :=
  le_total moment.parts other.parts

theorem listLt_iff {xs ys : List Int} (length : xs.length = ys.length) :
    listLt xs ys = true ↔ xs < ys := by
  induction xs generalizing ys with
  | nil =>
      cases ys with
      | nil => simp [listLt]
      | cons y ys => contradiction
  | cons x xs ih =>
      cases ys with
      | nil => contradiction
      | cons y ys =>
          rw [List.cons_lt_cons_iff, ← ih (Nat.succ.inj length), listLt]
          simp

theorem isBefore_eq_false_iff : moment.isBefore other = false ↔ other ≤ moment := by
  have length : moment.parts.length = other.parts.length := rfl
  rw [← Bool.not_eq_true, isBefore, listLt_iff length, not_lt]
  rfl

end Shortlink.Time.Moment
