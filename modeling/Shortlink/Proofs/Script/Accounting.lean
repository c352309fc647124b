import Mathlib.Algebra.BigOperators.Group.Finset.Piecewise
import Mathlib.Algebra.GroupWithZero.Nat
import Mathlib.Algebra.Order.BigOperators.Group.Finset
import Shortlink.Proofs.Script.Interleaving

/-!
# Accounts of calls

What all calls have done together is the sum of what each of them has done. So where no call
spends more than it has got, all of them together have not.
-/

namespace Shortlink.Course

variable {ι σ α : Type} {I : Interface} [DecidableEq ι]

/-- The weights of all exchanges add up to those of the callers, if all of these are counted. -/
theorem sum_own (weight : Exchange ι I σ → Nat) (course : Course ι I σ) (callers : Finset ι)
    (counted : ∀ exchange ∈ course.history, exchange.call ∈ callers) :
    ∑ call ∈ callers, ((course.own call).map weight).sum = (course.history.map weight).sum := by
  rcases course with ⟨history, state⟩
  simp only [own]
  induction history with
  | nil => simp
  | cons exchange rest ih =>
      rw [List.forall_mem_cons] at counted
      have split : ∀ call ∈ callers,
          (((exchange :: rest).filter (·.call = call)).map weight).sum =
            (if exchange.call = call then weight exchange else 0) +
              ((rest.filter (·.call = call)).map weight).sum := by
        intro call _
        by_cases isOwn : exchange.call = call
        · simp [isOwn]
        · simp [isOwn]
      rw [Finset.sum_congr rfl split, Finset.sum_add_distrib, ih counted.2,
        Finset.sum_ite_eq callers exchange.call, if_pos counted.1, List.map_cons, List.sum_cons]

/-- What no call has more often on the one side than on the other, all of them together have
not either. -/
theorem count_le_of_own [DecidableEq α] (spent got : Exchange ι I σ → List α)
    (course : Course ι I σ) (item : α)
    (afforded : ∀ call, ((course.own call).flatMap spent).count item ≤
      ((course.own call).flatMap got).count item) :
    (course.history.flatMap spent).count item ≤ (course.history.flatMap got).count item := by
  let callers := (course.history.map Exchange.call).toFinset
  have counted : ∀ exchange ∈ course.history, exchange.call ∈ callers := by
    intro exchange member
    exact List.mem_toFinset.mpr (List.mem_map_of_mem member)
  simp only [List.count_flatMap] at afforded ⊢
  rw [← course.sum_own _ callers counted, ← course.sum_own _ callers counted]
  exact Finset.sum_le_sum fun call _ => afforded call

end Shortlink.Course
