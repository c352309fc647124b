import Mathlib.Data.List.Perm.Basic
import Shortlink.Proofs.Time.Order
import Shortlink.Store.Tables

/-!
# The listing of the active rows

The store sorts its active rows anew for every page. The sort is stable, so rows that were created
at one moment keep the order in which they are stored, and there is only one listing. All pages
are cut out of it, one next to the other.
-/

namespace Shortlink

/-- Rows in the order of a listing: each as often as it is stored, the newest first, and those
created at one moment in the order in which they are stored. -/
structure IsListing (rows listing : List Link) : Prop where
  perm : listing.Perm rows
  newestFirst : listing.Pairwise fun row next => next.audit.created ≤ row.audit.created
  stable : ∀ row ∈ rows, listing.filter (·.audit.created = row.audit.created) =
    rows.filter (·.audit.created = row.audit.created)

namespace IsListing

variable {row first : Link} {rows rest others : List Link}

/-- The first row of a listing is at least as new as all of them. -/
theorem le_first {link : Link} (isListing : IsListing rows (row :: rest)) (member : link ∈ rows) :
    link.audit.created ≤ row.audit.created := by
  rcases List.mem_cons.mp (isListing.perm.mem_iff.mpr member) with rfl | later
  · exact le_rfl
  · exact (List.pairwise_cons.mp isListing.newestFirst).1 link later

/-- Without its first row a listing is one of the other rows. -/
theorem tail (isListing : IsListing rows (row :: rest)) : IsListing (rows.erase row) rest where
  perm := (List.cons_perm_iff_perm_erase.mp isListing.perm).2
  newestFirst := (List.pairwise_cons.mp isListing.newestFirst).2
  stable other member := by
    have stable := isListing.stable other (List.mem_of_mem_erase member)
    rw [← List.erase_filter, ← stable, List.erase_filter, List.erase_cons_head]

/-- Rows can be listed in one order only. -/
theorem unique {listing other : List Link} (isListing : IsListing rows listing)
    (isOther : IsListing rows other) : listing = other := by
  induction listing generalizing rows other with
  | nil => exact (isListing.perm.trans isOther.perm.symm).nil_eq
  | cons row rest ih =>
      cases other with
      | nil => exact (isOther.perm.trans isListing.perm.symm).nil_eq.symm
      | cons first others =>
          have isRow : first ∈ rows := isOther.perm.subset List.mem_cons_self
          have sameMoment : row.audit.created = first.audit.created :=
            le_antisymm (isOther.le_first (isListing.perm.subset List.mem_cons_self))
              (isListing.le_first isRow)
          have stable := (isListing.stable first isRow).trans (isOther.stable first isRow).symm
          rw [List.filter_cons_of_pos (by simpa using sameMoment),
            List.filter_cons_of_pos (by simp)] at stable
          obtain ⟨rfl, -⟩ := List.cons.inj stable
          rw [ih isListing.tail isOther.tail]

end IsListing

namespace Store

theorem listedFirst_iff {link other : Link} :
    listedFirst link other = true ↔ other.audit.created ≤ link.audit.created := by
  rw [listedFirst, Bool.not_eq_true', Time.Moment.isBefore_eq_false_iff]

theorem listedFirst_trans (link middle other : Link) (before : listedFirst link middle = true)
    (after : listedFirst middle other = true) : listedFirst link other = true := by
  rw [listedFirst_iff] at before after ⊢
  exact after.trans before

theorem listedFirst_total (link other : Link) :
    (listedFirst link other || listedFirst other link) = true := by
  rw [Bool.or_eq_true, listedFirst_iff, listedFirst_iff]
  exact Time.Moment.le_total _ _

/-- The sort is stable: elements that may stand in any order keep the one they have. -/
theorem filter_mergeSort {α : Type} {le : α → α → Bool} {select : α → Bool}
    (trans : ∀ x y z, le x y = true → le y z = true → le x z = true)
    (total : ∀ x y, (le x y || le y x) = true)
    (alike : ∀ x y, select x = true → select y = true → le x y = true) (rows : List α) :
    (rows.mergeSort le).filter select = rows.filter select := by
  have sorted : (rows.filter select).Pairwise (le · ·) := by
    apply List.pairwise_of_forall_mem_list
    intro x memberX y memberY
    exact alike x y (List.mem_filter.mp memberX).2 (List.mem_filter.mp memberY).2
  have kept : (rows.filter select).Sublist (rows.mergeSort le) :=
    List.sublist_mergeSort trans total sorted List.filter_sublist
  have inOrder : (rows.filter select).Sublist ((rows.mergeSort le).filter select) := by
    simpa using kept.filter select
  have perm := (List.mergeSort_perm rows le).filter select
  exact (inOrder.eq_of_length perm.length_eq.symm).symm

/-- The store lists its active rows. -/
theorem activeLinks_isListing (store : Store) :
    IsListing (store.links.filter Link.isActive) store.activeLinks where
  perm := List.mergeSort_perm _ _
  newestFirst :=
    (List.pairwise_mergeSort listedFirst_trans listedFirst_total _).imp listedFirst_iff.mp
  stable row _ := by
    apply filter_mergeSort listedFirst_trans listedFirst_total
    intro link other sameMoment otherToo
    rw [listedFirst_iff, of_decide_eq_true sameMoment, of_decide_eq_true otherToo]

/-! ## Pages -/

/-- A page is cut out of the listing, after as many rows as the pages before it have. -/
theorem list_eq_take_drop (store : Store) (before size : Nat) :
    store.list (before * size) size = (store.activeLinks.drop (before * size)).take size := by
  rw [list, Int.toNat_natCast, ← Int.natCast_mul, Int.toNat_natCast]

/-- Behind the listing all pages are empty. -/
theorem list_eq_nil {store : Store} {offset : Int} (behind : store.activeLinks.length ≤ offset)
    (limit : Int) : store.list offset limit = [] := by
  rw [list, List.drop_eq_nil_of_le (by omega), List.take_nil]

end Store

end Shortlink
