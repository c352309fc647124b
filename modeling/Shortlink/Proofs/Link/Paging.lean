import Shortlink.Proofs.Cache.Coherence
import Shortlink.Proofs.Calls.Sequence
import Shortlink.Proofs.Script.Conversation
import Shortlink.Proofs.Script.Ends
import Shortlink.Proofs.Store.Listing

/-!
# Paging

A page that is not in the cache is as many rows of the listing as it may have, after those of the
pages before. Their number is a product that is computed only then, and nothing bounds the number
of a page from above, so the offset of a late page is not a signed 64-bit number any more. Without
a cache, the pages up to the last row put together are the listing, and all further ones are
empty.
-/

namespace Shortlink

namespace Paging

open Cache (Codec seen pageKey)

variable {service : LinkService} {page size : Int}

/-! ## What a page asks for -/

/-- What is said to cache a page, if it can be written. -/
inductive Kept (service : LinkService) (page size : Int) (views : List LinkView) :
    List Saying → Prop where
  | unwritten (unwritable : LinkView.codec.list.encode? views = none) :
      Kept service page size views []
  | written {text : String} (isText : LinkView.codec.list.encode? views = some text)
      (reply : Except CacheError Unit) :
      Kept service page size views
        [⟨.cacheSet (pageKey page size) text service.cacheTtl, reply⟩]

/-- How a page is listed: it is in the cache, or its offset is no signed 64-bit number, or the
store fails to list it, or the store lists it and it is cached. -/
inductive Listed (service : LinkService) (page size : Int)
    (found : Except CacheError (Option String)) :
    List Saying → Except Abort (Except Failure (List LinkView)) → Prop where
  | cached {views : List LinkView} (isSeen : seen LinkView.codec.list found = some views) :
      Listed service page size found [⟨.cacheGet (pageKey page size), found⟩] (.ok (.ok views))
  | outside (unseen : seen LinkView.codec.list found = none)
      (tooFar : Number.maxSigned64 < (page - 1) * size) :
      Listed service page size found [⟨.cacheGet (pageKey page size), found⟩]
        (.error .offsetOverflow)
  | unanswered (unseen : seen LinkView.codec.list found = none)
      (fits : (page - 1) * size ≤ Number.maxSigned64) (failure : Failure) :
      Listed service page size found
        [⟨.cacheGet (pageKey page size), found⟩,
          ⟨.listLinks ((page - 1) * size) size, .error failure⟩]
        (.ok (.error failure))
  | loaded (unseen : seen LinkView.codec.list found = none)
      (fits : (page - 1) * size ≤ Number.maxSigned64) (links : List Link) {kept : List Saying}
      (isKept : Kept service page size (links.map Link.view) kept) :
      Listed service page size found
        (⟨.cacheGet (pageKey page size), found⟩ ::
          ⟨.listLinks ((page - 1) * size) size, .ok links⟩ :: kept)
        (.ok (.ok (links.map Link.view)))

variable {found : Except CacheError (Option String)} {said : List Saying}
  {result : Except Abort (Except Failure (List LinkView))}

theorem listed_of_converses (first : 1 ≤ page) (some : 1 ≤ size)
    (few : size ≤ LinkService.maxPageSize)
    (talk : (service.list page size).attempt.Converses said result) :
    ∃ found, Listed service page size found said result := by
  rw [Coherence.list_eq_of_accepted service first some few, Cache.getOrLoad_eq] at talk
  obtain ⟨found, talk⟩ := talk
  refine ⟨found, ?_⟩
  cases isSeen : seen LinkView.codec.list found with
  | some views =>
      simp only [isSeen] at talk
      cases talk
      exact .cached isSeen
  | none =>
      simp only [isSeen, Coherence.loadPage_eq] at talk
      by_cases fits : (page - 1) * size ≤ Number.maxSigned64
      · rw [if_pos fits] at talk
        obtain ⟨reply, talk⟩ := talk
        cases reply with
        | error failure =>
            cases talk
            exact .unanswered isSeen fits failure
        | ok links =>
            simp only [Script.andThen_done, Cache.keep_eq] at talk
            cases written : LinkView.codec.list.encode? (links.map Link.view) with
            | none =>
                rw [written] at talk
                cases talk
                exact .loaded isSeen fits links (.unwritten written)
            | some text =>
                rw [written] at talk
                obtain ⟨reply, talk⟩ := talk
                cases talk
                exact .loaded isSeen fits links (.written written reply)
      · rw [if_neg fits] at talk
        cases talk
        exact .outside isSeen (not_le.mp fits)

/-- A page asks the store for its own rows only, and their offset is a signed 64-bit number. -/
theorem Listed.offset (listed : Listed service page size found said result) (first : 1 ≤ page)
    (some : 1 ≤ size) {start limit : Int} (asked : .listLinks start limit ∈ said.map Said.request) :
    start = (page - 1) * size ∧ limit = size ∧ 0 ≤ start ∧ start ≤ Number.maxSigned64 := by
  have positive : 0 ≤ (page - 1) * size := Int.mul_nonneg (by omega) (by omega)
  cases listed with
  | cached isSeen => simp at asked
  | outside unseen tooFar => simp at asked
  | unanswered unseen fits failure =>
      obtain ⟨rfl, rfl⟩ : start = (page - 1) * size ∧ limit = size := by simpa using asked
      exact ⟨rfl, rfl, positive, fits⟩
  | loaded unseen fits links isKept =>
      obtain ⟨rfl, rfl⟩ : start = (page - 1) * size ∧ limit = size := by
        cases isKept with
        | unwritten unwritable => simpa using asked
        | written isText reply => simpa using asked
      exact ⟨rfl, rfl, positive, fits⟩

/-- What listing a page comes to. -/
theorem Listed.returns_iff (listed : Listed service page size found said result) :
    ((∃ answer, result = .ok answer) ↔ (page - 1) * size ≤ Number.maxSigned64 ∨
      ∃ views, seen LinkView.codec.list found = some views) ∧
    ((∃ answer, result = .ok answer) ∨ result = .error .offsetOverflow) := by
  cases listed with
  | cached isSeen => exact ⟨⟨fun _ => .inr ⟨_, isSeen⟩, fun _ => ⟨_, rfl⟩⟩, .inl ⟨_, rfl⟩⟩
  | outside unseen tooFar =>
      refine ⟨⟨fun returned => ?_, fun holds => ?_⟩, .inr rfl⟩
      · obtain ⟨_, returned⟩ := returned
        contradiction
      · rcases holds with fits | ⟨_, isSeen⟩
        · exact absurd fits (not_le.mpr tooFar)
        · rw [unseen] at isSeen
          contradiction
  | unanswered unseen fits failure => exact ⟨⟨fun _ => .inl fits, fun _ => ⟨_, rfl⟩⟩, .inl ⟨_, rfl⟩⟩
  | loaded unseen fits links isKept =>
      exact ⟨⟨fun _ => .inl fits, fun _ => ⟨_, rfl⟩⟩, .inl ⟨_, rfl⟩⟩

/-! ## Without a cache -/

/-- Nothing is cached over this store. -/
def Uncached (store : Store) (shared : Shared) : Prop :=
  shared.store = store ∧ shared.cache = none

/-- The first pages, one after another, put together. -/
def firstPages (service : LinkService) (size : Nat) : Nat → Action (List LinkView)
  | 0 => pure []
  | count + 1 => do
    let earlier ← firstPages service size count
    let last ← service.list (count + 1) size
    pure (earlier ++ last)

theorem firstPages_succ (service : LinkService) (size count : Nat) :
    (firstPages service size (count + 1)).attempt =
      (firstPages service size count).attempt.andThen fun
        | .error failure => .done (.error failure)
        | .ok earlier =>
          (service.list (count + 1) size).attempt.andThen fun
            | .error failure => .done (.error failure)
            | .ok last => .done (.ok (earlier ++ last)) := by
  apply Script.andThen_congr
  intro begins
  cases begins with
  | error failure => rfl
  | ok earlier =>
      apply Script.andThen_congr
      intro listed
      cases listed with
      | error failure => rfl
      | ok last => rfl

variable {store : Store} {shared : Shared}

theorem list_yields (service : LinkService) (first : 1 ≤ page) (some : 1 ≤ size)
    (few : size ≤ LinkService.maxPageSize) (fits : (page - 1) * size ≤ Number.maxSigned64)
    (uncached : Uncached store shared) :
    (service.list page size).attempt.Yields Shared.surroundings
      (fun listed after => listed = .ok (store.page page size) ∧ Uncached store after) shared := by
  obtain ⟨rfl, isDisabled⟩ := uncached
  rcases shared with ⟨store, cache, ticks⟩
  subst isDisabled
  rw [Coherence.list_eq_of_accepted service first some few, Cache.getOrLoad_eq]
  apply Script.Yields.ask
  intro chance
  refine ⟨.ok none, _, rfl, ?_⟩
  simp only [seen, Coherence.loadPage_eq, if_pos fits]
  apply Script.Yields.ask
  intro chance
  refine ⟨.ok (store.list ((page - 1) * size) size), _, rfl, ?_⟩
  simp only [Script.andThen_done, Cache.keep_eq]
  cases LinkView.codec.list.encode? _ with
  | none => exact .done ⟨rfl, rfl, rfl⟩
  | some text =>
      apply Script.Yields.ask
      intro chance
      exact ⟨.ok (), _, rfl, .done ⟨rfl, rfl, rfl⟩⟩

/-- The first pages are the beginning of the listing, as long as their offsets are signed 64-bit
numbers. -/
theorem firstPages_yields (service : LinkService) {size : Nat} (some : 1 ≤ size)
    (few : size ≤ LinkService.maxPageSize) {count : Nat}
    (fits : ∀ before < count, before * size ≤ Number.maxSigned64)
    (uncached : Uncached store shared) :
    (firstPages service size count).attempt.Yields Shared.surroundings
      (fun listed after => listed = .ok ((store.activeLinks.take (count * size)).map Link.view) ∧
        Uncached store after) shared := by
  induction count with
  | zero =>
      refine .done ⟨?_, uncached⟩
      rw [Nat.zero_mul, List.take_zero]
      rfl
  | succ count ih =>
      rw [firstPages_succ]
      apply (ih fun before earlier => fits before (Nat.lt_succ_of_lt earlier)).andThen
      rintro _ after ⟨rfl, uncached⟩
      have offset : ((count + 1 : Int) - 1) * size = count * size := by
        rw [Int.add_sub_cancel]
      have inside : ((count + 1 : Int) - 1) * size ≤ Number.maxSigned64 := by
        rw [offset]
        exact_mod_cast fits count (Nat.lt_succ_self count)
      have listed := list_yields service (by omega) (by omega) few inside uncached
      apply listed.andThen
      rintro _ after ⟨rfl, uncached⟩
      refine .done ⟨?_, uncached⟩
      rw [Store.page, offset, Store.list_eq_take_drop, ← List.map_append, ← List.take_add,
        Nat.succ_mul]

/-- As many pages as it takes for all rows begin before the last row. -/
theorem before_of_lt_count {rows size before : Nat} (positive : 1 ≤ size)
    (isPage : before < (rows + size - 1) / size) : before * size < rows := by
  have fits : (before + 1) * size ≤ rows + size - 1 := (Nat.le_div_iff_mul_le positive).mp isPage
  rw [Nat.succ_mul] at fits
  omega

/-- As many pages as it takes for all rows end after the last row. -/
theorem le_count_mul {size : Nat} (rows : Nat) (positive : 1 ≤ size) :
    rows ≤ (rows + size - 1) / size * size := by
  have split := Nat.div_add_mod' (rows + size - 1) size
  have rest := Nat.mod_lt (rows + size - 1) positive
  omega

/-- After as many pages as show all rows there is nothing on any page. -/
theorem page_eq_nil {size count : Nat} (enough : store.activeLinks.length ≤ count * size)
    (later : count < page) : store.page page size = [] := by
  have behind : (store.activeLinks.length : Int) ≤ (page - 1) * size :=
    calc (store.activeLinks.length : Int)
      _ ≤ (count * size : Nat) := Int.ofNat_le.mpr enough
      _ = count * size := Int.natCast_mul count size
      _ ≤ (page - 1) * size := Int.mul_le_mul_of_nonneg_right (by omega) (by omega)
  rw [Store.page, Store.list_eq_nil behind, List.map_nil]

end Paging

open Paging Cache in
/-- Whoever replies to the listing of a page: it asks the store for the rows of this page only,
with an offset that is a signed 64-bit number. It returns if the offset of the page is such a
number or the page is in the cache, and otherwise it breaks off when it computes the offset. -/
theorem listing_returns_iff (service : LinkService) {page size : Int} (first : 1 ≤ page)
    (positive : 1 ≤ size) (few : size ≤ LinkService.maxPageSize)
    (respondent : Respondent Effect.interface) :
    let said := ((service.list page size).attempt.converse respondent).1
    let result := ((service.list page size).attempt.converse respondent).2
    let found := respondent [] (.cacheGet (pageKey page size))
    (∀ start limit, .listLinks start limit ∈ said.map Said.request →
      start = (page - 1) * size ∧ limit = size ∧ 0 ≤ start ∧ start ≤ Number.maxSigned64) ∧
    ((∃ answer, result = .ok answer) ↔ (page - 1) * size ≤ Number.maxSigned64 ∨
      ∃ views, seen LinkView.codec.list found = some views) ∧
    ((∃ answer, result = .ok answer) ∨ result = .error .offsetOverflow) := by
  intro said result found
  have talk : (service.list page size).attempt.Converses said result :=
    Script.converses_converse _ respondent
  have begins : ∃ rest, said = ⟨.cacheGet (pageKey page size), found⟩ :: rest := by
    simp only [said, Coherence.list_eq_of_accepted service first positive few, getOrLoad_eq]
    exact Script.exists_converse_ask _ _ respondent
  clear_value said result found
  obtain ⟨other, listed⟩ := listed_of_converses first positive few talk
  have same : other = found := by
    obtain ⟨rest, begins⟩ := begins
    cases listed with
    | cached isSeen | outside unseen tooFar | unanswered unseen fits failure
    | loaded unseen fits links isKept =>
        cases begins
        rfl
  subst same
  exact ⟨fun _ _ => listed.offset first positive, listed.returns_iff⟩

/-- The second page is listed whoever replies. -/
theorem listing_returns_iff_of_second_page :
    (1 : Int) ≤ 2 ∧ (1 : Int) ≤ 2 ∧ (2 : Int) ≤ LinkService.maxPageSize ∧
      ∀ respondent, ∃ answer,
        (((LinkService.mk .standard none 1).list 2 2).attempt.converse respondent).2 =
          .ok answer := by
  have first : (1 : Int) ≤ 2 := by decide
  have few : (2 : Int) ≤ LinkService.maxPageSize := by decide
  refine ⟨first, first, few, fun respondent => ?_⟩
  have returns := listing_returns_iff ⟨.standard, none, 1⟩ first first few respondent
  exact returns.2.1.mpr (.inl (by decide))

/-- The last page of two that has a number is not listed, although there is nothing before it. -/
theorem listing_breaks_off_at_last_page :
    let page : Int := 9223372036854775807
    let service : LinkService := ⟨.standard, none, 1⟩
    let shared : Shared := ⟨{}, none, 0⟩
    1 ≤ page ∧ page ≤ Number.maxSigned64 ∧ (2 : Int) ≤ LinkService.maxPageSize ∧
      ∀ chances, (shared.perform chances (service.list page 2).attempt).1 =
        .error .offsetOverflow := by
  refine ⟨by decide, by decide, by decide, fun chances => ?_⟩
  rfl

open Paging in
/-- Without a cache, the pages that it takes for all active rows, put together, show each of them
once, the newest first, and those created at one moment in the order in which they are stored. All
further pages are empty, as far as their offsets are signed 64-bit numbers. The rows are in memory,
so there are not more of them than such a number can count. -/
theorem pages_show_the_listing (service : LinkService) (store : Store) (ticks : Nat) {size : Nat}
    (positive : 1 ≤ size) (few : size ≤ LinkService.maxPageSize)
    (inMemory : store.links.length ≤ Number.maxSigned64) :
    let rows := store.links.filter Link.isActive
    let count := (rows.length + size - 1) / size
    let shared : Shared := ⟨store, none, ticks⟩
    ∃ listing, IsListing rows listing ∧ ∀ chances,
      (shared.perform chances (firstPages service size count).attempt).1 =
        .ok (.ok (listing.map Link.view)) ∧
      ∀ page : Int, count < page → (page - 1) * size ≤ Number.maxSigned64 →
        (shared.perform chances (service.list page size).attempt).1 = .ok (.ok []) := by
  intro rows count shared
  have uncached : Uncached store shared := ⟨rfl, rfl⟩
  have isListing := store.activeLinks_isListing
  have length : store.activeLinks.length = rows.length := isListing.perm.length_eq
  have enough : rows.length ≤ count * size := le_count_mul rows.length positive
  refine ⟨store.activeLinks, isListing, fun chances => ⟨?_, ?_⟩⟩
  · have fits : ∀ before < count, before * size ≤ Number.maxSigned64 := by
      intro before isPage
      have inside : before * size < rows.length := before_of_lt_count positive isPage
      exact (inside.le.trans (List.length_filter_le _ _)).trans inMemory
    obtain ⟨_, after, performed, rfl, -⟩ :=
      (firstPages_yields service positive few fits uncached).perform chances
    rw [Shared.perform, performed, List.take_of_length_le (length ▸ enough)]
  · intro page later fits
    have first : 1 ≤ page := (Int.natCast_nonneg count).trans_lt later
    obtain ⟨_, after, performed, rfl, -⟩ :=
      (list_yields service first (by omega) few fits uncached).perform chances
    rw [Shared.perform, performed, page_eq_nil (length ▸ enough) later]

open Paging in
open Time in
/-- Two pages of two show three rows, of which the first was created before the others, which were
created at one moment. A removed row between them is on no page. -/
theorem pages_show_the_listing_of_three :
    let morning : Moment := ⟨⟨2026, 1, 2, by decide, by decide, by decide⟩, 8, 0, 0, 0,
      by decide, by decide, by decide, by decide⟩
    let noon : Moment := ⟨⟨2026, 1, 2, by decide, by decide, by decide⟩, 12, 0, 0, 0,
      by decide, by decide, by decide, by decide⟩
    let row (code : String) (audit : Audit) := Link.restore ⟨0⟩ "https://example.com" code "" audit
    let first := row "a" (.begun morning)
    let second := row "b" (.begun noon)
    let removed := row "c" ⟨noon, some noon, false⟩
    let third := row "d" (.begun noon)
    let store : Store := { links := [first, second, removed, third] }
    let service : LinkService := ⟨.standard, none, 1⟩
    let shared : Shared := ⟨store, none, 0⟩
    1 ≤ 2 ∧ ((2 : Nat) : Int) ≤ LinkService.maxPageSize ∧
      store.links.length ≤ Number.maxSigned64 ∧ ∀ chances,
        (shared.perform chances (firstPages service 2 2).attempt).1 =
          .ok (.ok [second.view, third.view, first.view]) ∧
        (shared.perform chances (service.list 3 2).attempt).1 = .ok (.ok []) := by
  intro morning noon row first second removed third store service shared
  have positive : 1 ≤ 2 := by decide
  have few : ((2 : Nat) : Int) ≤ LinkService.maxPageSize := by decide
  have inMemory : store.links.length ≤ Number.maxSigned64 := by decide
  obtain ⟨listing, isListing, pages⟩ :=
    pages_show_the_listing service store 0 positive few inMemory
  have expected : IsListing (store.links.filter Link.isActive) [second, third, first] := by
    constructor
    · decide
    · simp only [← Moment.isBefore_eq_false_iff]
      decide
    · decide
  obtain rfl := isListing.unique expected
  have count : ((store.links.filter Link.isActive).length + 2 - 1) / 2 = 2 := by decide
  rw [count] at pages
  refine ⟨positive, few, inMemory, fun chances => ?_⟩
  obtain ⟨shown, empty⟩ := pages chances
  exact ⟨shown, empty 3 (by decide) (by decide)⟩

end Shortlink
