import Mathlib.Data.List.Induction
import Shortlink.Proofs.Store.Tables

/-!
# Removal and stale copies

A save writes the whole row from the copy at hand, its activity included, and asks for nothing
but the id. So a removed URL stays removed whatever is done, except where somebody still has a
copy that was taken while the URL was active and saves it as modified: the last writer wins.
-/

namespace Shortlink

open Time (Moment)

/-- What a repository of URLs is used for. -/
inductive RepositoryUse where
  /-- Makes a URL, which is not stored by that. -/
  | create (id eventId : Uuid) (now occurred : Moment) (longUrl code shortUrl : String)
  | add (link : Link) (now : Moment)
  | find (code : String)
  | list (offset limit : Int)
  | update (link : Link) (change : Change) (now : Moment)
  /-- Has the next saves fail when they commit. -/
  | failSaves (count : Nat)

/-- A store and the copies of URLs that its users have got hold of. -/
structure Usage where
  store : Store := {}
  held : List Link := []

namespace Usage

/-- Nothing is stored, and nobody holds a copy. -/
def start : Usage := {}

variable (usage : Usage)

/-- After a save, whoever asked for it holds what the aggregate then is. -/
def saved (outcome : SaveOutcome × Store) : Usage :=
  ⟨outcome.2, usage.held ++ [outcome.1.link]⟩

/-- The store and the copies after a use. -/
def step : RepositoryUse → Usage
  | .create id eventId now occurred longUrl code shortUrl =>
    { usage with
      held := usage.held ++ [.create id eventId now occurred longUrl code shortUrl] }
  | .add link now => usage.saved (usage.store.add link now)
  | .find code => { usage with held := usage.held ++ (usage.store.findByCode code).toList }
  | .list offset limit => { usage with held := usage.held ++ usage.store.list offset limit }
  | .update link change now => usage.saved (usage.store.update link change now)
  | .failSaves count => { usage with store := { usage.store with failingSaves := count } }

/-- The store and the copies after one use after another. -/
def run (uses : List RepositoryUse) : Usage := uses.foldl step usage

/-- A URL is a copy that somebody holds, perhaps with other texts or pending events. -/
def Holds (link : Link) : Prop :=
  ∃ copy ∈ usage.held, copy.id = link.id ∧ copy.audit = link.audit

instance (link : Link) : Decidable (usage.Holds link) :=
  inferInstanceAs (Decidable (∃ _ ∈ _, _))

/-- What can be done with a repository: new URLs have new ids, only copies that somebody holds
are saved, and none is saved as new once more. -/
def Allows : RepositoryUse → Prop
  | .create id .. => ∀ link ∈ usage.store.links ++ usage.held, link.id ≠ id
  | .add link _ => usage.Holds link
  | .update link change _ => usage.Holds link ∧ change ≠ .added
  | .find _ | .list _ _ | .failSaves _ => True

instance (use : RepositoryUse) : Decidable (usage.Allows use) :=
  match use with
  | .create .. => inferInstanceAs (Decidable (∀ _ ∈ _, _))
  | .add link _ => inferInstanceAs (Decidable (usage.Holds link))
  | .update _ _ _ => inferInstanceAs (Decidable (_ ∧ _))
  | .find _ | .list _ _ | .failSaves _ => inferInstanceAs (Decidable True)

/-- Each of the uses is allowed at its turn. -/
def AllowsAll (usage : Usage) : List RepositoryUse → Prop
  | [] => True
  | use :: rest => usage.Allows use ∧ (usage.step use).AllowsAll rest

instance decidableAllowsAll (usage : Usage) :
    (uses : List RepositoryUse) → Decidable (usage.AllowsAll uses)
  | [] => inferInstanceAs (Decidable True)
  | use :: rest =>
    have := decidableAllowsAll (usage.step use) rest
    inferInstanceAs (Decidable (_ ∧ _))

theorem run_append (first second : List RepositoryUse) :
    usage.run (first ++ second) = (usage.run first).run second := List.foldl_append

theorem allowsAll_append {first second : List RepositoryUse} :
    usage.AllowsAll (first ++ second) ↔
      usage.AllowsAll first ∧ (usage.run first).AllowsAll second := by
  induction first generalizing usage with
  | nil => exact (and_iff_right trivial).symm
  | cons use rest induction =>
      rw [List.cons_append, AllowsAll, AllowsAll, induction, and_assoc]
      rfl

/-! ## Rows keep their ids apart -/

variable {usage}

theorem nodup_ids_step (distinct : (usage.store.links.map Link.id).Nodup) (use : RepositoryUse) :
    ((usage.step use).store.links.map Link.id).Nodup := by
  cases use with
  | create | find | list | failSaves => exact distinct
  | add link now =>
      rw [step, saved]
      rcases usage.store.add_cases link now with ⟨-, failure, failed⟩ | ⟨-, free, written⟩
      · rw [failed]
        exact distinct
      · rw [written, List.map_append]
        refine distinct.append (List.nodup_singleton _) (List.disjoint_singleton.mpr ?_)
        intro taken
        obtain ⟨row, member, same⟩ := List.mem_map.mp taken
        exact (free row member).2 same
  | update link change now =>
      rw [step, saved]
      rcases usage.store.update_cases link change now with ⟨-, failure, failed⟩ | ⟨-, -, written⟩
      · rw [failed]
        exact distinct
      · rw [written, Store.map_replaceFirst]
        · exact distinct
        · intro row _ found
          exact (beq_iff_eq.mp found).symm

theorem nodup_ids_run (uses : List RepositoryUse) :
    ((start.run uses).store.links.map Link.id).Nodup := by
  induction uses using List.reverseRecOn with
  | nil => exact List.nodup_nil
  | append_singleton front use induction =>
      rw [run_append]
      exact nodup_ids_step induction use

end Usage

/-! ## What a removed URL can come to -/

/-- A URL is stored, and inactive. -/
def Store.IsRemoved (store : Store) (id : Uuid) : Prop :=
  (∃ row ∈ store.links, row.id = id) ∧ ∀ row ∈ store.links, row.id = id → row.isActive = false

/-- A URL that is active according to a copy, and has the audit fields of that copy. -/
def IsStale (copies : List Link) (id : Uuid) (link : Link) : Prop :=
  link.id = id ∧ link.isActive = true ∧ ∃ copy ∈ copies, copy.id = id ∧ copy.audit = link.audit

namespace Usage

/-- A URL is removed, and whoever takes it for active has it from one of the old copies. -/
structure StaysRemoved (copies : List Link) (id : Uuid) (usage : Usage) : Prop where
  removed : usage.store.IsRemoved id
  stale : ∀ link ∈ usage.held, link.id = id → link.isActive = true → IsStale copies id link

/-- Saving a stale copy makes a URL active. -/
def Revives (copies : List Link) (id : Uuid) (usage : Usage) (link : Link) (now : Moment) :
    Prop :=
  IsStale copies id link ∧
    ∃ row ∈ (usage.step (.update link .modified now)).store.links,
      row.id = id ∧ row.isActive = true

variable {copies : List Link} {id : Uuid} {usage : Usage}

/-- Copies of other URLs, and copies that are inactive, are no harm. -/
theorem StaysRemoved.with_held (stays : StaysRemoved copies id usage) {more : List Link}
    (harmless : ∀ link ∈ more, link.id = id → link.isActive = true → IsStale copies id link) :
    StaysRemoved copies id { usage with held := usage.held ++ more } where
  removed := stays.removed
  stale := by
    intro link member
    rcases List.mem_append.mp member with old | new
    · exact stays.stale link old
    · exact harmless link new

theorem StaysRemoved.with_copy (stays : StaysRemoved copies id usage) {link : Link}
    (harmless : link.id = id → link.isActive = true → IsStale copies id link) :
    StaysRemoved copies id { usage with held := usage.held ++ [link] } :=
  stays.with_held fun other member => by
    rw [List.mem_singleton.mp member]
    exact harmless

/-- A copy that somebody holds is as stale as the one that it was made from. -/
theorem StaysRemoved.stale_of_holds (stays : StaysRemoved copies id usage) {link : Link}
    (holds : usage.Holds link) (same : link.id = id) (isActive : link.isActive = true) :
    IsStale copies id link := by
  obtain ⟨copy, member, sameId, sameAudit⟩ := holds
  have copyActive : copy.isActive = true := by
    rw [Link.isActive, sameAudit]
    exact isActive
  obtain ⟨-, -, old, isOld, oldId, oldAudit⟩ :=
    stays.stale copy member (sameId.trans same) copyActive
  exact ⟨same, isActive, old, isOld, oldId, oldAudit.trans sameAudit⟩

/-- Readers get active rows only. -/
theorem StaysRemoved.ne_of_read (stays : StaysRemoved copies id usage) {row : Link}
    (stored : row ∈ usage.store.links) (isActive : row.isActive = true) : row.id ≠ id := by
  intro same
  rw [stays.removed.2 row stored same] at isActive
  contradiction

/-- A save that fails changes nothing for a removed URL. -/
theorem StaysRemoved.saved_of_failed (stays : StaysRemoved copies id usage) {link : Link}
    (holds : usage.Holds link) (failure : Failure) (count : Nat) :
    StaysRemoved copies id
      (usage.saved (⟨.error failure, link⟩, { usage.store with failingSaves := count })) := by
  have kept := stays.with_copy (stays.stale_of_holds holds)
  exact ⟨kept.removed, kept.stale⟩

/-- Neither does a save of another URL, nor one that leaves the row inactive. -/
theorem StaysRemoved.saved_of_written (stays : StaysRemoved copies id usage) {row : Link}
    {outbox : List Message} (stored : ∃ old ∈ usage.store.links, old.id = row.id)
    (harmless : row.id = id → row.isActive = false) :
    StaysRemoved copies id (usage.saved (⟨.ok (), row⟩,
      { usage.store with
        links := Store.replaceFirst (·.id == row.id) (fun _ => row) usage.store.links
        outbox := outbox })) := by
  have kept := stays.with_copy fun same isActive =>
    absurd isActive (Bool.eq_false_iff.mp (harmless same))
  have present : ∃ old ∈ usage.store.links, (old.id == row.id) = true := by simpa using stored
  refine ⟨⟨?_, ?_⟩, kept.stale⟩
  · by_cases same : row.id = id
    · exact ⟨row, Store.mem_replaceFirst_new present, same⟩
    · obtain ⟨removed, isStored, hasId⟩ := stays.removed.1
      refine ⟨removed, Store.mem_replaceFirst_of_not isStored ?_, hasId⟩
      exact beq_eq_false_iff_ne.mpr fun equal => same (equal.symm.trans hasId)
  · intro other member same
    rcases Store.mem_replaceFirst member with old | ⟨-, -, rfl⟩
    · exact stays.removed.2 other old same
    · exact harmless same

theorem StaysRemoved.add (stays : StaysRemoved copies id usage) {link : Link}
    (holds : usage.Holds link) (now : Moment) :
    StaysRemoved copies id (usage.step (.add link now)) := by
  rw [step]
  rcases usage.store.add_cases link now with ⟨-, failure, failed⟩ | ⟨-, free, written⟩
  · rw [failed]
    exact stays.saved_of_failed holds failure _
  · rw [written]
    obtain ⟨⟨row, stored, same⟩, inactive⟩ := stays.removed
    have other : (Store.writtenRow link .added now).id ≠ id := fun equal =>
      (free row stored).2 (same.trans equal.symm)
    refine ⟨⟨⟨row, List.mem_append_left _ stored, same⟩, ?_⟩,
      (stays.with_copy fun equal => absurd equal other).stale⟩
    intro row member
    rcases List.mem_append.mp member with old | new
    · exact inactive row old
    · rw [List.mem_singleton.mp new]
      exact fun equal => absurd equal other

theorem StaysRemoved.update (stays : StaysRemoved copies id usage) {link : Link}
    (holds : usage.Holds link) {change : Change} (known : change ≠ .added) (now : Moment) :
    StaysRemoved copies id (usage.step (.update link change now)) ∨
      change = .modified ∧ Revives copies id usage link now := by
  rw [Revives, step, step]
  rcases usage.store.update_cases link change now with
    ⟨-, failure, failed⟩ | ⟨unstaged, stored, written⟩
  · rw [failed]
    exact .inl (stays.saved_of_failed holds failure _)
  · by_cases revived : link.id = id ∧ (Store.writtenRow link change now).isActive = true
    · right
      -- A removal would have left the row inactive, so this was a change.
      cases change with
      | added => contradiction
      | deleted => cases revived.2
      | modified =>
          refine ⟨rfl, stays.stale_of_holds holds revived.1 revived.2, ?_⟩
          have present : ∃ row ∈ usage.store.links, (row.id == link.id) = true := by
            simpa using stored
          rw [written]
          exact ⟨_, Store.mem_replaceFirst_new present, revived⟩
    · left
      rw [written]
      exact stays.saved_of_written stored fun same =>
        Bool.eq_false_iff.mpr fun isActive => revived ⟨same, isActive⟩

/-- One use keeps a removed URL removed, or it saves a stale copy. -/
theorem StaysRemoved.step (stays : StaysRemoved copies id usage) {use : RepositoryUse}
    (allowed : usage.Allows use) :
    StaysRemoved copies id (usage.step use) ∨
      ∃ link now, use = .update link .modified now ∧ Revives copies id usage link now := by
  cases use with
  | create newId eventId now occurred longUrl code shortUrl =>
      left
      obtain ⟨row, stored, same⟩ := stays.removed.1
      have other : newId ≠ id := fun equal =>
        allowed row (List.mem_append_left _ stored) (same.trans equal.symm)
      exact stays.with_copy fun equal => absurd equal other
  | add link now => exact .inl (stays.add allowed now)
  | find code =>
      left
      refine stays.with_held fun link member same => ?_
      obtain ⟨stored, -, isActive⟩ := Store.findByCode_eq_some (Option.mem_toList.mp member)
      exact absurd same (stays.ne_of_read stored isActive)
  | list offset limit =>
      left
      refine stays.with_held fun link member same => ?_
      obtain ⟨stored, isActive⟩ := Store.mem_links_of_mem_list member
      exact absurd same (stays.ne_of_read stored isActive)
  | update link change now =>
      obtain ⟨holds, known⟩ := allowed
      rcases stays.update holds known now with still | ⟨rfl, revived⟩
      · exact .inl still
      · exact .inr ⟨link, now, rfl, revived⟩
  | failSaves count => exact .inl ⟨stays.removed, stays.stale⟩

/-- A run keeps a removed URL removed, or keeps it removed up to a save of a stale copy. -/
theorem StaysRemoved.run (stays : StaysRemoved copies id usage) {uses : List RepositoryUse}
    (allowed : usage.AllowsAll uses) :
    StaysRemoved copies id (usage.run uses) ∨
      ∃ first link now rest, uses = first ++ .update link .modified now :: rest ∧
        StaysRemoved copies id (usage.run first) ∧
        Revives copies id (usage.run first) link now := by
  induction uses generalizing usage with
  | nil => exact .inl stays
  | cons use rest induction =>
      rcases stays.step allowed.1 with still | ⟨link, now, rfl, revived⟩
      · rcases induction still allowed.2 with
          atEnd | ⟨first, link, now, after, rfl, before, revived⟩
        · exact .inl atEnd
        · exact .inr ⟨use :: first, link, now, after, rfl, before, revived⟩
      · exact .inr ⟨[], link, now, rest, rfl, stays, revived⟩

/-- When a row has become inactive, all copies that were taken before count as old. -/
theorem staysRemoved_of_inactive {row : Link}
    (distinct : (usage.store.links.map Link.id).Nodup) (stored : row ∈ usage.store.links)
    (inactive : row.isActive = false) : StaysRemoved usage.held row.id usage where
  removed := by
    refine ⟨⟨row, stored, rfl⟩, fun other member same => ?_⟩
    rw [List.inj_on_of_nodup_map distinct member stored same]
    exact inactive
  stale := fun link member same isActive => ⟨same, isActive, link, member, same, rfl⟩

/-- Once a row has become inactive it is never active again, whatever new URLs are added, read,
listed and saved in whatever order, unless a copy that was taken before, and is active, is saved
as modified. Up to the first such save the URL is removed, and after it the row is active. -/
theorem removed_stays_removed_unless_stale_copy_is_saved {before later : List RepositoryUse}
    {row : Link} (allowed : start.AllowsAll (before ++ later))
    (stored : row ∈ (start.run before).store.links) (inactive : row.isActive = false) :
    (start.run (before ++ later)).store.IsRemoved row.id ∨
      ∃ first link now rest, later = first ++ .update link .modified now :: rest ∧
        IsStale (start.run before).held row.id link ∧
        (start.run (before ++ first)).store.IsRemoved row.id ∧
        ∃ revived ∈ (start.run (before ++ first ++ [.update link .modified now])).store.links,
          revived.id = row.id ∧ revived.isActive = true := by
  have stays := staysRemoved_of_inactive (nodup_ids_run before) stored inactive
  rcases stays.run ((start.allowsAll_append).mp allowed).2 with
    still | ⟨first, link, now, rest, rfl, still, isStale, revived⟩
  · left
    rw [run_append]
    exact still.removed
  · right
    refine ⟨first, link, now, rest, rfl, isStale, ?_, ?_⟩
    · rw [run_append]
      exact still.removed
    · rw [run_append, run_append]
      exact revived

/-! ## The removal of one URL -/

/-- The moment of everything that follows. -/
def newYearsEve : Moment :=
  ⟨⟨2025, 12, 31, by decide, by decide, by decide⟩, 23, 59, 58, 0, by decide, by decide,
    by decide, by decide⟩

/-- The copy that whoever made the URL has of it. -/
def made : Link :=
  .create ⟨1⟩ ⟨2⟩ newYearsEve newYearsEve "https://example.com" "a" "https://short.ly/a"

/-- The copy that readers get while the URL is active. -/
def found : Link := Store.writtenRow made .added newYearsEve

/-- What becomes of a copy that is saved as removed. -/
def removed : Link := Store.writtenRow (found.remove ⟨3⟩ newYearsEve) .deleted newYearsEve

/-- A URL is made, stored, found and removed. -/
def removal : List RepositoryUse :=
  [.create ⟨1⟩ ⟨2⟩ newYearsEve newYearsEve "https://example.com" "a" "https://short.ly/a",
    .add made newYearsEve, .find "a", .update (found.remove ⟨3⟩ newYearsEve) .deleted newYearsEve]

/-- Reading, and saving the copy that was removed, do not bring the URL back. -/
theorem removed_stays_removed_unless_stale_copy_is_saved_of_removed_copy :
    let later : List RepositoryUse :=
      [.find "a", .list 0 10, .update removed .modified newYearsEve]
    start.AllowsAll (removal ++ later) ∧ removed ∈ (start.run removal).store.links ∧
      removed.isActive = false ∧ (start.run (removal ++ later)).store.IsRemoved removed.id := by
  intro later
  have allowed : start.AllowsAll (removal ++ later) := by decide +kernel
  have stored : removed ∈ (start.run removal).store.links := by decide +kernel
  refine ⟨allowed, stored, rfl, ?_⟩
  rcases removed_stays_removed_unless_stale_copy_is_saved allowed stored rfl with
    still | ⟨first, link, now, rest, split, isStale, -⟩
  · exact still
  · have isLast : RepositoryUse.update link .modified now ∈ later := by simp [split]
    have same : link = removed := by
      simp only [later, List.mem_cons, reduceCtorEq, RepositoryUse.update.injEq, false_or,
        List.not_mem_nil, or_false] at isLast
      exact isLast.1
    rw [same] at isStale
    cases isStale.2.1

/-- Saving the copy that was found before the removal does. -/
theorem removed_url_is_active_again :
    let again : List RepositoryUse := removal ++ [.update found .modified newYearsEve]
    start.AllowsAll again ∧
      (∃ row ∈ (start.run removal).store.links, row.id = ⟨1⟩ ∧ row.isActive = false) ∧
      ∃ row ∈ (start.run again).store.links, row.id = ⟨1⟩ ∧ row.isActive = true := by
  decide +kernel

end Usage

end Shortlink
