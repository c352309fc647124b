import Mathlib.Data.List.Nodup
import Shortlink.Store.Tables

/-!
# What the operations on the tables do

One lemma for each operation that writes: all that it can do, with the conditions under
which it does it. Everything about the store is derived from these.
-/

namespace Shortlink

open Time (Moment)

namespace Store

/-! ## Replacing the first entry -/

section replaceFirst

variable {α β : Type} {found : α → Bool} {change : α → α} {entries : List α}

/-- Replacing splits the list at the first entry that satisfies the condition. -/
theorem exists_replaceFirst_eq (change : α → α)
    (present : ∃ entry ∈ entries, found entry = true) :
    ∃ front old back, entries = front ++ old :: back ∧ found old = true ∧
      (∀ entry ∈ front, found entry = false) ∧
      replaceFirst found change entries = front ++ change old :: back := by
  induction entries with
  | nil => simp at present
  | cons head rest ih =>
      cases isHead : found head with
      | true => exact ⟨[], head, rest, rfl, isHead, by simp, by simp [replaceFirst, isHead]⟩
      | false =>
          obtain ⟨entry, member, holds⟩ := present
          have inRest : entry ∈ rest := by
            rcases List.mem_cons.mp member with rfl | inRest
            · rw [isHead] at holds
              contradiction
            · exact inRest
          obtain ⟨front, old, back, rfl, isOld, before, replaced⟩ := ih ⟨entry, inRest, holds⟩
          refine ⟨head :: front, old, back, rfl, isOld, ?_, ?_⟩
          · intro entry member
            rcases List.mem_cons.mp member with rfl | inFront
            · exact isHead
            · exact before entry inFront
          · simp [replaceFirst, isHead, replaced]

/-- What a change leaves alone is the same for all entries afterwards. -/
theorem map_replaceFirst {image : α → β}
    (same : ∀ entry ∈ entries, found entry = true → image (change entry) = image entry) :
    (replaceFirst found change entries).map image = entries.map image := by
  induction entries with
  | nil => rfl
  | cons head rest ih =>
      rw [List.forall_mem_cons] at same
      cases isHead : found head with
      | true => simp [replaceFirst, isHead, same.1 isHead]
      | false => simp [replaceFirst, isHead, ih same.2]

/-- An entry afterwards was there before, or it is what has become of the first that satisfies
the condition. -/
theorem mem_replaceFirst {entry : α} (member : entry ∈ replaceFirst found change entries) :
    entry ∈ entries ∨ ∃ old, entries.find? found = some old ∧ entry = change old := by
  induction entries with
  | nil => simp [replaceFirst] at member
  | cons head rest ih =>
      cases isHead : found head with
      | true =>
          rw [replaceFirst, if_pos isHead, List.mem_cons] at member
          rcases member with rfl | inRest
          · exact .inr ⟨head, List.find?_cons_of_pos isHead, rfl⟩
          · exact .inl (List.mem_cons_of_mem head inRest)
      | false =>
          rw [replaceFirst, if_neg (by simp [isHead]), List.mem_cons] at member
          rcases member with rfl | inRest
          · exact .inl List.mem_cons_self
          · rcases ih inRest with isOld | ⟨old, isFirst, rfl⟩
            · exact .inl (List.mem_cons_of_mem head isOld)
            · refine .inr ⟨old, ?_, rfl⟩
              rw [List.find?_cons_of_neg (by simp [isHead])]
              exact isFirst

/-- An entry that does not satisfy the condition stays. -/
theorem mem_replaceFirst_of_not {entry : α} (member : entry ∈ entries)
    (other : found entry = false) : entry ∈ replaceFirst found change entries := by
  induction entries with
  | nil => simp at member
  | cons head rest ih =>
      rcases List.mem_cons.mp member with rfl | inRest
      · simp [replaceFirst, other]
      · cases isHead : found head with
        | true => simp [replaceFirst, isHead, inRest]
        | false => simp [replaceFirst, isHead, ih inRest]

/-- Where one entry at most satisfies the condition, replacing the first changes all that do. -/
theorem replaceFirst_eq_map (change : α → α)
    (once : entries.Pairwise fun entry other => found entry = true → found other = false) :
    replaceFirst found change entries =
      entries.map fun entry => if found entry then change entry else entry := by
  induction entries with
  | nil => rfl
  | cons head rest ih =>
      rw [List.pairwise_cons] at once
      cases isHead : found head with
      | true =>
          have unchanged : rest.map (fun entry => if found entry then change entry else entry) =
              rest.map id := by
            apply List.map_congr_left
            intro entry member
            rw [once.1 entry member isHead]
            rfl
          rw [List.map_cons, unchanged, List.map_id]
          simp [replaceFirst, isHead]
      | false => simp [replaceFirst, isHead, ih once.2]

/-- What takes the place of an entry is there. -/
theorem mem_replaceFirst_new {entry : α} (present : ∃ old ∈ entries, found old = true) :
    entry ∈ replaceFirst found (fun _ => entry) entries := by
  obtain ⟨front, old, back, -, -, -, replaced⟩ := exists_replaceFirst_eq (fun _ => entry) present
  rw [replaced]
  exact List.mem_append_right front List.mem_cons_self

end replaceFirst

/-! ## Saves -/

variable (store : Store) (link : Link) (change : Change) (now : Moment)

/-- Neither the code nor the id of a URL is taken. -/
def IsFree : Prop := ∀ row ∈ store.links, row.code ≠ link.code ∧ row.id ≠ link.id

/-- The row that a save writes. -/
def writtenRow : Link := storedCopy link (link.audit.apply change now)

theorem isTaken_eq_false_iff :
    (store.links.any fun row => row.code == link.code || row.id == link.id) = false ↔
      store.IsFree link := by
  simp [IsFree]

/-- All that storing a new URL can do: it fails and uses up a staged failure at most, or it
appends the row and the messages. -/
theorem add_cases :
    (¬(store.failingSaves = 0 ∧ store.IsFree link) ∧
      ∃ failure, store.add link now =
        (⟨.error failure, link⟩, { store with failingSaves := store.failingSaves - 1 })) ∨
    (store.failingSaves = 0 ∧ store.IsFree link ∧
      store.add link now = (⟨.ok (), writtenRow link .added now⟩,
        { store with
          links := store.links ++ [writtenRow link .added now]
          outbox := store.outbox ++ link.captureEvents })) := by
  cases failing : store.failingSaves with
  | succ count =>
      left
      exact ⟨by simp, rolledBack, by simp [add, commit, failing]⟩
  | zero =>
      cases isTaken : store.links.any fun row => row.code == link.code || row.id == link.id with
      | true =>
          left
          refine ⟨?_, .duplicate (some codeConstraint), ?_⟩
          · rw [← isTaken_eq_false_iff, isTaken]
            simp
          · rcases store with ⟨links, outbox, markers, failingSaves, isLeased⟩
            subst failing
            simp [add, commit, isTaken]
      | false =>
          right
          refine ⟨rfl, (isTaken_eq_false_iff store link).mp isTaken, ?_⟩
          simp only [add, commit, failing, isTaken]
          rfl

/-- All that storing a new state can do: it fails and uses up a staged failure at most, or
it replaces the row with the id and appends the messages. -/
theorem update_cases :
    (¬(store.failingSaves = 0 ∧ ∃ row ∈ store.links, row.id = link.id) ∧
      ∃ failure, store.update link change now =
        (⟨.error failure, link⟩, { store with failingSaves := store.failingSaves - 1 })) ∨
    (store.failingSaves = 0 ∧ (∃ row ∈ store.links, row.id = link.id) ∧
      store.update link change now = (⟨.ok (), writtenRow link change now⟩,
        { store with
          links := replaceFirst (·.id == link.id) (fun _ => writtenRow link change now)
            store.links
          outbox := store.outbox ++ link.captureEvents })) := by
  cases failing : store.failingSaves with
  | succ count =>
      left
      exact ⟨by simp, rolledBack, by simp [update, commit, failing]⟩
  | zero =>
      by_cases isStored : ∃ row ∈ store.links, row.id = link.id
      · right
        have found : (store.links.any (·.id == link.id)) = true := by simpa using isStored
        refine ⟨rfl, isStored, ?_⟩
        simp only [update, commit, failing, found]
        rfl
      · left
        have absent : (store.links.any (·.id == link.id)) = false := by simpa using isStored
        refine ⟨by simp [isStored], .idNotFound link.id.toString, ?_⟩
        rcases store with ⟨links, outbox, markers, failingSaves, isLeased⟩
        subst failing
        simp [update, commit, absent]

/-- Storing a new URL touches neither the lease nor the markers. -/
theorem add_frame :
    (store.add link now).2.isLeased = store.isLeased ∧
      (store.add link now).2.markers = store.markers := by
  rcases add_cases store link now with ⟨-, failure, failed⟩ | ⟨-, -, written⟩
  · rw [failed]
    exact ⟨rfl, rfl⟩
  · rw [written]
    exact ⟨rfl, rfl⟩

/-- Storing a new state touches neither the lease nor the markers. -/
theorem update_frame :
    (store.update link change now).2.isLeased = store.isLeased ∧
      (store.update link change now).2.markers = store.markers := by
  rcases update_cases store link change now with ⟨-, failure, failed⟩ | ⟨-, -, written⟩
  · rw [failed]
    exact ⟨rfl, rfl⟩
  · rw [written]
    exact ⟨rfl, rfl⟩

/-- A row after a new URL was stored was there before, or it is the one written. -/
theorem mem_links_add {row : Link} (member : row ∈ (store.add link now).2.links) :
    row ∈ store.links ∨ row = writtenRow link .added now := by
  rcases add_cases store link now with ⟨-, failure, failed⟩ | ⟨-, -, written⟩
  · rw [failed] at member
    exact .inl member
  · rw [written] at member
    simpa using member

/-- A row after a new state was stored was there before, or it is the one written. -/
theorem mem_links_update {row : Link} (member : row ∈ (store.update link change now).2.links) :
    row ∈ store.links ∨ row = writtenRow link change now := by
  rcases update_cases store link change now with ⟨-, failure, failed⟩ | ⟨-, -, written⟩
  · rw [failed] at member
    exact .inl member
  · rw [written] at member
    rcases mem_replaceFirst member with earlier | ⟨old, -, isWritten⟩
    · exact .inl earlier
    · exact .inr isWritten

/-- Storing a new URL adds the messages of its pending events, or none. -/
theorem outbox_add :
    (store.add link now).2.outbox = store.outbox ∨
      (store.add link now).2.outbox = store.outbox ++ link.captureEvents := by
  rcases add_cases store link now with ⟨-, failure, failed⟩ | ⟨-, -, written⟩
  · rw [failed]
    exact .inl rfl
  · rw [written]
    exact .inr rfl

/-- Storing a new state adds the messages of the pending events, or none. -/
theorem outbox_update :
    (store.update link change now).2.outbox = store.outbox ∨
      (store.update link change now).2.outbox = store.outbox ++ link.captureEvents := by
  rcases update_cases store link change now with ⟨-, failure, failed⟩ | ⟨-, -, written⟩
  · rw [failed]
    exact .inl rfl
  · rw [written]
    exact .inr rfl

theorem findByCode_eq_some {store : Store} {code : String} {link : Link}
    (found : store.findByCode code = some link) :
    link ∈ store.links ∧ link.code = code ∧ link.isActive = true := by
  refine ⟨List.mem_of_find?_eq_some found, ?_⟩
  simpa using List.find?_some found

/-- A listing shows active rows only. -/
theorem mem_links_of_mem_list {store : Store} {offset limit : Int} {row : Link}
    (member : row ∈ store.list offset limit) : row ∈ store.links ∧ row.isActive = true := by
  have listed : row ∈ store.activeLinks := List.mem_of_mem_drop (List.mem_of_mem_take member)
  exact List.mem_filter.mp (List.mem_mergeSort.mp listed)

/-! ## Messages and markers -/

/-- All that a requeue can do: it finds no message, or it puts back the first with the id. -/
theorem requeue_cases (id : Uuid) :
    ((∀ message ∈ store.outbox, message.id ≠ id) ∧ store.requeue id = (false, store)) ∨
    ((∃ message ∈ store.outbox, message.id = id) ∧
      store.requeue id = (true,
        { store with outbox := replaceFirst (·.id == id) Message.requeue store.outbox })) := by
  cases found : store.outbox.any (·.id == id) with
  | true =>
      right
      exact ⟨by simpa using found, by simp [requeue, found]⟩
  | false =>
      left
      exact ⟨by simpa using found, by simp [requeue, found]⟩

theorem requeue_frame (id : Uuid) :
    (store.requeue id).2.isLeased = store.isLeased ∧
      (store.requeue id).2.markers = store.markers := by
  rcases requeue_cases store id with ⟨-, absent⟩ | ⟨-, found⟩
  · rw [absent]
    exact ⟨rfl, rfl⟩
  · rw [found]
    exact ⟨rfl, rfl⟩

theorem isConsumed_iff {marker : Marker} :
    store.isConsumed marker = true ↔ marker ∈ store.markers := by
  simp [isConsumed]

/-- A marker is set once: afterwards it is there, beside those that were there before. -/
theorem mem_markConsumed {marker other : Marker} :
    other ∈ (store.markConsumed marker).markers ↔ other ∈ store.markers ∨ other = marker := by
  unfold markConsumed
  cases isConsumed : store.isConsumed marker with
  | true =>
      have member := store.isConsumed_iff.mp isConsumed
      simp only [if_true]
      constructor
      · exact .inl
      · rintro (old | rfl)
        · exact old
        · exact member
  | false => simp

/-- A marker that is not there is set at the end. -/
theorem markers_markConsumed {marker : Marker} (isNew : marker ∉ store.markers) :
    (store.markConsumed marker).markers = store.markers ++ [marker] := by
  have absent := Bool.eq_false_iff.mpr (mt store.isConsumed_iff.mp isNew)
  simp [markConsumed, absent]

theorem markConsumed_frame (marker : Marker) :
    (store.markConsumed marker).links = store.links ∧
      (store.markConsumed marker).outbox = store.outbox := by
  unfold markConsumed
  split
  · exact ⟨rfl, rfl⟩
  · exact ⟨rfl, rfl⟩

theorem markConsumed_isLeased (marker : Marker) :
    (store.markConsumed marker).isLeased = store.isLeased := by
  unfold markConsumed
  split
  · rfl
  · rfl

end Store

end Shortlink
