import Mathlib.Data.List.Perm.Basic
import Shortlink.Proofs.Store.Tables

/-!
# Outcomes of messages

Where ids are distinct, storing the outcomes of messages gives each row the outcome under its
own id and leaves all others alone. So the counts of the outbox change by what has been stored:
as many messages wait less, and as many more were delivered or failed as the outcomes say.
-/

namespace Shortlink

/-- The message with the outcome of another one. -/
def Message.withOutcome (row outcome : Message) : Message :=
  { row with processed := outcome.processed, error := outcome.error }

namespace Store

/-- What becomes of a row when outcomes are stored. -/
def settle (outcomes : List Message) (row : Message) : Message :=
  match outcomes.find? (·.id == row.id) with
  | some outcome => row.withOutcome outcome
  | none => row

section settle

variable {outcomes rest : List Message} {outcome row : Message}

theorem settle_of_not_mem (other : row.id ∉ outcomes.map Message.id) :
    settle outcomes row = row := by
  have absent : outcomes.find? (·.id == row.id) = none := by
    apply List.find?_eq_none.mpr
    intro outcome member isRow
    have same : outcome.id = row.id := by simpa using isRow
    exact other (same ▸ List.mem_map_of_mem member)
  rw [settle, absent]

@[simp] theorem settle_id (outcomes : List Message) (row : Message) :
    (settle outcomes row).id = row.id := by
  rw [settle]
  split
  · rfl
  · rfl

@[simp] theorem settle_requeue (outcomes : List Message) (row : Message) :
    (settle outcomes row).requeue = row.requeue := by
  rw [settle]
  split
  · rfl
  · rfl

/-- The first outcome could as well be stored before the others. -/
theorem settle_cons (once : outcome.id ∉ rest.map Message.id) :
    settle (outcome :: rest) row =
      settle rest (if row.id == outcome.id then row.withOutcome outcome else row) := by
  by_cases isRow : row.id = outcome.id
  · have here : (outcome :: rest).find? (·.id == row.id) = some outcome :=
      List.find?_cons_of_pos (by simp [isRow])
    have left : (row.withOutcome outcome).id ∉ rest.map Message.id := by
      rw [show (row.withOutcome outcome).id = outcome.id from isRow]
      exact once
    rw [settle, here, if_pos (by simpa using isRow), settle_of_not_mem left]
  · have elsewhere : (outcome :: rest).find? (·.id == row.id) = rest.find? (·.id == row.id) :=
      List.find?_cons_of_neg (by simpa using Ne.symm isRow)
    rw [settle, elsewhere, if_neg (by simpa using isRow), settle]

theorem settle_of_mem (once : (outcomes.map Message.id).Nodup) (member : outcome ∈ outcomes)
    (same : row.id = outcome.id) : settle outcomes row = row.withOutcome outcome := by
  induction outcomes with
  | nil => cases member
  | cons first rest ih =>
      rw [List.map_cons, List.nodup_cons] at once
      rw [settle_cons once.1]
      rcases List.mem_cons.mp member with rfl | inRest
      · rw [if_pos (by simpa using same)]
        apply settle_of_not_mem
        rw [show (row.withOutcome outcome).id = outcome.id from same]
        exact once.1
      · have other : row.id ≠ first.id := by
          rw [same]
          intro isFirst
          exact once.1 (isFirst ▸ List.mem_map_of_mem inRest)
        rw [if_neg (by simpa using other)]
        exact ih once.2 inRest

end settle

theorem saveOutcome_eq_map {outbox : List Message} (distinct : (outbox.map Message.id).Nodup)
    (outcome : Message) :
    saveOutcome outbox outcome =
      outbox.map fun row => if row.id == outcome.id then row.withOutcome outcome else row := by
  apply replaceFirst_eq_map
  rw [List.Nodup, List.pairwise_map] at distinct
  apply distinct.imp
  intro row other differs isRow
  have same : row.id = outcome.id := by simpa using isRow
  simpa [← same] using differs.symm

/-- Storing outcomes gives each row the outcome under its id, and changes nothing else. -/
theorem outbox_saveProcessed {store : Store} (distinct : (store.outbox.map Message.id).Nodup)
    {outcomes : List Message} (once : (outcomes.map Message.id).Nodup) :
    (store.saveProcessed outcomes).outbox = store.outbox.map (settle outcomes) := by
  obtain ⟨links, outbox, markers, failingSaves, isLeased⟩ := store
  change outcomes.foldl saveOutcome outbox = outbox.map (settle outcomes)
  change (outbox.map Message.id).Nodup at distinct
  induction outcomes generalizing outbox with
  | nil => exact (List.map_id outbox).symm
  | cons outcome rest ih =>
      rw [List.map_cons, List.nodup_cons] at once
      have ids : (saveOutcome outbox outcome).map Message.id = outbox.map Message.id :=
        map_replaceFirst fun _ _ _ => rfl
      rw [List.foldl_cons, ih once.2 _ (ids ▸ distinct), saveOutcome_eq_map distinct,
        List.map_map]
      apply List.map_congr_left
      exact fun row _ => (settle_cons once.1).symm

/-- What the counts become where waiting messages have got their outcomes. -/
theorem stats_of_settled {before after : Store} {waiting outcomes others : List Message}
    (was : before.outbox.Perm (waiting ++ others)) (now : after.outbox.Perm (outcomes ++ others))
    (isWaiting : ∀ message ∈ waiting, message.isProcessed = false)
    (isSettled : ∀ outcome ∈ outcomes, outcome.isProcessed = true) :
    after.stats.pending = before.stats.pending - waiting.length ∧
      after.stats.processed =
        before.stats.processed + outcomes.countP (·.error.isNone) ∧
      after.stats.failed = before.stats.failed + outcomes.countP (·.error.isSome) := by
  have waitingBefore : waiting.countP (fun message => !message.isProcessed) = waiting.length :=
    List.countP_eq_length.mpr (by simpa using isWaiting)
  have waitingAfter : outcomes.countP (fun message => !message.isProcessed) = 0 :=
    List.countP_eq_zero.mpr (by simpa using isSettled)
  have endedBefore (decides : Message → Bool) :
      waiting.countP (fun message => message.isProcessed && decides message) = 0 := by
    apply List.countP_eq_zero.mpr
    intro message member
    simp [isWaiting message member]
  have endedAfter (decides : Message → Bool) :
      outcomes.countP (fun message => message.isProcessed && decides message) =
        outcomes.countP decides := by
    apply List.countP_congr
    intro outcome member
    simp [isSettled outcome member]
  simp only [stats, was.countP_eq, now.countP_eq, List.countP_append, waitingBefore,
    waitingAfter, endedBefore, endedAfter]
  refine ⟨?_, ?_, ?_⟩
  · omega
  · omega
  · omega

end Store

end Shortlink
