import Shortlink.Postgres.Links
import Shortlink.Proofs.Postgres.Transaction

/-!
# Saves in transactions

The saves of the service as lists of writes: the row of a URL with one message for each pending
event, and the outcomes of a batch of messages. The aggregate of a save moves on only with its
commit.
-/

namespace Shortlink

namespace Postgres

open Transaction

/-! ## Saves as writes -/

namespace OutboxTable

/-- The write that announces an event. -/
def announcement (event : Event) : Write := .plain (insertStatement (.ofEvent event))

/-- The write that stores the outcome of a message. -/
def outcomeWrite (message : Message) : Write := .plain (saveStatement message)

theorem insertAll_eq (connection : Connection) (events : List Event) :
    (insertAll connection (events.map .ofEvent)).attempt =
      writeAll connection (events.map announcement) := by
  induction events with
  | nil => rfl
  | cons event rest induction =>
      apply Script.ask_congr
      intro reply
      cases reply with
      | ok answer => exact induction
      | error error => rfl

theorem saveAll_eq (connection : Connection) (messages : List Message) :
    (saveAll connection messages).attempt =
      writeAll connection (messages.map outcomeWrite) := by
  induction messages with
  | nil => rfl
  | cons message rest induction =>
      apply Script.ask_congr
      intro reply
      cases reply with
      | ok answer => exact induction
      | error error => rfl

theorem announcement_not_commit (event : Event) : (announcement event).statement ≠ .commit := by
  simp [announcement, Write.plain, insertStatement, Statement.commit]

theorem outcomeWrite_not_commit (message : Message) :
    (outcomeWrite message).statement ≠ .commit := by
  simp [outcomeWrite, Write.plain, saveStatement, Statement.commit]

end OutboxTable

namespace LinkTable

/-- The write of a new row. -/
def rowInsert (link : Link) (audit : Audit) : Write := .plain (insertStatement link audit)

/-- The write of the new state of a row, which there has to be. -/
def rowUpdate (link : Link) (audit : Audit) : Write :=
  .touching (updateStatement link audit) (.idNotFound link.id.toString)

/-- How the row of a URL is written. -/
def sendRow (row : Write) (connection : Connection) : SqlAction Unit := do
  let answer ← send connection row.statement
  SqlAction.ofProgram (pure (row.check answer))

theorem add_eq (link : Link) :
    add link = .ask (Sql.beside .now) fun now =>
      commit link (link.prepareSave .added now)
        (sendRow (rowInsert link (link.stampAudit .added now))) := rfl

theorem update_eq (link : Link) (change : Change) :
    update link change = .ask (Sql.beside .now) fun now =>
      commit link (link.prepareSave change now)
        (sendRow (rowUpdate link (link.stampAudit change now))) := by
  apply Script.ask_congr
  intro now
  apply congrArg (commit link (link.prepareSave change now))
  funext connection
  apply Script.ask_congr
  intro reply
  cases reply with
  | error error => rfl
  | ok answer =>
      change (if answer.affected = 0 then throw _ else pure () : SqlAction Unit) =
        SqlAction.ofProgram (pure (if answer.affected = 0 then .error _ else .ok ()))
      split
      · rfl
      · rfl

/-- The writes of a save follow each other: the row, then the announcements. -/
theorem sendRow_insertAll (row : Write) (connection : Connection) (events : List Event) :
    (do sendRow row connection
        OutboxTable.insertAll connection (events.map .ofEvent) : SqlAction Unit).attempt =
      writeAll connection (row :: events.map OutboxTable.announcement) := by
  apply Script.ask_congr
  intro reply
  cases reply with
  | error error => rfl
  | ok answer =>
      rw [← OutboxTable.insertAll_eq, Write.outcome]
      change ExceptT.bindCont (fun _ => OutboxTable.insertAll connection (events.map .ofEvent))
        (row.check answer) = _
      cases row.check answer with
      | error failure => rfl
      | ok _ => rfl

/-- The aggregate that a save leaves is the one before, but for a save that has ended well. -/
def MovesOn (link : Link) (audit : Audit) (outcome : SaveOutcome) : Prop :=
  (outcome.result = .ok () → outcome.link = link.finishSave audit) ∧
    ∀ failure, outcome.result = .error failure → outcome.link = link

variable {course : SqlCourse}

theorem commit_assures (link : Link) (change : Change) (now : Time.Moment) {row : Write}
    (isOther : row.statement ≠ .commit) (stands : Stands course [] []) :
    (commit link (link.prepareSave change now) (sendRow row)).Assures (surroundings.recorded ())
      (.alone _)
      (fun result course => ∃ outcome, result = .ok outcome ∧
        IsTransaction (row :: link.pending.map OutboxTable.announcement) course outcome.result ∧
        MovesOn link (link.stampAudit change now) outcome)
      course := by
  have others : ∀ write ∈ row :: link.pending.map OutboxTable.announcement,
      write.statement ≠ .commit := by
    simp only [List.mem_cons, List.mem_map, forall_eq_or_imp, forall_exists_index, and_imp,
      forall_apply_eq_imp_iff₂]
    exact ⟨isOther, fun event _ => OutboxTable.announcement_not_commit event⟩
  have written := inTransaction_assures
    (fun connection => sendRow_insertAll row connection link.pending) stands
  apply written.andThen
  · rintro result course ⟨_, same, ended⟩
    cases same
    cases result with
    | ok _ => exact ⟨_, rfl, ended.isTransaction others, fun _ => rfl, nofun⟩
    | error failure => exact ⟨_, rfl, ended.isTransaction others, nofun, fun _ _ => rfl⟩
  · rintro cause course ⟨_, same, _⟩
    exact nomatch same

end LinkTable

/-! ## Saves against any replies -/

variable (reactions : Nat → Reaction) (shared : Shared)

/-- A program that begins with a question for the time goes on with nothing sent. -/
theorem perform_now {α : Type} {program : SqlProgram α} {next : Time.Moment → SqlProgram α}
    (begins : program = .ask (Sql.beside .now) next) :
    ∃ course, Stands course [] [] ∧
      perform reactions shared program =
        (surroundings.recorded ()).perform (fun n => reactions (n + 1))
          (next (reactions 0).chance.now) course := by
  subst begins
  let asked : Exchange Unit Sql.interface Shared :=
    ⟨(), .beside .now, .ok (reactions 0).chance.now, shared,
      shared.later (reactions 0).chance.elapsed⟩
  exact ⟨⟨[asked], asked.after⟩, ⟨rfl, rfl⟩, Surroundings.perform_ask_of_ok rfl⟩

theorem save_is_transaction {program : SqlProgram SaveOutcome} {link : Link} {change : Change}
    {row : Audit → Write}
    (isSave : program = .ask (Sql.beside .now) fun now =>
      LinkTable.commit link (link.prepareSave change now)
        (LinkTable.sendRow (row (link.stampAudit change now))))
    (isOther : ∀ audit, (row audit).statement ≠ .commit) :
    let saved := perform reactions shared program
    let audit := link.stampAudit change (reactions 0).chance.now
    ∃ outcome, saved.1 = .ok outcome ∧
      IsTransaction (row audit :: link.pending.map OutboxTable.announcement) saved.2
        outcome.result ∧
      LinkTable.MovesOn link audit outcome := by
  intro saved audit
  obtain ⟨course, stands, same⟩ := perform_now reactions shared isSave
  have ended := (LinkTable.commit_assures link change (reactions 0).chance.now (isOther audit)
    stands).perform fun n => reactions (n + 1)
  rw [← same] at ended
  exact ended

end Postgres

open Postgres Transaction in
/-- Whatever the database replies, a save is one transaction: BEGIN, the row of the URL, the
announcement of each pending event in order with its id, type and content, and COMMIT, as far as
nothing fails; and the same with the outcomes of processed messages. The commit is sent only if all
before it have succeeded and an update has changed a row; the save has ended well exactly if the
commit has; and the aggregate has moved on exactly then. -/
theorem saves_are_transactions (reactions : Nat → Reaction) (shared : Shared) :
    (∀ link : Link,
      let saved := perform reactions shared (LinkTable.add link)
      let audit := link.stampAudit .added (reactions 0).chance.now
      ∃ outcome, saved.1 = .ok outcome ∧
        IsTransaction
          (.plain (LinkTable.insertStatement link audit) ::
            link.pending.map fun event => .plain (OutboxTable.insertStatement (.ofEvent event)))
          saved.2 outcome.result ∧
        (outcome.result = .ok () → outcome.link = link.finishSave audit) ∧
        ∀ failure, outcome.result = .error failure → outcome.link = link) ∧
    (∀ (link : Link) (change : Change),
      let saved := perform reactions shared (LinkTable.update link change)
      let audit := link.stampAudit change (reactions 0).chance.now
      ∃ outcome, saved.1 = .ok outcome ∧
        IsTransaction
          (.touching (LinkTable.updateStatement link audit) (.idNotFound link.id.toString) ::
            link.pending.map fun event => .plain (OutboxTable.insertStatement (.ofEvent event)))
          saved.2 outcome.result ∧
        (outcome.result = .ok () → outcome.link = link.finishSave audit) ∧
        ∀ failure, outcome.result = .error failure → outcome.link = link) ∧
    (∀ messages : List Message,
      let saved := perform reactions shared (OutboxTable.saveProcessed messages).attempt
      ∃ result, saved.1 = .ok result ∧
        IsTransaction (messages.map fun message => .plain (OutboxTable.saveStatement message))
          saved.2 result) ∧
    ∀ event : Event, (OutboxTable.insertStatement (.ofEvent event)).params.take 3 =
      [.uuid event.id, .text event.typeName, .text event.toJson.compact] := by
  refine ⟨?_, ?_, ?_, fun event => rfl⟩
  · intro link
    apply save_is_transaction reactions shared (LinkTable.add_eq link)
    intro audit
    simp [LinkTable.rowInsert, Write.plain, LinkTable.insertStatement, Statement.commit]
  · intro link change
    apply save_is_transaction reactions shared (LinkTable.update_eq link change)
    intro audit
    simp [LinkTable.rowUpdate, Write.touching, LinkTable.updateStatement, Statement.commit]
  · intro messages
    have assured := inTransaction_assures
      (fun connection => OutboxTable.saveAll_eq connection messages)
      (⟨rfl, rfl⟩ : Stands ⟨[], shared⟩ [] [])
    obtain ⟨result, isEnd, ended⟩ := assured.perform reactions
    refine ⟨result, isEnd, ended.isTransaction ?_⟩
    intro write member
    obtain ⟨message, -, rfl⟩ := List.mem_map.mp member
    exact OutboxTable.outcomeWrite_not_commit message

end Shortlink
