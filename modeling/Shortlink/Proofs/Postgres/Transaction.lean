import Mathlib.Data.List.Forall2
import Shortlink.Postgres.Outbox
import Shortlink.Proofs.Calls.Shared
import Shortlink.Proofs.Script.Alone
import Shortlink.Proofs.Script.Requests

/-!
# Transactions

What a transaction sends, whatever the database replies: it is opened, the writes follow in their
order until one of them fails, and it is committed only if none has. That is said of any list of
writes, so that of a particular save only its writes have to be known.
-/

namespace Shortlink.Postgres

namespace Transaction

/-! ## The database -/

/-- How the surroundings react to a request. Each of the replies is arbitrary, so that a sequence
of reactions stands for any database, and for any connection to it that may break. -/
structure Reaction where
  chance : Chance
  connection : Except SqlError Connection
  answer : Except SqlError Answer

/-- The reply to a request. Everything beside the database is answered over the state that calls
share. -/
def answer (reaction : Reaction) (request : Sql) (shared : Shared) :
    Except Abort request.Reply × Shared :=
  match request with
  | .beside request => Shared.answer reaction.chance request shared
  | .acquire => shared.query reaction.connection
  | .send _ _ => shared.query reaction.answer
  | .giveBack _ => shared.query ()

/-- The surroundings of a service that keeps its store in a database. -/
def surroundings : Surroundings Sql.interface Shared where
  Chance := Reaction
  answer := answer
  Disturbance := Empty
  disturb := nofun

/-- The course of a service that keeps its store in a database. -/
abbrev SqlCourse := Course Unit Sql.interface Shared

/-- A statement that was sent over a connection, and the reply to it. -/
structure Sending where
  connection : Connection
  statement : Statement
  reply : Except SqlError Answer

/-- The statement of an exchange. -/
def sent? : Exchange Unit Sql.interface Shared → Option Sending
  | ⟨_, .send connection statement, .ok reply, _, _⟩ => some ⟨connection, statement, reply⟩
  | _ => none

/-- All statements that were sent, with the replies. -/
def sent (history : List (Exchange Unit Sql.interface Shared)) : List Sending :=
  history.filterMap sent?

/-- The reply to a request for a connection. -/
def acquired? : Exchange Unit Sql.interface Shared → Option (Except SqlError Connection)
  | ⟨_, .acquire, .ok reply, _, _⟩ => some reply
  | _ => none

/-- The replies to all requests for a connection. -/
def acquired (history : List (Exchange Unit Sql.interface Shared)) :
    List (Except SqlError Connection) :=
  history.filterMap acquired?

/-- The end of a program with a database that nothing interrupts, and the course to it. -/
def perform {α : Type} (reactions : Nat → Reaction) (shared : Shared) (program : SqlProgram α) :
    Except Abort α × SqlCourse :=
  (surroundings.recorded ()).perform reactions program ⟨[], shared⟩

/-- A course on which asking for connections has given these, and so much has been sent. -/
structure Stands (course : SqlCourse) (connections : List (Except SqlError Connection))
    (log : List Sending) : Prop where
  acquires : acquired course.history = connections
  sends : sent course.history = log

section rules

variable {α : Type} {course : SqlCourse} {connections : List (Except SqlError Connection)}
  {log : List Sending} {post : Except Abort α → SqlCourse → Prop}

theorem Stands.extend (stands : Stands course connections log)
    (exchange : Exchange Unit Sql.interface Shared) :
    Stands (course.extend exchange) (connections ++ (acquired? exchange).toList)
      (log ++ (sent? exchange).toList) := by
  constructor
  · rw [acquired, course.filterMap_extend, ← acquired, stands.acquires]
  · rw [sent, course.filterMap_extend, ← sent, stands.sends]

/-- The rule of asking for a connection. -/
theorem acquire_assures {next : Except SqlError Connection → SqlProgram α}
    (stands : Stands course connections log)
    (goesOn : ∀ reply course, Stands course (connections ++ [reply]) log →
      (next reply).Assures (surroundings.recorded ()) (.alone _) post course) :
    (Script.ask Sql.acquire next).Assures (surroundings.recorded ()) (.alone _) post course := by
  apply Script.Assures.step_of_ok
  intro reaction
  refine ⟨reaction.connection, _, rfl, goesOn _ _ ?_⟩
  have asked := stands.extend
    ⟨(), .acquire, .ok reaction.connection, course.state, course.state⟩
  exact ⟨asked.acquires, asked.sends.trans (List.append_nil log)⟩

/-- The rule of sending a statement. -/
theorem send_assures {connection : Connection} {statement : Statement}
    {next : Except SqlError Answer → SqlProgram α} (stands : Stands course connections log)
    (goesOn : ∀ reply course,
      Stands course connections (log ++ [⟨connection, statement, reply⟩]) →
      (next reply).Assures (surroundings.recorded ()) (.alone _) post course) :
    (Script.ask (Sql.send connection statement) next).Assures (surroundings.recorded ()) (.alone _)
      post course := by
  apply Script.Assures.step_of_ok
  intro reaction
  refine ⟨reaction.answer, _, rfl, goesOn _ _ ?_⟩
  have asked := stands.extend
    ⟨(), .send connection statement, .ok reaction.answer, course.state, course.state⟩
  exact ⟨asked.acquires.trans (List.append_nil connections), asked.sends⟩

/-- The rule of giving a connection back. -/
theorem giveBack_assures {connection : Connection} {next : Unit → SqlProgram α}
    (stands : Stands course connections log)
    (goesOn : ∀ course, Stands course connections log →
      (next ()).Assures (surroundings.recorded ()) (.alone _) post course) :
    (Script.ask (Sql.giveBack connection) next).Assures (surroundings.recorded ()) (.alone _) post
      course := by
  apply Script.Assures.step_of_ok
  intro reaction
  refine ⟨(), _, rfl, goesOn _ ?_⟩
  have asked := stands.extend ⟨(), .giveBack connection, .ok (), course.state, course.state⟩
  exact ⟨asked.acquires.trans (List.append_nil connections),
    asked.sends.trans (List.append_nil log)⟩

end rules

/-! ## Writes -/

/-- A statement of a transaction with what is asked of its answer for the transaction to go
on. -/
structure Write where
  statement : Statement
  check : Answer → Except Failure Unit

namespace Write

/-- A statement of which only success is asked. -/
def plain (statement : Statement) : Write := ⟨statement, fun _ => .ok ()⟩

/-- A statement that has to change a row. -/
def touching (statement : Statement) (failure : Failure) : Write :=
  ⟨statement, fun answer => if answer.affected = 0 then .error failure else .ok ()⟩

/-- What a reply makes of a write. -/
def outcome (write : Write) : Except SqlError Answer → Except Failure Unit
  | .ok answer => write.check answer
  | .error error => .error error.toFailure

/-- The write was sent, and its answer is as it should be. -/
def Passes (write : Write) (sending : Sending) : Prop :=
  sending.statement = write.statement ∧
    ∃ answer, sending.reply = .ok answer ∧ write.check answer = .ok ()

theorem passes_of_outcome {write : Write} {reply : Except SqlError Answer} (connection : Connection)
    (fine : write.outcome reply = .ok ()) : write.Passes ⟨connection, write.statement, reply⟩ := by
  cases reply with
  | ok answer => exact ⟨rfl, answer, rfl, fine⟩
  | error error => exact nomatch fine

end Write

/-- Sends writes in their order until one fails. -/
def writeAll (connection : Connection) : List Write → SqlProgram (Except Failure Unit)
  | [] => .done (.ok ())
  | write :: rest =>
    .ask (Sql.send connection write.statement) fun reply =>
      match write.outcome reply with
      | .ok _ => writeAll connection rest
      | .error failure => .done (.error failure)

/-- What can have been sent of writes, and how they have ended. -/
inductive Written (connection : Connection) : List Write → List Sending → Except Failure Unit → Prop
  where
  | done : Written connection [] [] (.ok ())
  | failed {write : Write} {rest : List Write} {reply : Except SqlError Answer} {failure : Failure}
      (refusal : write.outcome reply = .error failure) :
      Written connection (write :: rest) [⟨connection, write.statement, reply⟩] (.error failure)
  | passed {write : Write} {rest : List Write} {reply : Except SqlError Answer}
      {log : List Sending} {result : Except Failure Unit} (fine : write.outcome reply = .ok ())
      (written : Written connection rest log result) :
      Written connection (write :: rest) (⟨connection, write.statement, reply⟩ :: log) result

namespace Written

variable {connection : Connection} {writes : List Write} {log : List Sending}
  {result : Except Failure Unit}

theorem same_connection (written : Written connection writes log result) :
    ∀ sending ∈ log, sending.connection = connection := by
  induction written with
  | done => simp
  | failed refusal => simp
  | passed fine written induction => simpa using induction

theorem statements_prefix (written : Written connection writes log result) :
    log.map (·.statement) <+: writes.map (·.statement) := by
  induction written with
  | done => exact List.prefix_rfl
  | failed refusal => exact List.cons_prefix_cons.mpr ⟨rfl, List.nil_prefix⟩
  | passed fine written induction => exact List.cons_prefix_cons.mpr ⟨rfl, induction⟩

/-- None of the writes commits. -/
theorem not_commit (written : Written connection writes log result)
    (others : ∀ write ∈ writes, write.statement ≠ .commit) :
    ∀ sending ∈ log, sending.statement ≠ .commit := by
  intro sending member
  have isWrite : sending.statement ∈ writes.map (·.statement) :=
    written.statements_prefix.subset (List.mem_map_of_mem member)
  obtain ⟨write, isWrite, same⟩ := List.mem_map.mp isWrite
  rw [← same]
  exact others write isWrite

/-- Writes that have ended well were all sent and have all passed. -/
theorem all_passed (written : Written connection writes log result) (fine : result = .ok ()) :
    List.Forall₂ Write.Passes writes log := by
  induction written with
  | done => exact .nil
  | failed refusal => exact nomatch fine
  | passed passes written induction =>
      exact .cons (Write.passes_of_outcome connection passes) (induction fine)

/-- Writes that have failed were sent up to the first that did not pass. -/
theorem exists_refused (written : Written connection writes log result) {failure : Failure}
    (failed : result = .error failure) :
    ∃ passed write rest front sending, writes = passed ++ write :: rest ∧
      log = front ++ [sending] ∧ List.Forall₂ Write.Passes passed front ∧
      sending.statement = write.statement ∧ write.outcome sending.reply = .error failure := by
  induction written with
  | done => exact nomatch failed
  | failed refusal =>
      cases failed
      exact ⟨[], _, _, [], _, rfl, rfl, .nil, rfl, refusal⟩
  | passed passes written induction =>
      obtain ⟨passed, write, rest, front, sending, rfl, rfl, before, isStatement, refusal⟩ :=
        induction failed
      have passes := Write.passes_of_outcome connection passes
      exact ⟨_ :: passed, write, rest, _ :: front, sending, rfl, rfl, .cons passes before,
        isStatement, refusal⟩

end Written

variable {course : SqlCourse} {connections : List (Except SqlError Connection)}
  {front : List Sending}

theorem writeAll_assures (connection : Connection) (writes : List Write)
    (stands : Stands course connections front) :
    (writeAll connection writes).Assures (surroundings.recorded ()) (.alone _)
      (fun result course => ∃ outcome log, result = .ok outcome ∧
        Stands course connections (front ++ log) ∧ Written connection writes log outcome)
      course := by
  induction writes generalizing front course with
  | nil => exact ⟨.ok (), [], rfl, by rwa [List.append_nil], .done⟩
  | cons write rest induction =>
      apply send_assures stands
      intro reply course stands
      cases outcome : write.outcome reply with
      | error failure => exact ⟨.error failure, [_], rfl, stands, .failed outcome⟩
      | ok _ =>
          apply (induction stands).imp
          rintro _ after ⟨result, log, rfl, stands, written⟩
          rw [List.append_assoc] at stands
          exact ⟨result, _ :: log, rfl, stands, .passed outcome written⟩

/-! ## From opening to end -/

theorem inTransaction_eq (body : Connection → SqlAction Unit) :
    (inTransaction body).attempt =
      .ask Sql.acquire fun
        | .error error => .done (.error error.toFailure)
        | .ok connection => .ask (Sql.send connection .begin) fun
          | .error error => .ask (Sql.giveBack connection) fun _ =>
              .done (.error error.toFailure)
          | .ok _ => (body connection).attempt.andThen fun
            | .error failure => .ask (Sql.send connection .rollback) fun _ =>
                .ask (Sql.giveBack connection) fun _ => .done (.error failure)
            | .ok _ => .ask (Sql.send connection .commit) fun
              | .ok _ => .ask (Sql.giveBack connection) fun _ => .done (.ok ())
              | .error error => .ask (Sql.send connection .rollback) fun _ =>
                  .ask (Sql.giveBack connection) fun _ => .done (.error error.toFailure) := by
  apply Script.ask_congr
  intro connected
  cases connected with
  | error error => rfl
  | ok connection =>
      apply Script.ask_congr
      intro opened
      cases opened with
      | error error => rfl
      | ok _ =>
          apply Script.andThen_congr (body connection).attempt
          intro outcome
          cases outcome with
          | error failure => rfl
          | ok _ =>
              apply Script.ask_congr
              intro closed
              cases closed with
              | ok _ => rfl
              | error error => rfl

/-- What can have been sent of a transaction over its connection, and how it has ended. -/
inductive Transacted (connection : Connection) (writes : List Write) :
    List Sending → Except Failure Unit → Prop where
  | unopened (error : SqlError) :
      Transacted connection writes [⟨connection, .begin, .error error⟩] (.error error.toFailure)
  | abandoned (opened : Answer) {log : List Sending} {failure : Failure}
      (written : Written connection writes log (.error failure))
      (undone : Except SqlError Answer) :
      Transacted connection writes
        (⟨connection, .begin, .ok opened⟩ :: (log ++ [⟨connection, .rollback, undone⟩]))
        (.error failure)
  | uncommitted (opened : Answer) {log : List Sending}
      (written : Written connection writes log (.ok ())) (error : SqlError)
      (undone : Except SqlError Answer) :
      Transacted connection writes
        (⟨connection, .begin, .ok opened⟩ ::
          (log ++ [⟨connection, .commit, .error error⟩, ⟨connection, .rollback, undone⟩]))
        (.error error.toFailure)
  | committed (opened : Answer) {log : List Sending}
      (written : Written connection writes log (.ok ())) (closed : Answer) :
      Transacted connection writes
        (⟨connection, .begin, .ok opened⟩ :: (log ++ [⟨connection, .commit, .ok closed⟩])) (.ok ())

/-- What has come of a transaction whose course this is. -/
def Ended (writes : List Write) (course : SqlCourse) (result : Except Failure Unit) : Prop :=
  ∃ connected, acquired course.history = [connected] ∧
    match connected with
    | .error error => sent course.history = [] ∧ result = .error error.toFailure
    | .ok connection => Transacted connection writes (sent course.history) result

/-- After its last statement a transaction only gives its connection back. -/
theorem giveBack_ends {connection : Connection} {writes : List Write} {log : List Sending}
    {result : Except Failure Unit} (stands : Stands course [.ok connection] log)
    (transacted : Transacted connection writes log result) :
    (Script.ask (Sql.giveBack connection) fun _ => .done result).Assures
      (surroundings.recorded ()) (.alone _)
      (fun result course => ∃ outcome, result = .ok outcome ∧ Ended writes course outcome)
      course := by
  apply giveBack_assures stands
  intro course stands
  refine ⟨result, rfl, .ok connection, stands.acquires, ?_⟩
  rw [stands.sends]
  exact transacted

/-- A transaction that sends writes ends in one of the ways that there are. -/
theorem inTransaction_assures {body : Connection → SqlAction Unit} {writes : List Write}
    (isBody : ∀ connection, (body connection).attempt = writeAll connection writes)
    (stands : Stands course [] []) :
    (inTransaction body).attempt.Assures (surroundings.recorded ()) (.alone _)
      (fun result course => ∃ outcome, result = .ok outcome ∧ Ended writes course outcome)
      course := by
  rw [inTransaction_eq]
  apply acquire_assures stands
  intro connected course stands
  cases connected with
  | error error =>
      exact ⟨.error error.toFailure, rfl, .error error, stands.acquires, stands.sends, rfl⟩
  | ok connection =>
      apply send_assures stands
      intro opened course stands
      cases opened with
      | error error => exact giveBack_ends stands (.unopened error)
      | ok opened =>
          rw [isBody connection]
          apply (writeAll_assures connection writes stands).andThen
          · rintro outcome course ⟨_, log, same, stands, written⟩
            cases same
            cases outcome with
            | error failure =>
                apply send_assures stands
                intro undone course stands
                rw [List.append_assoc] at stands
                exact giveBack_ends stands (.abandoned opened written undone)
            | ok _ =>
                apply send_assures stands
                intro closed course stands
                rw [List.append_assoc] at stands
                cases closed with
                | ok closed => exact giveBack_ends stands (.committed opened written closed)
                | error error =>
                    apply send_assures stands
                    intro undone course stands
                    rw [List.append_assoc, List.append_assoc log] at stands
                    exact giveBack_ends stands (.uncommitted opened written error undone)
          · rintro cause course ⟨_, _, same, _⟩
            exact nomatch same

/-! ## What the statements tell -/

/-- A transaction of these writes, told by the statements that were sent and their replies. -/
structure Atomic (connection : Connection) (writes : List Write) (log : List Sending)
    (result : Except Failure Unit) : Prop where
  oneConnection : ∀ sending ∈ log, sending.connection = connection
  /-- The writes follow each other in their order, as far as they are sent, and nothing else is
  sent between the opening and the end. -/
  inOrder : ∃ front ending, front <+: writes.map (·.statement) ∧
    ending ∈ [[], [.rollback], [.commit], [.commit, .rollback]] ∧
    log.map (·.statement) = .begin :: (front ++ ending)
  /-- The commit is sent only when the transaction was opened and each write was sent and has
  passed. -/
  complete : (∃ sending ∈ log, sending.statement = .commit) →
    ∃ opening passed closing, log = opening :: (passed ++ closing) ∧
      opening.statement = .begin ∧ (∃ answer, opening.reply = .ok answer) ∧
      List.Forall₂ Write.Passes writes passed ∧
      closing.map (·.statement) ∈ [[.commit], [.commit, .rollback]]
  /-- The transaction has ended well exactly if the commit has. -/
  committed : result = .ok () ↔
    ∃ sending ∈ log, sending.statement = .commit ∧ ∃ answer, sending.reply = .ok answer
  /-- The failure of a transaction is that of one of its statements. Unless this is the opening,
  nothing but the rollback is sent after it. -/
  failed : ∀ failure, result = .error failure →
    ∃ front sending rest, log = front ++ sending :: rest ∧
      ((∃ error, sending.reply = .error error ∧ failure = error.toFailure) ∨
        ∃ write ∈ writes, sending.statement = write.statement ∧
          write.outcome sending.reply = .error failure) ∧
      (sending.statement = .begin ∧ rest = [] ∨ rest.map (·.statement) = [.rollback])

/-- A commit is sent at the end of a transaction only. -/
theorem mem_closing_of_commit {opening sending : Sending} {log closing : List Sending}
    (isBegin : opening.statement = .begin) (others : ∀ sending ∈ log, sending.statement ≠ .commit)
    (member : sending ∈ opening :: (log ++ closing)) (isCommit : sending.statement = .commit) :
    sending ∈ closing := by
  rw [List.mem_cons, List.mem_append] at member
  rcases member with rfl | member | member
  · rw [isBegin] at isCommit
    exact absurd isCommit (by decide)
  · exact absurd isCommit (others sending member)
  · exact member

/-- However a transaction of writes ends, its statements tell the same. -/
theorem Transacted.atomic {connection : Connection} {writes : List Write} {log : List Sending}
    {result : Except Failure Unit} (transacted : Transacted connection writes log result)
    (others : ∀ write ∈ writes, write.statement ≠ .commit) :
    Atomic connection writes log result := by
  cases transacted with
  | unopened error =>
      have noCommit : ¬∃ sending ∈ [(⟨connection, .begin, .error error⟩ : Sending)],
          sending.statement = .commit := by
        simp [Statement.begin, Statement.commit]
      refine ⟨by simp, ⟨[], [], List.nil_prefix, by simp, rfl⟩, ?_, ?_, ?_⟩
      · exact fun commit => absurd commit noCommit
      · refine ⟨nofun, ?_⟩
        rintro ⟨sending, member, isCommit, -⟩
        exact absurd ⟨sending, member, isCommit⟩ noCommit
      · intro failure same
        cases same
        exact ⟨[], _, [], rfl, .inl ⟨error, rfl, rfl⟩, .inl ⟨rfl, rfl⟩⟩
  | @abandoned opened log failure written undone =>
      have noCommit : ¬∃ sending ∈ (⟨connection, .begin, .ok opened⟩ : Sending) ::
          (log ++ [⟨connection, .rollback, undone⟩]), sending.statement = .commit := by
        rintro ⟨sending, member, isCommit⟩
        have isLast := mem_closing_of_commit rfl (written.not_commit others) member isCommit
        cases List.mem_singleton.mp isLast
        exact absurd isCommit (by decide : Statement.rollback ≠ .commit)
      refine ⟨?_, ⟨_, [.rollback], written.statements_prefix, by simp, by simp⟩, ?_, ?_, ?_⟩
      · simpa [or_imp, forall_and] using written.same_connection
      · exact fun commit => absurd commit noCommit
      · refine ⟨nofun, ?_⟩
        rintro ⟨sending, member, isCommit, -⟩
        exact absurd ⟨sending, member, isCommit⟩ noCommit
      · intro failure same
        cases same
        obtain ⟨passed, write, rest, front, sending, rfl, rfl, -, isStatement, refusal⟩ :=
          written.exists_refused rfl
        exact ⟨⟨connection, .begin, .ok opened⟩ :: front, sending,
          [⟨connection, .rollback, undone⟩], by simp,
          .inr ⟨write, by simp, isStatement, refusal⟩, .inr rfl⟩
  | @uncommitted opened log written error undone =>
      refine ⟨?_, ⟨_, [.commit, .rollback], written.statements_prefix, by simp, by simp⟩,
        ?_, ?_, ?_⟩
      · simpa [or_imp, forall_and] using written.same_connection
      · exact fun _ => ⟨_, _, _, rfl, rfl, ⟨opened, rfl⟩, written.all_passed rfl, by simp⟩
      · refine ⟨nofun, ?_⟩
        rintro ⟨sending, member, isCommit, answer, succeeded⟩
        have isLast := mem_closing_of_commit rfl (written.not_commit others) member isCommit
        rw [List.mem_cons, List.mem_singleton] at isLast
        rcases isLast with rfl | rfl
        · exact nomatch succeeded
        · exact absurd isCommit (by decide : Statement.rollback ≠ .commit)
      · intro failure same
        cases same
        exact ⟨⟨connection, .begin, .ok opened⟩ :: log, ⟨connection, .commit, .error error⟩,
          [⟨connection, .rollback, undone⟩], by simp, .inl ⟨error, rfl, rfl⟩, .inr rfl⟩
  | @committed opened log written closed =>
      refine ⟨?_, ⟨_, [.commit], written.statements_prefix, by simp, by simp⟩, ?_, ?_, ?_⟩
      · simpa [or_imp, forall_and] using written.same_connection
      · exact fun _ => ⟨_, _, _, rfl, rfl, ⟨opened, rfl⟩, written.all_passed rfl, by simp⟩
      · exact iff_of_true rfl ⟨⟨connection, .commit, .ok closed⟩, by simp, rfl, closed, rfl⟩
      · exact fun failure same => nomatch same

/-- What is done on a course is one transaction of these writes: a connection is asked for once,
and if it is given then the transaction goes over it. -/
def IsTransaction (writes : List Write) (course : SqlCourse) (result : Except Failure Unit) :
    Prop :=
  ∃ connected, acquired course.history = [connected] ∧
    match connected with
    | .error error => sent course.history = [] ∧ result = .error error.toFailure
    | .ok connection => Atomic connection writes (sent course.history) result

theorem Ended.isTransaction {writes : List Write} {course : SqlCourse}
    {result : Except Failure Unit} (ended : Ended writes course result)
    (others : ∀ write ∈ writes, write.statement ≠ .commit) :
    IsTransaction writes course result := by
  obtain ⟨connected, isConnected, ended⟩ := ended
  refine ⟨connected, isConnected, ?_⟩
  cases connected with
  | error error => exact ended
  | ok connection => exact ended.atomic others

end Transaction

end Shortlink.Postgres
