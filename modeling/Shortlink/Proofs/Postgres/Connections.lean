import Mathlib.Data.List.Infix
import Shortlink.Postgres.Storage
import Shortlink.Proofs.Link.Code
import Shortlink.Proofs.Outbox.Invalidation
import Shortlink.Proofs.Postgres.Saves

/-!
# Connections of a dispatch run

How many connections a dispatch run holds while it asks for one more. Every operation of the
store but the lease takes one connection and gives it back before it ends, so beside the lease
there is never more than one. The lease keeps its own connection for the whole batch, so all
that a batch does needs a second one.
-/

namespace Shortlink

/-- The requests that take or give up the right to dispatch. -/
def Effect.IsLeasing : Effect → Prop
  | .tryLease | .releaseLease _ | .dropLease _ => True
  | _ => False

namespace Postgres

namespace Transaction

/-! ## Connections that are held -/

/-- The connections that are held after one more exchange. -/
def heldAfter (held : List Connection) : Exchange Unit Sql.interface Shared → List Connection
  | ⟨_, .acquire, .ok (.ok connection), _, _⟩ => connection :: held
  | ⟨_, .giveBack connection, _, _, _⟩ => held.erase connection
  | _ => held

/-- The connections that were handed out and not given back since. -/
def held (history : List (Exchange Unit Sql.interface Shared)) : List Connection :=
  history.foldl heldAfter []

/-- Whenever a connection was asked for, fewer than so many were held. -/
def Spares (limit : Nat) (history : List (Exchange Unit Sql.interface Shared)) : Prop :=
  ∀ earlier exchange, earlier ++ [exchange] <+: history → exchange.request = .acquire →
    (held earlier).length < limit

/-- There were never more than so many connections handed out. -/
def Pooled (limit : Nat) (history : List (Exchange Unit Sql.interface Shared)) : Prop :=
  ∀ earlier, earlier <+: history → (held earlier).length ≤ limit

variable {history : List (Exchange Unit Sql.interface Shared)}
  {exchange : Exchange Unit Sql.interface Shared} {limit : Nat}

theorem held_concat (history : List (Exchange Unit Sql.interface Shared))
    (exchange : Exchange Unit Sql.interface Shared) :
    held (history ++ [exchange]) = heldAfter (held history) exchange := by
  simp [held]

theorem spares_concat :
    Spares limit (history ++ [exchange]) ↔
      Spares limit history ∧ (exchange.request = .acquire → (held history).length < limit) := by
  constructor
  · intro spares
    exact ⟨fun earlier other before => spares earlier other (before.trans (List.prefix_append _ _)),
      spares history exchange List.prefix_rfl⟩
  · rintro ⟨spares, last⟩ earlier other before
    rcases List.prefix_concat_iff.mp before with same | before
    · obtain ⟨rfl, isLast⟩ := List.append_inj' same rfl
      rw [List.singleton_inj] at isLast
      rw [isLast]
      exact last
    · exact spares earlier other before

theorem Spares.mono {more : Nat} (spares : Spares limit history) (le : limit ≤ more) :
    Spares more history :=
  fun earlier exchange before asks => Nat.lt_of_lt_of_le (spares earlier exchange before asks) le

/-- A course on which these connections are held, and at most one was held whenever another one
was asked for. -/
structure Holds (course : SqlCourse) (connections : List Connection) : Prop where
  held : held course.history = connections
  spares : Spares 2 course.history

section rules

variable {α : Type} {course : SqlCourse} {connections : List Connection}
  {connection : Connection} {post : Except Abort α → SqlCourse → Prop}

theorem Holds.extend (holds : Holds course connections)
    (exchange : Exchange Unit Sql.interface Shared)
    (few : exchange.request = .acquire → connections.length < 2) :
    Holds (course.extend exchange) (heldAfter connections exchange) := by
  constructor
  · rw [Course.extend_history, held_concat, holds.held]
  · rw [Course.extend_history, spares_concat, holds.held]
    exact ⟨holds.spares, few⟩

/-- The rule of asking for a connection. -/
theorem acquire_holds {next : Except SqlError Connection → SqlProgram α}
    (holds : Holds course connections) (few : connections.length < 2)
    (refused : ∀ error course, Holds course connections →
      (next (.error error)).Assures (surroundings.recorded ()) (.alone _) post course)
    (given : ∀ connection course, Holds course (connection :: connections) →
      (next (.ok connection)).Assures (surroundings.recorded ()) (.alone _) post course) :
    (Script.ask Sql.acquire next).Assures (surroundings.recorded ()) (.alone _) post course := by
  apply Script.Assures.step_of_ok
  intro reaction
  refine ⟨reaction.connection, _, rfl, ?_⟩
  have asked := holds.extend ⟨(), .acquire, .ok reaction.connection, course.state, course.state⟩
    fun _ => few
  cases reply : reaction.connection with
  | error error =>
      rw [reply] at asked
      exact refused error _ asked
  | ok connection =>
      rw [reply] at asked
      exact given connection _ asked

/-- The rule of giving a connection back. -/
theorem giveBack_holds {next : Unit → SqlProgram α}
    (holds : Holds course (connection :: connections))
    (goesOn : ∀ course, Holds course connections →
      (next ()).Assures (surroundings.recorded ()) (.alone _) post course) :
    (Script.ask (Sql.giveBack connection) next).Assures (surroundings.recorded ()) (.alone _) post
      course := by
  apply Script.Assures.step_of_ok
  intro reaction
  refine ⟨(), _, rfl, goesOn _ ?_⟩
  have asked := holds.extend ⟨(), .giveBack connection, .ok (), course.state, course.state⟩ nofun
  simp only [heldAfter, List.erase_cons_head] at asked
  exact asked

/-- The rule of sending a statement. -/
theorem send_holds {statement : Statement} {next : Except SqlError Answer → SqlProgram α}
    (holds : Holds course connections)
    (goesOn : ∀ reply course, Holds course connections →
      (next reply).Assures (surroundings.recorded ()) (.alone _) post course) :
    (Script.ask (Sql.send connection statement) next).Assures (surroundings.recorded ()) (.alone _)
      post course := by
  apply Script.Assures.step_of_ok
  intro reaction
  exact ⟨reaction.answer, _, rfl, goesOn _ _ (holds.extend _ nofun)⟩

/-- A transaction that is taken back has given up its connection. -/
theorem abandon_holds (holds : Holds course (connection :: connections)) :
    (abandon connection).Assures (surroundings.recorded ()) (.alone _)
      (fun _ course => Holds course connections) course :=
  send_holds holds fun _ _ holds => giveBack_holds holds fun _ holds => holds

/-- A transaction has given up its connection however its last statement ends. -/
theorem conclude_holds (statement : Statement)
    (holds : Holds course (connection :: connections)) :
    (conclude connection statement).attempt.Assures (surroundings.recorded ()) (.alone _)
      (fun _ course => Holds course connections) course := by
  apply send_holds holds
  intro reply course holds
  cases reply with
  | ok answer => exact giveBack_holds holds fun _ holds => holds
  | error error =>
      exact (abandon_holds holds).andThen (fun _ _ holds => holds) fun _ _ holds => holds

end rules

/-! ## Operations of the store -/

/-- While at most one connection is held, the program holds at most one more at a time, and has
given it back when it ends. -/
def IsFrugal {α : Type} (program : SqlProgram α) : Prop :=
  ∀ course connections, Holds course connections → connections.length < 2 →
    program.Assures (surroundings.recorded ()) (.alone _)
      (fun _ course => Holds course connections) course

namespace IsFrugal

variable {α β : Type}

theorem done (value : α) : IsFrugal (.done value) := fun _ _ holds _ => holds

theorem beside (request : Effect) : IsFrugal (query (.beside request)) := by
  intro course connections holds few
  have asks : (query (.beside request)).Asks (· = Sql.beside request) :=
    ⟨rfl, fun _ => True.intro⟩
  have step : ∀ asked, asked = Sql.beside request → ∀ reaction course, Holds course connections →
      True ∧ Holds ((surroundings.recorded ()).answer reaction asked course).2 connections := by
    rintro _ rfl reaction course holds
    exact ⟨True.intro, holds.extend _ nofun⟩
  exact asks.assures (Script.alone_keeps (Holds · connections)) step holds

theorem andThen {program : SqlProgram α} {next : α → SqlProgram β} (first : IsFrugal program)
    (second : ∀ value, IsFrugal (next value)) : IsFrugal (program.andThen next) := by
  intro course connections holds few
  apply (first course connections holds few).andThen
  · exact fun value course holds => second value course connections holds few
  · exact fun cause course holds => holds

theorem bind {action : SqlAction α} {next : α → SqlAction β} (first : IsFrugal action.attempt)
    (second : ∀ value, IsFrugal (next value).attempt) : IsFrugal (action >>= next).attempt := by
  apply first.andThen
  intro result
  cases result with
  | ok value => exact second value
  | error failure => exact done _

theorem ofResult (result : Except SqlError α) : IsFrugal (SqlAction.ofResult result).attempt :=
  done _

theorem execute (statement : Statement) : IsFrugal (execute statement).attempt := by
  intro course connections holds few
  apply acquire_holds holds few
  · exact fun error course holds => holds
  · exact fun connection course holds =>
      send_holds holds fun _ _ holds => giveBack_holds holds fun _ holds => holds

theorem writeAll_holds {course : SqlCourse} {connections : List Connection}
    (connection : Connection) (writes : List Write) (holds : Holds course connections) :
    (writeAll connection writes).Assures (surroundings.recorded ()) (.alone _)
      (fun result course => (∃ outcome, result = .ok outcome) ∧ Holds course connections)
      course := by
  induction writes generalizing course with
  | nil => exact ⟨⟨_, rfl⟩, holds⟩
  | cons write rest ih =>
      apply send_holds holds
      intro reply course holds
      cases write.outcome reply with
      | ok _ => exact ih holds
      | error failure => exact ⟨⟨_, rfl⟩, holds⟩

theorem inTransaction {body : Connection → SqlAction Unit} {writes : List Write}
    (isWrites : ∀ connection, (body connection).attempt = writeAll connection writes) :
    IsFrugal (inTransaction body).attempt := by
  intro course connections holds few
  rw [inTransaction_eq]
  apply acquire_holds holds few
  · exact fun error course holds => holds
  · intro connection course holds
    apply send_holds holds
    intro opened course holds
    cases opened with
    | error error => exact giveBack_holds holds fun _ holds => holds
    | ok answer =>
        dsimp only
        rw [isWrites]
        apply (writeAll_holds connection writes holds).andThen
        · rintro result course ⟨-, holds⟩
          cases result with
          | error failure =>
              exact send_holds holds fun _ _ holds => giveBack_holds holds fun _ holds => holds
          | ok _ =>
              apply send_holds holds
              intro closed course holds
              cases closed with
              | ok _ => exact giveBack_holds holds fun _ holds => holds
              | error error =>
                  exact send_holds holds fun _ _ holds => giveBack_holds holds fun _ holds => holds
        · rintro cause course ⟨⟨outcome, isEnd⟩, -⟩
          exact nomatch isEnd

theorem commit (link : Link) (prepared : PreparedSave) (row : Write)
    (isPending : prepared.messages = link.pending.map .ofEvent) :
    IsFrugal (LinkTable.commit link prepared (LinkTable.sendRow row)) := by
  have written := inTransaction fun connection =>
    LinkTable.sendRow_insertAll row connection link.pending
  rw [← isPending] at written
  apply written.andThen
  intro result
  cases result with
  | ok _ => exact done _
  | error failure => exact done _

/-- Every operation of the store but those of the lease is frugal, and so is what is not asked of
the store. -/
theorem serve {request : Effect} (isOther : ¬ request.IsLeasing) : IsFrugal (serve request) := by
  cases request with
  | tryLease => exact (isOther True.intro).elim
  | releaseLease lease => exact (isOther True.intro).elim
  | dropLease lease => exact (isOther True.intro).elim
  | codeExists code | outboxStats | isConsumed marker =>
      exact bind (execute _) fun answer => bind (ofResult _) fun row => ofResult _
  | listLinks offset limit | fetchMessages limit =>
      exact bind (execute _) fun answer => ofResult _
  | requeue id | markConsumed marker => exact bind (execute _) fun answer => done _
  | findByCode code =>
      apply bind (execute _)
      intro answer
      split
      · exact done _
      · exact bind (ofResult _) fun link => done _
  | addLink link =>
      simp only [Postgres.serve, LinkTable.add_eq]
      exact (beside .now).andThen fun now => commit link _ _ rfl
  | updateLink link change =>
      simp only [Postgres.serve, LinkTable.update_eq]
      exact (beside .now).andThen fun now => commit link _ _ rfl
  | saveProcessed messages =>
      exact inTransaction fun connection => OutboxTable.saveAll_eq connection messages
  | _ => exact beside _

/-- A computation that leaves the lease alone is frugal. -/
theorem withDatabase {program : Program α}
    (asks : program.Asks fun request : Effect => ¬ request.IsLeasing) :
    IsFrugal (withDatabase program) := by
  induction program with
  | done value => exact done value
  | abort cause => exact fun _ _ holds _ => holds
  | ask request next ih => exact (serve asks.1).andThen fun reply => ih reply (asks.2 reply)

end IsFrugal

/-! ## The lease -/

section lease

variable {α : Type} {course : SqlCourse} {connections : List Connection}

/-- A request for the lease has left what it should: with a lease its connection is held, and
without one none is. -/
def Leases : Except Abort (Except Failure (Option Lease)) → SqlCourse → Prop
  | .ok (.ok (some lease)), course => Holds course [⟨lease.token⟩]
  | _, course => Holds course []

theorem lock_holds (connection : Connection) (holds : Holds course connections) :
    (OutboxTable.tryLease.lock connection).attempt.Assures (surroundings.recorded ()) (.alone _)
      (fun result course => (∃ isLocked, result = .ok isLocked) ∧ Holds course connections)
      course := by
  apply send_holds holds
  intro reply course holds
  cases reply with
  | error error => exact ⟨⟨_, rfl⟩, holds⟩
  | ok answer =>
      change (SqlAction.ofResult answer.oneRow >>= fun row =>
        SqlAction.ofResult (readBool row)).attempt.Assures _ _ _ _
      cases answer.oneRow with
      | error error => exact ⟨⟨_, rfl⟩, holds⟩
      | ok row => exact ⟨⟨_, rfl⟩, holds⟩

theorem tryLease_leases (holds : Holds course []) :
    (serve .tryLease).Assures (surroundings.recorded ()) (.alone _) Leases course := by
  apply acquire_holds holds Nat.two_pos
  · exact fun error course holds => holds
  intro connection course holds
  apply send_holds holds
  intro opened course holds
  cases opened with
  | error error => exact giveBack_holds holds fun _ holds => holds
  | ok answer =>
      apply (lock_holds connection holds).andThen
      · rintro result course ⟨-, holds⟩
        match result with
        | .ok true => exact holds
        | .ok false =>
          apply (conclude_holds .rollback holds).andThen
          · intro result course holds
            cases result with
            | ok _ => exact holds
            | error failure => exact holds
          · exact fun cause course holds => holds
        | .error failure =>
          exact (abandon_holds holds).andThen (fun _ _ holds => holds) fun _ _ holds => holds
      · rintro cause course ⟨⟨isLocked, isEnd⟩, -⟩
        exact nomatch isEnd

theorem release_holds {lease : Lease} (holds : Holds course [⟨lease.token⟩]) :
    (serve (.releaseLease lease)).Assures (surroundings.recorded ()) (.alone _)
      (fun _ course => Holds course []) course :=
  conclude_holds .commit holds

theorem drop_holds {lease : Lease} (holds : Holds course [⟨lease.token⟩]) :
    (withDatabase (ask (.dropLease lease))).Assures (surroundings.recorded ()) (.alone _)
      (fun _ course => Holds course []) course :=
  (abandon_holds holds).andThen (fun _ _ holds => holds) fun _ _ holds => holds

/-- What is left of a computation under a lease: it still has its connection, unless it has broken
off. -/
def Keeps (lease : Lease) : Except Abort α → SqlCourse → Prop
  | .ok _, course => Holds course [⟨lease.token⟩]
  | .error _, course => Spares 2 course.history

theorem batch_keeps {lease : Lease} {program : Program α}
    (asks : program.Asks fun request : Effect => ¬ request.IsLeasing)
    (holds : Holds course [⟨lease.token⟩]) :
    (withDatabase (program.onAbort (ask (.dropLease lease)))).Assures (surroundings.recorded ())
      (.alone _) (Keeps lease) course := by
  induction program generalizing course with
  | done value => exact holds
  | abort cause =>
      have dropped := drop_holds holds
      apply dropped.andThen
      · exact fun _ course holds => holds.spares
      · exact fun _ course holds => holds.spares
  | ask request next ih =>
      apply (IsFrugal.serve asks.1 course _ holds Nat.one_lt_two).andThen
      · exact fun reply course holds => ih reply (asks.2 reply) holds
      · exact fun cause course holds => holds.spares

end lease

/-- Whenever a run asks for a connection it holds at most one, and at its end it holds none. -/
theorem runOnce_holds {dispatcher : Dispatcher} {course : SqlCourse}
    (handles : dispatcher.bus.Handles fun request => ¬ request.IsLeasing)
    (holds : Holds course []) :
    (withDatabase dispatcher.runOnce.attempt).Assures (surroundings.recorded ()) (.alone _)
      (fun result course => Spares 2 course.history ∧
        ∀ outcome, result = .ok outcome → held course.history = [])
      course := by
  have batch : dispatcher.dispatchBatch.attempt.Asks
      fun request : Effect => ¬ request.IsLeasing := by
    apply Dispatcher.dispatchBatch_asks _ handles
    intro request isDelivery isLeasing
    cases request with
    | tryLease | releaseLease | dropLease => exact isDelivery
    | _ => exact isLeasing
  rw [Dispatcher.runOnce_eq]
  apply (tryLease_leases holds).andThen
  · intro reply course leases
    match reply with
    | .error failure => exact ⟨leases.spares, fun _ _ => leases.held⟩
    | .ok none => exact ⟨leases.spares, fun _ _ => leases.held⟩
    | .ok (some lease) =>
        change (withDatabase (Script.andThen _ _)).Assures _ _ _ _
        rw [withDatabase, Script.interpret_andThen]
        apply (batch_keeps batch leases).andThen
        · intro result course keeps
          apply (release_holds keeps).andThen
          · exact fun _ course holds => ⟨holds.spares, fun _ _ => holds.held⟩
          · exact fun cause course holds => ⟨holds.spares, nofun⟩
        · exact fun cause course spares => ⟨spares, nofun⟩
  · exact fun cause course holds => ⟨holds.spares, nofun⟩

/-! ## A pool of one connection -/

/-- The reactions of a database with one connection, which is free at the beginning and is never
free again once it was handed out. -/
def lonely (chance : Chance) : Nat → Reaction
  | 0 => ⟨chance, .ok ⟨0⟩, .ok ⟨[], 0⟩⟩
  | _ + 1 => ⟨chance, .error .poolTimedOut, .ok ⟨[[.bool true]], 0⟩⟩

/-- What a run asks of such a database: its fetch finds the only connection taken, by the run's own
lease. -/
def lonelyHistory (shared : Shared) : List (Exchange Unit Sql.interface Shared) :=
  [⟨(), .acquire, .ok (.ok ⟨0⟩), shared, shared⟩,
    ⟨(), .send ⟨0⟩ .begin, .ok (.ok ⟨[[.bool true]], 0⟩), shared, shared⟩,
    ⟨(), .send ⟨0⟩ OutboxTable.lockStatement, .ok (.ok ⟨[[.bool true]], 0⟩), shared, shared⟩,
    ⟨(), .acquire, .ok (.error .poolTimedOut), shared, shared⟩,
    ⟨(), .send ⟨0⟩ .commit, .ok (.ok ⟨[[.bool true]], 0⟩), shared, shared⟩,
    ⟨(), .giveBack ⟨0⟩, .ok (), shared, shared⟩]

theorem nonempty_chance : Nonempty Chance :=
  ⟨0, ⟨⟨1970, 1, 1, by decide, by decide, by decide⟩, 0, 0, 0, 0, by decide, by decide,
    by decide, by decide⟩, ⟨0⟩, false, ⟨0, .ok ()⟩⟩

theorem lonely_asks (dispatcher : Dispatcher) (chance : Chance) (shared : Shared) :
    let run := perform (lonely chance) shared (withDatabase dispatcher.runOnce.attempt)
    Pooled 1 run.2.history ∧ ¬ Spares 1 run.2.history := by
  intro run
  have same : run.2.history = lonelyHistory shared := rfl
  rw [same]
  constructor
  · have few : ∀ earlier ∈ (lonelyHistory shared).inits, (held earlier).length ≤ 1 := by
      simp [lonelyHistory, held, heldAfter]
    exact fun earlier before => few earlier ((List.mem_inits _ _).mpr before)
  · intro spares
    have few := spares ((lonelyHistory shared).take 3)
      ⟨(), .acquire, .ok (.error .poolTimedOut), shared, shared⟩ ⟨_, rfl⟩ rfl
    exact absurd few (Nat.lt_irrefl 1)

end Transaction

open Transaction Settings

/-- The dispatch runs of a configuration leave themselves a connection: whenever such a run asks
for one over a pool of the configured size, the run itself holds fewer than there are. -/
def DispatchSpares (config : Config) (bus : Bus) : Prop :=
  ∀ reactions shared,
    let run := perform reactions shared
      (withDatabase (Dispatcher.runOnce ⟨config.dispatch, bus⟩).attempt)
    Pooled config.maxConnections run.2.history → Spares config.maxConnections run.2.history

/-- With a configuration that is accepted, dispatch runs leave themselves a connection exactly if
there are at least two. -/
theorem dispatch_spares_connection_iff {config : Config} (accepted : config.check = .ok ())
    {bus : Bus} (handles : bus.Handles fun request => ¬ request.IsLeasing) :
    DispatchSpares config bus ↔ 2 ≤ config.maxConnections := by
  constructor
  · intro spares
    have positive := (Config.check_eq_ok.mp accepted).maxConnections
    by_contra few
    have one : config.maxConnections = 1 := by omega
    obtain ⟨chance⟩ := nonempty_chance
    have alone := lonely_asks ⟨config.dispatch, bus⟩ chance ⟨{}, none, 0⟩
    rw [← one] at alone
    exact alone.2 (spares _ _ alone.1)
  · intro two reactions shared run pooled
    have begins : Holds ⟨[], shared⟩ [] := ⟨rfl, by simp [Spares]⟩
    exact ((runOnce_holds handles begins).perform reactions).1.mono two

theorem dispatch_spares_connection_iff_of_standard :
    Config.withDatabase.check = .ok () ∧
      Bus.standard.Handles (fun request => ¬ request.IsLeasing) ∧
      DispatchSpares Config.withDatabase .standard := by
  have accepted : Config.withDatabase.check = .ok () := by rfl
  have handles : Bus.standard.Handles fun request => ¬ request.IsLeasing := by
    apply Bus.standard_handles.mono
    intro request isInvalidation isLeasing
    cases request with
    | tryLease | releaseLease | dropLease => exact isInvalidation
    | _ => exact isLeasing
  exact ⟨accepted, handles, (dispatch_spares_connection_iff accepted handles).mpr (by decide)⟩

/-- A configuration with one connection is accepted, and its dispatch runs wait for a connection
that they hold themselves. -/
theorem accepts_connections_too_few :
    let config : Config := { Config.withDatabase with maxConnections := 1 }
    config.check = .ok () ∧ ¬ DispatchSpares config .standard := by
  refine ⟨by rfl, fun spares => ?_⟩
  obtain ⟨chance⟩ := nonempty_chance
  have alone := lonely_asks ⟨Config.withDatabase.dispatch, .standard⟩ chance ⟨{}, none, 0⟩
  exact alone.2 (spares _ _ alone.1)

end Postgres

end Shortlink
