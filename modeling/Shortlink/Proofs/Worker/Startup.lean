import Shortlink.Outbox.Invalidation
import Shortlink.Proofs.Settings.Check
import Shortlink.Worker.Startup

/-!
# Starting with an accepted configuration

The check reads schedules as the job host does, so that the jobs of an accepted configuration
can be scheduled. Of the address to listen at it only looks for a colon, where the start needs
the address of a socket: a configuration with the name of a host is accepted and cannot be
started.
-/

namespace Shortlink

open Settings (Config)

/-! ## Jobs -/

namespace JobHost

variable {α : Type}

/-- A job with a readable schedule is registered. Nothing but the new job changes. -/
theorem register_of_parse {settings : JobSettings} {schedule : Cron.Schedule}
    (parsed : Cron.Schedule.parse? settings.schedule = some schedule) (host : JobHost α)
    (job : α) :
    host.register settings job =
      .ok ⟨host.jobs ++ if settings.enabled then [⟨job, schedule⟩] else []⟩ := by
  rw [register]
  cases settings.enabled with
  | true => simp only [if_true, parsed]
  | false => simp only [Bool.false_eq_true, if_false, List.append_nil]

end JobHost

namespace Startup

/-- The job is known and is to run. -/
def isScheduled (settings : JobSettings) : Bool :=
  settings.name == JobSettings.outboxJob && settings.enabled

/-- The jobs that the host has after the start: those to be scheduled, in their order. -/
theorem schedule_eq_ok {jobs : List JobSettings}
    (accepted : ∀ settings ∈ jobs, Config.AcceptedJob settings) (host : JobHost String) :
    ∃ later, schedule host jobs = .ok later ∧
      later.jobs.map (·.job) = host.jobs.map (·.job) ++ (jobs.filter isScheduled).map (·.name) := by
  induction jobs generalizing host with
  | nil => exact ⟨host, rfl, by simp⟩
  | cons settings rest induction =>
      obtain ⟨⟨-, cron, parsed⟩, others⟩ := List.forall_mem_cons.mp accepted
      rw [schedule, JobHost.register_of_parse parsed]
      by_cases known : settings.name = JobSettings.outboxJob
      · obtain ⟨later, scheduled, jobs⟩ := induction others
          ⟨host.jobs ++ if settings.enabled then [⟨settings.name, cron⟩] else []⟩
        refine ⟨later, by rw [if_pos known]; exact scheduled, ?_⟩
        rw [jobs]
        cases enabled : settings.enabled <;> simp [isScheduled, known, enabled]
      · obtain ⟨later, scheduled, jobs⟩ := induction others host
        refine ⟨later, by rw [if_neg known]; exact scheduled, ?_⟩
        rw [jobs]
        simp [isScheduled, known]

end Startup

/-! ## The address to listen at -/

namespace Web.Socket

theorem digit?_ten_eq_none {c : Char} (isOther : c.isDigit = false) : digit? 10 c = none := by
  have outside : ¬(48 ≤ c.toNat ∧ c.toNat ≤ 57) := by
    simpa [Char.isDigit, UInt32.le_iff_toNat_le] using isOther
  simp only [digit?, Ipv4.digit?, if_neg outside]
  split
  · rw [Option.bind_some, if_neg (by omega)]
  · split
    · rw [Option.bind_some, if_neg (by omega)]
    · rfl

/-- No address of the short form begins with anything but a digit. -/
theorem readSocketIpv4_eq_none {c : Char} (isOther : c.isDigit = false) (rest : List Char) :
    readSocketIpv4 (c :: rest) = none := by
  have noDigits : readDigits 10 0 0 (c :: rest) = (0, 0, c :: rest) := by
    simp only [readDigits, digit?_ten_eq_none isOther]
  have noOctet : readOctet (c :: rest) = none := by
    simp [readOctet, readNumber, noDigits]
  have noAddress : readIpv4 (c :: rest) = none := by
    change (readOctet (c :: rest)).bind _ = none
    rw [noOctet, Option.bind_none]
  change (readIpv4 (c :: rest)).bind _ = none
  rw [noAddress, Option.bind_none]

/-- What begins with neither a digit nor a bracket is no address. -/
theorem parse?_eq_none {c : Char} (isOther : c.isDigit = false) (isNoBracket : c ≠ '[')
    (rest : List Char) : parse? (c :: rest) = none := by
  have noBracket : readSocketIpv6 (c :: rest) = none := by
    change (if c = '[' then _ else none : Option (Unit × List Char)).bind _ = none
    rw [if_neg isNoBracket, Option.bind_none]
  simp only [parse?, whole?, readSocketIpv4_eq_none isOther, noBracket, Option.bind_none]

end Web.Socket

/-! ## The start -/

/-- The steps of the start that depend on an accepted configuration alone: the bus is built, every
job with the known name is registered, and the start gets as far as the address to listen at. It
succeeds from there exactly if that is the address of a socket, which the name of a host never
is. -/
theorem Startup.accepted_starts_iff_socket {config : Config} (accepted : config.check = .ok ()) :
    Bus.of Bus.standard.subscriptions = .ok Bus.standard ∧
    (∀ settings ∈ config.jobs, settings.name = JobSettings.outboxJob →
      ∀ (host : JobHost String) (job : String), ∃ later, host.register settings job = .ok later) ∧
    (∃ host, schedule .empty config.jobs = .ok host ∧
      host.jobs.map (·.job) = (config.jobs.filter isScheduled).map (·.name) ∧
      prepare config =
        match Web.Socket.parse? config.listenAddress.toList with
        | some listen => .ok ⟨host, listen⟩
        | none => .error (.plain Web.Socket.unreadable)) ∧
    ∀ first rest, config.listenAddress.toList = first :: rest → first.isDigit = false →
      first ≠ '[' → prepare config = .error (.plain Web.Socket.unreadable) := by
  have usable := (Config.check_eq_ok.mp accepted).jobs
  obtain ⟨host, scheduled, jobs⟩ := schedule_eq_ok usable .empty
  have prepared : prepare config =
      match Web.Socket.parse? config.listenAddress.toList with
      | some listen => .ok ⟨host, listen⟩
      | none => .error (.plain Web.Socket.unreadable) := by
    rw [prepare, scheduled]
    rfl
  refine ⟨Bus.of_standard, ?_, ⟨host, scheduled, jobs, prepared⟩, ?_⟩
  · intro settings member _ host job
    obtain ⟨cron, parsed⟩ := (usable settings member).schedule
    exact ⟨_, JobHost.register_of_parse parsed host job⟩
  · intro first rest named isOther isNoBracket
    rw [prepared, named, Web.Socket.parse?_eq_none isOther isNoBracket rest]

/-- With all settings but the database at their standards the service starts with its one job. -/
theorem Startup.accepted_starts_iff_socket_of_standard :
    let config : Config := { databaseUrl := "postgres://localhost/links" }
    config.check = .ok () ∧
      ∃ host : JobHost String, host.jobs.map (·.job) = [JobSettings.outboxJob] ∧
        prepare config = .ok ⟨host, .ipv4 [0, 0, 0, 0] 3000⟩ := by
  have accepted : ({ databaseUrl := "postgres://localhost/links" } : Config).check = .ok () := by
    rfl
  obtain ⟨-, -, ⟨host, -, jobs, prepared⟩, -⟩ := Startup.accepted_starts_iff_socket accepted
  exact ⟨accepted, host, jobs, prepared⟩

/-- The name of a host with a port is accepted, and the service does not start with it. -/
theorem Startup.refuses_accepted_host_name :
    let config : Config :=
      { databaseUrl := "postgres://localhost/links", listenAddress := "localhost:80" }
    config.check = .ok () ∧
      prepare config = .error (.plain "invalid socket address syntax") :=
  ⟨by rfl, by rfl⟩

end Shortlink
