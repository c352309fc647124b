import Shortlink.Settings.Check

/-!
# Accepted configurations

What the check of a configuration makes sure of. It is stated once, setting by setting, so that
nothing else has to look at the order of the checks.
-/

namespace Shortlink.Settings.Config

/-! ## Sequences of checks -/

theorem ensure_eq_ok {condition : Bool} {error : ConfigError} :
    ensure condition error = .ok () ↔ condition = true := by
  cases condition <;> simp [ensure]

/-- Two checks are passed if both are. -/
theorem both_eq_ok {first second : Except ConfigError Unit} :
    (first >>= fun _ => second) = .ok () ↔ first = .ok () ∧ second = .ok () := by
  cases first <;> simp [bind, Except.bind]

/-- A value that is only asked for passes the check if there is one. -/
theorem some_eq_ok {α : Type} {first : Except ConfigError α} {second : Except ConfigError Unit} :
    (first >>= fun _ => second) = .ok () ↔ (∃ value, first = .ok value) ∧ second = .ok () := by
  cases first <;> simp [bind, Except.bind]

/-- What is true of the settings of a job that can be scheduled. -/
structure AcceptedJob (job : JobSettings) : Prop where
  name : Text.trim job.name.toList ≠ []
  schedule : ∃ schedule, Cron.Schedule.parse? job.schedule = some schedule

theorem checkJob_eq_ok {job : JobSettings} : checkJob job = .ok () ↔ AcceptedJob job := by
  simp only [checkJob, both_eq_ok, ensure_eq_ok, Option.isSome_iff_exists, Bool.not_eq_true',
    List.isEmpty_eq_false_iff]
  exact ⟨fun checked => ⟨checked.1, checked.2⟩, fun accepted => ⟨accepted.name, accepted.schedule⟩⟩

theorem checkJobs_eq_ok {jobs : List JobSettings} :
    checkJobs jobs = .ok () ↔ ∀ job ∈ jobs, AcceptedJob job := by
  induction jobs with
  | nil => simp [checkJobs]
  | cons job rest induction =>
      simp only [checkJobs, both_eq_ok, checkJob_eq_ok, induction, List.mem_cons, forall_eq_or_imp]

/-! ## The settings one by one -/

/-- What is true of the settings of a configuration that can be used. -/
structure Accepted (config : Config) : Prop where
  logFormat : config.logFormat ∈ logFormats
  listenAddress : ':' ∈ config.listenAddress.toList
  databaseUrl : startsWithAny databaseOpenings config.databaseUrl = true
  redisUrl : ∀ url, config.redisUrl = some url → startsWithAny cacheOpenings url = true
  cacheTtl : config.cacheTtl ≠ 0
  maxConnections : config.maxConnections ≠ 0
  connectTimeout : config.connectTimeout ≠ 0
  codes : ∃ codes, config.codes = .ok codes
  batchSize : 1 ≤ config.batchSize ∧ config.batchSize ≤ maxBatchSize
  maxAttempts : 1 ≤ config.maxAttempts ∧ config.maxAttempts ≤ maxDeliveryAttempts
  jobs : ∀ job ∈ config.jobs, AcceptedJob job

theorem checkConnections_eq_ok {config : Config} :
    config.checkConnections = .ok () ↔
      config.logFormat ∈ logFormats ∧ ':' ∈ config.listenAddress.toList ∧
      startsWithAny databaseOpenings config.databaseUrl = true ∧
      (∀ url, config.redisUrl = some url → startsWithAny cacheOpenings url = true) ∧
      config.cacheTtl ≠ 0 ∧ config.maxConnections ≠ 0 ∧ config.connectTimeout ≠ 0 := by
  cases found : config.redisUrl with
  | none =>
      simp only [checkConnections, found, both_eq_ok, ensure_eq_ok, bne_iff_ne,
        List.contains_iff_mem, reduceCtorEq, false_implies, implies_true, true_and]
  | some url =>
      simp only [checkConnections, found, both_eq_ok, ensure_eq_ok, bne_iff_ne,
        List.contains_iff_mem, Option.some.injEq, forall_eq']

/-- A configuration passes the check exactly if all its settings can be used. -/
theorem check_eq_ok {config : Config} : config.check = .ok () ↔ config.Accepted := by
  rw [check, both_eq_ok, some_eq_ok, both_eq_ok, both_eq_ok, checkConnections_eq_ok,
    ensure_eq_ok, ensure_eq_ok, checkJobs_eq_ok, Bool.and_eq_true, Bool.and_eq_true]
  simp only [decide_eq_true_eq]
  constructor
  · rintro ⟨⟨logFormat, listenAddress, databaseUrl, redisUrl, cacheTtl, maxConnections,
      connectTimeout⟩, codes, batchSize, maxAttempts, jobs⟩
    exact ⟨logFormat, listenAddress, databaseUrl, redisUrl, cacheTtl, maxConnections,
      connectTimeout, codes, batchSize, maxAttempts, jobs⟩
  · intro accepted
    exact ⟨⟨accepted.logFormat, accepted.listenAddress, accepted.databaseUrl, accepted.redisUrl,
      accepted.cacheTtl, accepted.maxConnections, accepted.connectTimeout⟩, accepted.codes,
      accepted.batchSize, accepted.maxAttempts, accepted.jobs⟩

end Shortlink.Settings.Config
