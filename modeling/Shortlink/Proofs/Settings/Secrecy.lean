import Shortlink.Proofs.Settings.Masking
import Shortlink.Settings.Check
import Shortlink.Settings.Summary

/-!
# Passwords are never shown

Two environments that differ in their passwords alone are compared. What is read, checked,
reported and logged of the one is the same as of the other: by the same error, or by two
configurations that look the same with their addresses masked.
-/

namespace Shortlink.Settings

/-- Two results are alike: both are values, which are related, or both the same error. -/
inductive Alike {ε α β : Type} (related : α → β → Prop) : Except ε α → Except ε β → Prop where
  | value {one : α} {other : β} (isRelated : related one other) :
      Alike related (.ok one) (.ok other)
  | error (cause : ε) : Alike related (.error cause) (.error cause)

namespace Alike

variable {ε α β γ δ : Type}

theorem rfl_of_eq {result : Except ε α} : Alike (· = ·) result result := by
  cases result with
  | ok value => exact .value rfl
  | error cause => exact .error cause

/-- What goes on alike from values that are related is alike. -/
theorem bind {related : α → β → Prop} {later : γ → δ → Prop} {one : Except ε α}
    {other : Except ε β} {next : α → Except ε γ} {otherNext : β → Except ε δ}
    (alike : Alike related one other)
    (goesOn : ∀ value otherValue, related value otherValue →
      Alike later (next value) (otherNext otherValue)) :
    Alike later (one >>= next) (other >>= otherNext) := by
  cases alike with
  | value isRelated => exact goesOn _ _ isRelated
  | error cause => exact .error cause

/-- The same first part does not tell two computations apart. -/
theorem bind_same {later : γ → δ → Prop} {first : Except ε α} {next : α → Except ε γ}
    {otherNext : α → Except ε δ} (goesOn : ∀ value, Alike later (next value) (otherNext value)) :
    Alike later (first >>= next) (first >>= otherNext) :=
  rfl_of_eq.bind fun value _ same => same ▸ goesOn value

end Alike

/-! ## Environments -/

namespace Environment

/-- The environments have the same variables, except that the passwords may differ where both have
one. An empty password of the cache is none. -/
structure SameButPasswords (one other : Environment) : Prop where
  others : ∀ name, name ≠ "DB_PASSWORD" → name ≠ "REDIS_PASSWORD" →
    one.values.lookup name = other.values.lookup name
  database : one.values.lookup "DB_PASSWORD" = other.values.lookup "DB_PASSWORD" ∨
    ∃ password otherPassword, one.read "DB_PASSWORD" = .ok password ∧
      other.read "DB_PASSWORD" = .ok otherPassword
  cache : one.values.lookup "REDIS_PASSWORD" = other.values.lookup "REDIS_PASSWORD" ∨
    ∃ password otherPassword, password ≠ "" ∧ otherPassword ≠ "" ∧
      one.read "REDIS_PASSWORD" = .ok password ∧ other.read "REDIS_PASSWORD" = .ok otherPassword

variable {one other : Environment} {name : String}

theorem read_congr (same : one.values.lookup name = other.values.lookup name) :
    one.read name = other.read name := by
  rw [read, read, same]

theorem SameButPasswords.read (same : one.SameButPasswords other)
    (notDatabase : name ≠ "DB_PASSWORD") (notCache : name ≠ "REDIS_PASSWORD") :
    one.read name = other.read name :=
  read_congr (same.others name notDatabase notCache)

theorem SameButPasswords.read? (same : one.SameButPasswords other)
    (notDatabase : name ≠ "DB_PASSWORD") (notCache : name ≠ "REDIS_PASSWORD") :
    one.read? name = other.read? name :=
  congrArg Except.toOption (same.read notDatabase notCache)

theorem SameButPasswords.readOr (same : one.SameButPasswords other)
    (notDatabase : name ≠ "DB_PASSWORD") (notCache : name ≠ "REDIS_PASSWORD")
    (standard : String) : one.readOr name standard = other.readOr name standard :=
  congrArg (Option.getD · standard) (same.read? notDatabase notCache)

end Environment

/-! ## Addresses -/

/-- Two addresses are masked alike, and neither is told from the other by how it begins. -/
def LooksLike (openings : List String) (one other : String) : Prop :=
  mask one = mask other ∧
    (one = other ∨
      Config.startsWithAny openings one = true ∧ Config.startsWithAny openings other = true)

theorem LooksLike.refl (openings : List String) (address : String) :
    LooksLike openings address address := ⟨rfl, .inl rfl⟩

namespace Config

open Environment (SameButPasswords)

theorem startsWithAny_append {openings : List String} {opening : String}
    (isOpening : opening ∈ openings) (rest : String) :
    startsWithAny openings (opening ++ rest) = true := by
  refine List.any_eq_true.mpr ⟨opening, isOpening, ?_⟩
  rw [String.toList_append]
  exact List.isPrefixOf_iff_prefix.mpr (List.prefix_append _ _)

theorem databaseAddress_looksLike (user password other host port name : String) :
    LooksLike databaseOpenings (databaseAddress user password host port name)
      (databaseAddress user other host port name) := by
  have scheme : "postgres://" = "postgres" ++ "://" := rfl
  have split (password : String) : databaseAddress user password host port name =
      "postgres" ++ "://" ++ user ++ ":" ++ password ++ "@" ++
        (host ++ ":" ++ port ++ "/" ++ name) := by
    unfold databaseAddress
    rw [scheme]
    simp only [String.append_assoc]
  have opens (password : String) :
      startsWithAny databaseOpenings (databaseAddress user password host port name) = true := by
    unfold databaseAddress
    simp only [String.append_assoc]
    exact startsWithAny_append List.mem_cons_self _
  refine ⟨?_, .inr ⟨opens password, opens other⟩⟩
  rw [split, split]
  exact mask_password (not_isInfix_of_not_mem (by decide)) _ _ _ _

/-- The address of a cache server from its parts. -/
theorem cacheAddress_looksLike {password other : String} (isSet : password ≠ "")
    (otherIsSet : other ≠ "") (host port database : String) :
    LooksLike cacheOpenings
      ("redis://" ++ cacheCredentials (some password) ++ host ++ ":" ++ port ++ "/" ++ database)
      ("redis://" ++ cacheCredentials (some other) ++ host ++ ":" ++ port ++ "/" ++ database) := by
  have scheme : "redis://" = "redis" ++ "://" ++ "" := rfl
  have split {password : String} (isSet : password ≠ "") :
      "redis://" ++ cacheCredentials (some password) ++ host ++ ":" ++ port ++ "/" ++ database =
        "redis" ++ "://" ++ "" ++ ":" ++ password ++ "@" ++
          (host ++ ":" ++ port ++ "/" ++ database) := by
    have credentials : cacheCredentials (some password) = ":" ++ password ++ "@" :=
      if_neg (by simpa using isSet)
    rw [credentials, scheme]
    simp only [String.append_assoc]
  have opens (password : String) : startsWithAny cacheOpenings
      ("redis://" ++ cacheCredentials (some password) ++ host ++ ":" ++ port ++ "/" ++ database) =
        true := by
    simp only [String.append_assoc]
    exact startsWithAny_append List.mem_cons_self _
  refine ⟨?_, .inr ⟨opens password, opens other⟩⟩
  rw [split isSet, split otherIsSet]
  exact mask_password (not_isInfix_of_not_mem (by decide)) _ _ _ _

/-! ## Reading -/

variable {one other : Environment} {name : String}

theorem number_congr {α : Type} (same : one.SameButPasswords other)
    (notDatabase : name ≠ "DB_PASSWORD") (notCache : name ≠ "REDIS_PASSWORD")
    (form : NumberForm α) (standard : α) :
    number one form name standard = number other form name standard := by
  rw [number, number, same.read? notDatabase notCache]

theorem part_congr (same : one.SameButPasswords other) (notDatabase : name ≠ "DB_PASSWORD")
    (notCache : name ≠ "REDIS_PASSWORD") : part one name = part other name := by
  rw [part, part, same.read notDatabase notCache]

theorem readJobs_congr (same : one.SameButPasswords other) : readJobs one = readJobs other := by
  rw [readJobs, readJobs, same.read? (by decide) (by decide)]

/-- Both environments have a password for the database, or both are refused for the same
reason. -/
theorem password_alike (same : one.SameButPasswords other) :
    Alike (fun _ _ => True) (part one "DB_PASSWORD") (part other "DB_PASSWORD") := by
  rcases same.database with isSame | ⟨password, otherPassword, isSet, otherIsSet⟩
  · rw [part, part, Environment.read_congr isSame]
    cases other.read "DB_PASSWORD" with
    | ok password => exact .value True.intro
    | error cause => exact .error _
  · rw [part, part, isSet, otherIsSet]
    exact .value True.intro

theorem readDatabaseUrl_alike (same : one.SameButPasswords other) :
    Alike (LooksLike databaseOpenings) (readDatabaseUrl one) (readDatabaseUrl other) := by
  rw [readDatabaseUrl, readDatabaseUrl, same.read? (by decide) (by decide)]
  cases other.read? "DATABASE_URL" with
  | some url => exact .value (.refl _ url)
  | none =>
      simp (disch := decide) only [same.readOr, part_congr same]
      refine Alike.bind_same fun user => ?_
      refine (password_alike same).bind fun password otherPassword _ => ?_
      refine Alike.bind_same fun name => ?_
      exact .value (databaseAddress_looksLike ..)

theorem readRedisUrl?_rel (same : one.SameButPasswords other) :
    Option.Rel (LooksLike cacheOpenings) (readRedisUrl? one) (readRedisUrl? other) := by
  rw [readRedisUrl?, readRedisUrl?, same.read? (by decide) (by decide)]
  cases other.read? "REDIS_URL" with
  | some url => exact .some (.refl _ url)
  | none =>
      simp (disch := decide) only [same.readOr, same.read?]
      cases other.read? "REDIS_HOST" with
      | none => exact .none
      | some host =>
          rcases same.cache with
            isSame | ⟨password, otherPassword, isSet, otherIsSet, isRead, otherIsRead⟩
          · rw [Environment.read?, Environment.read?, Environment.read_congr isSame]
            exact .some (.refl _ _)
          · rw [Environment.read?, Environment.read?, isRead, otherIsRead]
            exact .some (cacheAddress_looksLike isSet otherIsSet _ _ _)

/-- Two configurations are the same but for their addresses, which look alike. -/
structure Veiled (one other : Config) : Prop where
  others : other = { one with databaseUrl := other.databaseUrl, redisUrl := other.redisUrl }
  databaseUrl : LooksLike databaseOpenings one.databaseUrl other.databaseUrl
  redisUrl : Option.Rel (LooksLike cacheOpenings) one.redisUrl other.redisUrl

theorem read_alike (same : one.SameButPasswords other) :
    Alike Veiled (read one) (read other) := by
  simp (disch := decide) only [read, number_congr same, readJobs_congr same, same.readOr]
  refine (readDatabaseUrl_alike same).bind fun url otherUrl looksLike => ?_
  iterate 10 refine Alike.bind_same fun _ => ?_
  exact .value ⟨rfl, looksLike, readRedisUrl?_rel same⟩

/-! ## Checking and showing -/

/-- The check of how an address begins gives the same answer, and if it is an error, then about the
same address. -/
theorem ensure_opens {openings : List String} {address other : String}
    (looksLike : LooksLike openings address other) (error : String → ConfigError) :
    ensure (startsWithAny openings address) (error address) =
      ensure (startsWithAny openings other) (error other) := by
  rcases looksLike.2 with rfl | ⟨opens, otherOpens⟩
  · rfl
  · rw [opens, otherOpens, ensure, ensure, if_pos rfl, if_pos rfl]

theorem Veiled.check {one other : Config} (veiled : Veiled one other) :
    one.check = other.check := by
  obtain ⟨others, database, cache⟩ := veiled
  generalize other.databaseUrl = url, other.redisUrl = redisUrl at others database cache
  subst others
  simp only [Config.check, checkConnections, codes, ensure_opens database]
  generalize one.redisUrl = oneRedisUrl at cache
  cases cache with
  | none => rfl
  | some looksLike => simp only [ensure_opens looksLike]

theorem Veiled.maskedRedisUrl {one other : Config} (veiled : Veiled one other) :
    one.redisUrl.map mask = other.redisUrl.map mask := by
  obtain ⟨-, -, cache⟩ := veiled
  generalize one.redisUrl = redisUrl, other.redisUrl = otherRedisUrl at cache
  cases cache with
  | none => rfl
  | some looksLike => exact congrArg some looksLike.1

theorem cacheLine_congr {one other : Option String} (same : one.map mask = other.map mask) :
    cacheLine one = cacheLine other := by
  cases one with
  | none =>
      cases other with
      | none => rfl
      | some otherUrl => contradiction
  | some url =>
      cases other with
      | none => contradiction
      | some otherUrl => rw [cacheLine, cacheLine, Option.some.inj same]

/-- What is logged at the start is the same. -/
theorem Veiled.summary {one other : Config} (veiled : Veiled one other) :
    one.summary = other.summary := by
  have lines := cacheLine_congr veiled.maskedRedisUrl
  obtain ⟨others, database, -⟩ := veiled
  generalize other.databaseUrl = url, other.redisUrl = redisUrl at others database lines
  subst others
  simp only [Config.summary, database.1, lines]

/-- The same error comes of both environments, or configurations that look alike. -/
theorem load_alike {one other : Environment} (same : one.SameButPasswords other) :
    Alike Veiled (load one) (load other) := by
  refine (read_alike same).bind fun config otherConfig veiled => ?_
  rw [veiled.check]
  exact Alike.bind_same fun _ => .value veiled

end Config

/-- Passwords are never shown. The mask shows the same of an address whatever its password is, and
where user and host are plain it shows everything else; what is masked stays as it is. Two
environments that differ in passwords alone, of the database or of the cache, are refused with the
same error, or else both are accepted, and the configurations have the same addresses once these
are masked, and the same summary for the log. -/
theorem passwords_are_never_shown :
    (∀ scheme user tail : String, ¬"://".toList <:+: scheme.toList →
      (∀ password other,
        mask (scheme ++ "://" ++ user ++ ":" ++ password ++ "@" ++ tail) =
          mask (scheme ++ "://" ++ user ++ ":" ++ other ++ "@" ++ tail)) ∧
      (':' ∉ user.toList → '@' ∉ tail.toList → ∀ password,
        mask (scheme ++ "://" ++ user ++ ":" ++ password ++ "@" ++ tail) =
          scheme ++ "://" ++ user ++ ":***@" ++ tail)) ∧
    (∀ url, mask (mask url) = mask url) ∧
    ∀ one other : Environment, one.SameButPasswords other →
      (∃ config otherConfig, Config.load one = .ok config ∧ Config.load other = .ok otherConfig ∧
        mask config.databaseUrl = mask otherConfig.databaseUrl ∧
        config.redisUrl.map mask = otherConfig.redisUrl.map mask ∧
        config.summary = otherConfig.summary) ∨
      ∃ error, Config.load one = .error error ∧ Config.load other = .error error := by
  refine ⟨?_, mask_mask, ?_⟩
  · intro scheme user tail noMark
    exact ⟨fun password other => mask_password noMark user password other tail,
      fun plainUser plainTail password => mask_plain noMark plainUser plainTail password⟩
  · intro one other same
    have alike := Config.load_alike same
    generalize Config.load one = loaded, Config.load other = otherLoaded at alike ⊢
    cases alike with
    | value veiled =>
        exact .inl ⟨_, _, rfl, rfl, veiled.databaseUrl.1, veiled.maskedRedisUrl, veiled.summary⟩
    | error cause => exact .inr ⟨cause, rfl, rfl⟩

/-- Two passwords for the database, one of which looks like parts of an address, with a user whose
name holds a colon: both configurations are accepted and show the same. -/
theorem passwords_are_never_shown_of_two :
    let environment (password : String) : Environment :=
      ⟨[("DB_USER", "a:b".toUTF8.toList), ("DB_NAME", "links".toUTF8.toList),
        ("DB_PASSWORD", password.toUTF8.toList)]⟩
    (environment "secret").SameButPasswords (environment "x@y/z://") ∧
      ∃ config otherConfig, Config.load (environment "secret") = .ok config ∧
        Config.load (environment "x@y/z://") = .ok otherConfig ∧
        mask config.databaseUrl = mask otherConfig.databaseUrl ∧
        config.redisUrl.map mask = otherConfig.redisUrl.map mask ∧
        config.summary = otherConfig.summary := by
  intro environment
  have same : (environment "secret").SameButPasswords (environment "x@y/z://") := by
    refine ⟨?_, .inr ⟨"secret", "x@y/z://", by decide +kernel, by decide +kernel⟩, .inl rfl⟩
    intro name notDatabase _
    have notLast : (name == "DB_PASSWORD") = false := beq_eq_false_iff_ne.mpr notDatabase
    simp only [environment, List.lookup_cons, notLast]
  have isAccepted : (Config.load (environment "secret")).isOk = true := by decide +kernel
  refine ⟨same, (passwords_are_never_shown.2.2 _ _ same).resolve_right ?_⟩
  rintro ⟨error, isRefused, -⟩
  rw [isRefused] at isAccepted
  contradiction

end Shortlink.Settings
