import Shortlink.Proofs.Settings.Variables
import Shortlink.Proofs.Text.Search
import Shortlink.Proofs.Text.Utf8

/-!
# The parts in an address of the database

An address that is not given is built from five parts with marks between them, and the parts are
taken as they are. So a mark in a part can be taken for the one beside it. The parts can be told
from the address exactly if none of the marks occurs in a part next to it.
-/

namespace Shortlink.Settings

/-- The parts that an address of the database is built from. -/
structure DatabaseParts where
  user : String
  password : String
  host : String
  port : String
  name : String
  deriving DecidableEq

namespace DatabaseParts

/-- The parts in the variables of an environment. -/
def read (environment : Environment) : Except ConfigError DatabaseParts := do
  let user ← Config.part environment "DB_USER"
  let password ← Config.part environment "DB_PASSWORD"
  let name ← Config.part environment "DB_NAME"
  pure ⟨user, password, environment.readOr "DB_HOST" "localhost",
    environment.readOr "DB_PORT" "5432", name⟩

/-- The address that is built from the parts. -/
def address (parts : DatabaseParts) : String :=
  Config.databaseAddress parts.user parts.password parts.host parts.port parts.name

/-- No mark of the address occurs in a part next to it. -/
structure Separate (parts : DatabaseParts) : Prop where
  user_password : ':' ∉ parts.user.toList ∧ ':' ∉ parts.password.toList
  password_host : '@' ∉ parts.password.toList ∧ '@' ∉ parts.host.toList
  host_port : ':' ∉ parts.host.toList ∧ ':' ∉ parts.port.toList
  port_name : '/' ∉ parts.port.toList ∧ '/' ∉ parts.name.toList

/-- The text in front of the name, without the scheme and the mark. -/
def server (parts : DatabaseParts) : List Char :=
  parts.user.toList ++
    ':' :: (parts.password.toList ++ '@' :: parts.host.toList ++ ':' :: parts.port.toList)

variable {parts other : DatabaseParts}

theorem toList_address (parts : DatabaseParts) :
    parts.address.toList =
      "postgres://".toList ++ (parts.server ++ '/' :: parts.name.toList) := by
  unfold address Config.databaseAddress server
  generalize "postgres://" = scheme
  simp

/-! ## One address, one way to part it -/

/-- Where no mark is next to its like there is no other place for any of them: no slash comes after
the one in front of the name, and no third colon comes before it. -/
theorem Separate.eq_of_address (separate : parts.Separate)
    (same : other.address = parts.address) : other = parts := by
  rw [← String.toList_inj, toList_address, toList_address] at same
  obtain ⟨between, isServer, isName⟩ :=
    Text.exists_append_of_joined separate.port_name.2 (List.append_cancel_left same)
  have noColon : ':' ∉ parts.password.toList ++ '@' :: parts.host.toList := by
    simp [separate.user_password.2, separate.host_port.1]
  have twoColons : other.user.toList ++ ':' :: (other.password.toList ++ '@' :: other.host.toList ++
      ':' :: (other.port.toList ++ between)) = parts.server := by
    simpa only [server, List.append_assoc, List.cons_append] using isServer
  obtain ⟨isUser, isLogin, isPort⟩ :=
    Text.eq_of_joined separate.user_password.1 noColon separate.host_port.2 twoColons
  obtain ⟨isPassword, -, isHost⟩ := (List.append_cons_inj_of_notMem
    separate.password_host.1 separate.password_host.2).mp isLogin.symm
  have noSlash : '/' ∉ between := fun member =>
    separate.port_name.1 (isPort ▸ List.mem_append_right _ member)
  cases between with
  | nil =>
      rw [List.append_nil] at isPort
      have isName : other.name.toList = parts.name.toList := (List.cons.inj isName).2
      rw [String.toList_inj] at isUser isPassword isHost isPort isName
      cases other
      cases parts
      simp_all
  | cons c between =>
      obtain ⟨rfl, -⟩ := List.cons.inj isName
      exact absurd List.mem_cons_self noSlash

/-- A mark in a part beside it could as well be the one between the parts, and then the parts are
others. -/
theorem separate_of_unique (unique : ∀ other, other.address = parts.address → other = parts) :
    parts.Separate := by
  have same (other : DatabaseParts) (isText : other.server ++ '/' :: other.name.toList =
      parts.server ++ '/' :: parts.name.toList) : other = parts := by
    refine unique other ?_
    rw [← String.toList_inj, toList_address, toList_address, isText]
  have within {x y front back : List Char} {mark : Char}
      (joined : front ++ mark :: back = x ++ mark :: y) (rest : List Char) :
      front ++ mark :: (back ++ rest) = x ++ mark :: (y ++ rest) := by
    simpa using congrArg (· ++ rest) joined
  refine ⟨?user_password, ?password_host, ?host_port, ?port_name⟩
  case user_password =>
    refine Text.not_mem_of_joined fun front back joined => ?_
    have isSame := same { parts with user := .ofList front, password := .ofList back } (by
      simp [server, within joined])
    simpa using congrArg (·.user.toList) isSame
  case password_host =>
    refine Text.not_mem_of_joined fun front back joined => ?_
    have isSame := same { parts with password := .ofList front, host := .ofList back } (by
      simp [server, within joined])
    simpa using congrArg (·.password.toList) isSame
  case host_port =>
    refine Text.not_mem_of_joined fun front back joined => ?_
    have isSame := same { parts with host := .ofList front, port := .ofList back } (by
      simp [server, within joined])
    simpa using congrArg (·.host.toList) isSame
  case port_name =>
    refine Text.not_mem_of_joined fun front back joined => ?_
    have isSame := same { parts with port := .ofList front, name := .ofList back } (by
      simp [server, joined])
    simpa using congrArg (·.port.toList) isSame

/-! ## Environments -/

/-- An address that is not given is the one that is built from the parts. -/
theorem readDatabaseUrl_eq {environment : Environment}
    (notGiven : environment.read? "DATABASE_URL" = none) :
    Config.readDatabaseUrl environment = (read environment).map address := by
  rw [Config.readDatabaseUrl, notGiven, read]
  cases Config.part environment "DB_USER" with
  | error error => rfl
  | ok user =>
      cases Config.part environment "DB_PASSWORD" with
      | error error => rfl
      | ok password =>
          cases Config.part environment "DB_NAME" with
          | error error => rfl
          | ok name => rfl

theorem exists_of_read {environment : Environment} {config : Config}
    (notGiven : environment.read? "DATABASE_URL" = none)
    (isRead : Config.read environment = .ok config) :
    ∃ parts, read environment = .ok parts ∧ parts.address = config.databaseUrl := by
  have isUrl := (Config.read_eq_ok.mp isRead).1
  rw [readDatabaseUrl_eq notGiven] at isUrl
  cases found : read environment with
  | error error => simp [found, Except.map] at isUrl
  | ok parts =>
      rw [found] at isUrl
      exact ⟨parts, rfl, Except.ok.inj isUrl⟩

/-- The environment in which the parts are set and nothing else. -/
def environment (parts : DatabaseParts) : Environment where
  values := [("DB_USER", parts.user), ("DB_PASSWORD", parts.password), ("DB_HOST", parts.host),
    ("DB_PORT", parts.port), ("DB_NAME", parts.name)].map fun (name, value) =>
      (name, Text.encodeUtf8 value.toList)

theorem read_of_lookup {environment : Environment} {name value : String}
    (isSet : environment.values.lookup name = some (Text.encodeUtf8 value.toList)) :
    environment.read name = .ok value := by
  simp [Environment.read, isSet, Text.decodeUtf8?_encodeUtf8]

theorem read_environment (parts : DatabaseParts) : read parts.environment = .ok parts := by
  have isUser : parts.environment.read "DB_USER" = .ok parts.user := read_of_lookup rfl
  have isPassword : parts.environment.read "DB_PASSWORD" = .ok parts.password := read_of_lookup rfl
  have isHost : parts.environment.read "DB_HOST" = .ok parts.host := read_of_lookup rfl
  have isPort : parts.environment.read "DB_PORT" = .ok parts.port := read_of_lookup rfl
  have isName : parts.environment.read "DB_NAME" = .ok parts.name := read_of_lookup rfl
  simp only [read, Config.part, Environment.readOr, Environment.read?, isUser, isPassword, isHost,
    isPort, isName]
  rfl

theorem notGiven_environment (parts : DatabaseParts) :
    parts.environment.read? "DATABASE_URL" = none := rfl

/-- The parts are enough for a configuration, in which all else is standard. -/
theorem read_config (parts : DatabaseParts) :
    Config.read parts.environment = .ok { databaseUrl := parts.address } := by
  refine Config.read_eq_ok.mpr ⟨?_, rfl, Setting.forall_mem_all.mpr ?_⟩
  · rw [readDatabaseUrl_eq parts.notGiven_environment, read_environment]
    rfl
  · and_intros <;> rfl

end DatabaseParts

/-- An address that is built from its parts belongs to no other parts exactly if these are
separate: then every environment whose configuration has the same built address has the same user,
password, host, port and name. -/
theorem built_database_url_is_unambiguous_iff {environment : Environment} {config : Config}
    (notGiven : environment.read? "DATABASE_URL" = none)
    (isRead : Config.read environment = .ok config) :
    ∃ parts, DatabaseParts.read environment = .ok parts ∧
      ((∀ other otherConfig, other.read? "DATABASE_URL" = none →
          Config.read other = .ok otherConfig → otherConfig.databaseUrl = config.databaseUrl →
          DatabaseParts.read other = .ok parts) ↔ parts.Separate) := by
  obtain ⟨parts, areParts, isAddress⟩ := DatabaseParts.exists_of_read notGiven isRead
  refine ⟨parts, areParts, ?_, ?_⟩
  · intro determines
    refine DatabaseParts.separate_of_unique fun other same => ?_
    have areSame := determines other.environment _ other.notGiven_environment other.read_config
      (same.trans isAddress)
    rw [DatabaseParts.read_environment] at areSame
    exact Except.ok.inj areSame
  · intro separate other otherConfig otherNotGiven otherIsRead same
    obtain ⟨otherParts, areOtherParts, isOtherAddress⟩ :=
      DatabaseParts.exists_of_read otherNotGiven otherIsRead
    rw [areOtherParts, separate.eq_of_address (isOtherAddress.trans (same.trans isAddress.symm))]

/-- The address of parts that are separate, with marks in them that are not next to their like. -/
theorem built_database_url_is_unambiguous_iff_of_separate :
    let parts : DatabaseParts := ⟨"a@b/c", "p/w", "db/1", "54@33", "links:2"⟩
    parts.environment.read? "DATABASE_URL" = none ∧
      Config.read parts.environment = .ok { databaseUrl := parts.address } ∧ parts.Separate ∧
      ∀ other otherConfig, other.read? "DATABASE_URL" = none →
        Config.read other = .ok otherConfig → otherConfig.databaseUrl = parts.address →
        DatabaseParts.read other = .ok parts := by
  intro parts
  have separate : parts.Separate :=
    ⟨by decide, by decide, by decide, by decide⟩
  obtain ⟨same, areParts, determines⟩ :=
    built_database_url_is_unambiguous_iff parts.notGiven_environment parts.read_config
  rw [parts.read_environment] at areParts
  cases areParts
  exact ⟨parts.notGiven_environment, parts.read_config, separate, determines.mpr separate⟩

/-- A password with marks in it has the address of a shorter one with another host and port, where
the rest of the password is part of the name. -/
theorem parts_share_database_url :
    let parts : DatabaseParts := ⟨"u", "p@h:1/x", "h2", "5432", "d"⟩
    let other : DatabaseParts := ⟨"u", "p", "h", "1", "x@h2:5432/d"⟩
    let config : Config := { databaseUrl := "postgres://u:p@h:1/x@h2:5432/d" }
    parts.environment.read? "DATABASE_URL" = none ∧ other.environment.read? "DATABASE_URL" = none ∧
      Config.read parts.environment = .ok config ∧ Config.read other.environment = .ok config ∧
      DatabaseParts.read parts.environment = .ok parts ∧
      DatabaseParts.read other.environment = .ok other ∧ parts ≠ other := by
  intro parts other config
  exact ⟨rfl, rfl, parts.read_config, other.read_config, parts.read_environment,
    other.read_environment, by decide⟩

end Shortlink.Settings
