import Mathlib.Algebra.Group.Int.Defs
import Mathlib.Logic.Function.Basic
import Shortlink.Cache.Redis
import Shortlink.Number.Binary64
import Shortlink.Proofs.Calls.Shared
import Shortlink.Proofs.Script.Alone
import Shortlink.Proofs.Text.Integer
import Shortlink.Proofs.Time.Moment

/-!
# A Redis server

The commands that the cache sends, as Redis documents them: texts that expire, sorted sets, and
the script of a write. The server has the clock of the service and counts in nanoseconds.
-/

namespace Shortlink.Cache.Redis

open Time (Moment)

/-- What is stored under a key. -/
inductive Datum where
  /-- A text that is there until a time in nanoseconds since 1970. -/
  | text (value : String) (expires : Int)
  /-- A sorted set: members, no two alike, with their scores. -/
  | sorted (members : List (String × Int))
  deriving DecidableEq, Repr

/-- What a server stores. -/
structure Server where
  data : String → Option Datum := fun _ => none

namespace Server

/-! ## Words -/

/-- The binary number of 64 bits that is nearest to a natural number. -/
def nearest (n : Nat) : Nat :=
  let unit := 2 ^ (n.log2 - 52)
  Number.Binary64.nearest n unit * unit

/-- The score that stands for an integer. Scores are binary numbers of 64 bits. -/
def score (n : Int) : Int := n.sign * nearest n.natAbs

/-- The integer that a word is. -/
def integer? (word : String) : Option Int :=
  (Text.readSigned Number.maxSigned64 word.toList).toOption

/-- The member at a bound that belongs to its range. -/
def bound? (word : String) : Option String :=
  match word.toList with
  | '[' :: member => some (.ofList member)
  | _ => none

/-- Whether a member is not after another one in the order of their bytes. -/
def isWithin (member other : String) : Bool := member.toUTF8.toList ≤ other.toUTF8.toList

/-- Whether an entry of a sorted set is not after another one: the score counts first. -/
def isFirst (entry other : String × Int) : Bool :=
  entry.2 < other.2 || (entry.2 == other.2 && isWithin entry.1 other.1)

/-! ## Sorted sets -/

/-- The entries with a member entered, or with another score for it. -/
def enter (members : List (String × Int)) (member : String) (score : Int) : List (String × Int) :=
  members.filter (·.1 != member) ++ [(member, score)]

/-- The entries without some members. -/
def leave (members : List (String × Int)) (gone : List String) : List (String × Int) :=
  members.filter fun entry => !gone.contains entry.1

/-- The members of the entries, the lowest score first. -/
def inOrder (members : List (String × Int)) : List String :=
  (members.mergeSort isFirst).map (·.1)

/-! ## Errors -/

/-- The error of a command for another kind of value. -/
def wrongType : String := "WRONGTYPE Operation against a key holding the wrong kind of value"

/-- The error of a word that should be an integer. -/
def notInteger : String := "ERR value is not an integer or out of range"

/-- The error of a word that should be a score. -/
def notScore : String := "ERR value is not a valid float"

/-- The error of a word that should be a bound. -/
def notBound : String := "ERR min or max not valid string range item"

/-- The error of a time to live that no value can have. -/
def notTtl : String := "ERR invalid expire time in 'set' command"

/-- The error of a command that there is not. -/
def unknown : String := "ERR unknown command"

/-! ## Commands -/

/-- What is under a key now. A text that has expired is gone. -/
def find (server : Server) (now : Moment) (key : String) : Option Datum :=
  match server.data key with
  | some (.text value expires) =>
    if now.unixNanos < expires then some (.text value expires) else none
  | other => other

/-- The server with something else under a key. -/
def put (server : Server) (key : String) (datum : Option Datum) : Server :=
  ⟨Function.update server.data key datum⟩

/-- The entries of the sorted set under a key. -/
def entries (server : Server) (now : Moment) (key : String) :
    Except String (List (String × Int)) :=
  match server.find now key with
  | none => .ok []
  | some (.sorted members) => .ok members
  | some (.text _ _) => .error wrongType

/-- The server with another sorted set under a key. An empty one is not kept. -/
def putEntries (server : Server) (key : String) (members : List (String × Int)) : Server :=
  server.put key (if members.isEmpty then none else some (.sorted members))

/-- Whether a text can live so many seconds from now on: the time of its expiry has to fit a signed
word of 64 bits in milliseconds. -/
def canLive (now : Moment) (ttl : Int) : Bool :=
  0 < ttl && ttl ≤ maxTime / 1000 && ttl * 1000 + now.unixNanos / 1000000 ≤ maxTime

/-- Stores a text for some seconds. -/
def set (server : Server) (now : Moment) (key value ttl : String) : Reply × Server :=
  match integer? ttl with
  | none => (.error notInteger, server)
  | some ttl =>
    if canLive now ttl then
      (.status "OK", server.put key (some (.text value (now.unixNanos + ttl * 1000000000))))
    else (.error notTtl, server)

/-- The text under a key. -/
def get (server : Server) (now : Moment) (key : String) : Reply × Server :=
  match server.find now key with
  | none => (.nothing, server)
  | some (.text value _) => (.text value, server)
  | some (.sorted _) => (.error wrongType, server)

/-- Drops what is under keys. -/
def delete (server : Server) (now : Moment) (keys : List String) : Reply × Server :=
  (.integer (keys.eraseDups.countP fun key => (server.find now key).isSome),
    ⟨fun key => if keys.contains key then none else server.data key⟩)

/-- Enters a member into a sorted set, or changes its score. -/
def addMember (server : Server) (now : Moment) (key word member : String) : Reply × Server :=
  match integer? word with
  | none => (.error notScore, server)
  | some n =>
    match server.entries now key with
    | .error reason => (.error reason, server)
    | .ok members =>
      (.integer (if members.any (·.1 == member) then 0 else 1),
        server.putEntries key (enter members member (score n)))

/-- Drops members from a sorted set. -/
def removeMembers (server : Server) (now : Moment) (key : String) (gone : List String) :
    Reply × Server :=
  match server.entries now key with
  | .error reason => (.error reason, server)
  | .ok members =>
    (.integer (members.countP fun entry => gone.contains entry.1),
      server.putEntries key (leave members gone))

/-- The members of a sorted set with at most some score, the lowest first, and at most so many
unless that is negative. -/
def upToScore (server : Server) (now : Moment) (key word count : String) : Reply × Server :=
  match integer? word, integer? count with
  | some n, some count =>
    match server.entries now key with
    | .error reason => (.error reason, server)
    | .ok members =>
      let low := inOrder (members.filter (·.2 ≤ score n))
      (.list ((if count < 0 then low else low.take count.toNat).map .text), server)
  | none, _ => (.error notScore, server)
  | _, none => (.error notInteger, server)

/-- The members of a sorted set between two bounds, in the order of their bytes. -/
def between (server : Server) (now : Moment) (key low high : String) : Reply × Server :=
  match bound? low, bound? high with
  | some low, some high =>
    match server.entries now key with
    | .error reason => (.error reason, server)
    | .ok members =>
      let found := members.filter fun entry => isWithin low entry.1 && isWithin entry.1 high
      (.list ((inOrder found).map .text), server)
  | _, _ => (.error notBound, server)

/-- Carries out a command that is not a script. -/
def carryOut (server : Server) (now : Moment) : List String → Reply × Server
  | ["PING"] => (.status "PONG", server)
  | ["GET", key] => server.get now key
  | ["SET", key, value, "EX", ttl] => server.set now key value ttl
  | "DEL" :: keys => server.delete now keys
  | ["ZADD", key, word, member] => server.addMember now key word member
  | "ZREM" :: key :: members => server.removeMembers now key members
  | ["ZRANGEBYSCORE", key, "-inf", word, "LIMIT", "0", count] =>
    server.upToScore now key word count
  | ["ZRANGEBYLEX", key, low, high] => server.between now key low high
  | _ => (.error unknown, server)

/-! ## Scripts -/

/-- A computation on a server that ends with the first command that fails. What was done before
stays done. -/
abbrev Steps := ExceptT String (StateM Server)

/-- Carries out a command of a script. -/
def call (now : Moment) (words : List String) : Steps Reply := ExceptT.mk fun server =>
  match server.carryOut now words with
  | (.error reason, server) => (.error reason, server)
  | (reply, server) => (.ok reply, server)

/-- The last lines of the script of a write: what has expired leaves both indexes. -/
def dropSteps (now : Moment) (index expiry : String) : List String → Steps Unit
  | [] => pure ()
  | member :: rest => do
    let _ ← call now ("ZREM" :: index :: member :: rest)
    let _ ← call now ("ZREM" :: expiry :: member :: rest)

/-- The script of a write, line by line. -/
def setSteps (now : Moment) (key index expiry value ttl expires current count : String) :
    Steps Reply := do
  let _ ← call now ["SET", key, value, "EX", ttl]
  let _ ← call now ["ZADD", index, "0", key]
  let _ ← call now ["ZADD", expiry, expires, key]
  let reply ← call now ["ZRANGEBYSCORE", expiry, "-inf", current, "LIMIT", "0", count]
  let expired := reply.texts.toOption.getD []
  dropSteps now index expiry expired
  pure (.integer expired.length)

/-- Carries out a command. The only script is that of a write. -/
def command (server : Server) (now : Moment) : List String → Reply × Server
  | ["EVAL", script, "3", key, index, expiry, value, ttl, expires, current, count] =>
    if script = setScript then
      match (setSteps now key index expiry value ttl expires current count).run server with
      | (.ok reply, server) => (reply, server)
      | (.error reason, server) => (.error reason, server)
    else (.error unknown, server)
  | words => server.carryOut now words

/-- Carries out commands as one. A command that fails does not keep the others from being carried
out. -/
def transact (server : Server) (now : Moment) : List (List String) → List Reply × Server
  | [] => ([], server)
  | words :: rest =>
    let (reply, server) := server.command now words
    let (replies, server) := server.transact now rest
    (reply :: replies, server)

/-! ## Scores of integers -/

theorem nearest_of_lt {n : Nat} (small : n < 2 ^ 53) : nearest n = n := by
  have log : n.log2 < 53 := by
    rcases Nat.eq_zero_or_pos n with rfl | positive
    · decide
    · exact (Nat.log2_lt (Nat.ne_of_gt positive)).mpr small
  have unit : n.log2 - 52 = 0 := by omega
  simp [nearest, unit, Number.Binary64.nearest, Nat.mod_one]

theorem le_nearest {n : Nat} (large : 2 ^ 53 ≤ n) : 2 ^ 53 ≤ nearest n := by
  have nonzero : n ≠ 0 := by omega
  have log : 53 ≤ n.log2 := (Nat.le_log2 nonzero).mpr large
  have power : 2 ^ n.log2 ≤ n := Nat.log2_self_le nonzero
  have split : 2 ^ 52 * 2 ^ (n.log2 - 52) = 2 ^ n.log2 := by
    rw [← Nat.pow_add]
    congr 1
    omega
  have floor : 2 ^ 52 ≤ n / 2 ^ (n.log2 - 52) := by
    rw [Nat.le_div_iff_mul_le (Nat.two_pow_pos _), split]
    exact power
  have rounded : n / 2 ^ (n.log2 - 52) ≤ Number.Binary64.nearest n (2 ^ (n.log2 - 52)) := by
    simp only [Number.Binary64.nearest]
    split
    · exact Nat.le_refl _
    · split <;> omega
  calc 2 ^ 53 ≤ 2 ^ n.log2 := Nat.pow_le_pow_right Nat.two_pos log
    _ = 2 ^ 52 * 2 ^ (n.log2 - 52) := split.symm
    _ ≤ nearest n := Nat.mul_le_mul_right _ (Nat.le_trans floor rounded)

theorem score_of_lt {n : Int} (low : -2 ^ 53 < n) (high : n < 2 ^ 53) : score n = n := by
  rw [score, nearest_of_lt (by omega)]
  exact Int.sign_mul_natAbs n

/-- A time that a sorted set takes for past is past, however great its score is. -/
theorem le_of_score_le {n m : Int} (lowN : -2 ^ 53 < n) (lowM : -2 ^ 53 < m) (highM : m < 2 ^ 53)
    (le : score n ≤ score m) : n ≤ m := by
  rw [score_of_lt lowM highM] at le
  by_cases high : n < 2 ^ 53
  · rwa [score_of_lt lowN high] at le
  · have large := le_nearest (n := n.natAbs) (by omega)
    have sign : n.sign = 1 := Int.sign_eq_one_of_pos (by omega)
    rw [score, sign, Int.one_mul] at le
    omega

theorem integer?_toString {n : Int} (low : -(maxTime + 1) ≤ n) (high : n ≤ maxTime) :
    integer? (toString n) = some n := by
  rw [integer?, Text.readSigned_toString low high]
  rfl

/-! ## What commands do -/

/-- The entries of the sorted set under a key, if there is one. -/
def members (server : Server) (key : String) : List (String × Int) :=
  match server.data key with
  | some (.sorted members) => members
  | _ => []

/-- Under a key there is a sorted set or nothing. -/
def HoldsSet (server : Server) (key : String) : Prop :=
  ∀ value expires, server.data key ≠ some (.text value expires)

variable {server after : Server} {now : Moment} {key other : String}

@[simp] theorem data_put_self (server : Server) (key : String) (datum : Option Datum) :
    (server.put key datum).data key = datum := Function.update_self ..

@[simp] theorem data_put_of_ne (datum : Option Datum) (different : other ≠ key) :
    (server.put key datum).data other = server.data other := Function.update_of_ne different ..

@[simp] theorem data_putEntries_of_ne (members : List (String × Int)) (different : other ≠ key) :
    (server.putEntries key members).data other = server.data other :=
  data_put_of_ne _ different

@[simp] theorem members_putEntries_self (server : Server) (key : String)
    (members : List (String × Int)) : (server.putEntries key members).members key = members := by
  cases members <;> simp [Server.members, putEntries]

theorem members_of_data (same : after.data key = server.data key) :
    after.members key = server.members key := by
  rw [Server.members, same, ← Server.members]

@[simp] theorem members_putEntries_of_ne (members : List (String × Int)) (different : other ≠ key) :
    (server.putEntries key members).members other = server.members other :=
  members_of_data (data_putEntries_of_ne members different)

@[simp] theorem members_put_of_ne (datum : Option Datum) (different : other ≠ key) :
    (server.put key datum).members other = server.members other :=
  members_of_data (data_put_of_ne datum different)

theorem HoldsSet.of_data (holds : server.HoldsSet key) (same : after.data key = server.data key) :
    after.HoldsSet key := by
  rwa [HoldsSet, same]

@[simp] theorem holdsSet_putEntries_self (server : Server) (key : String)
    (members : List (String × Int)) : (server.putEntries key members).HoldsSet key := by
  cases members <;> simp [HoldsSet, putEntries]

theorem find_eq_text {value : String} {expires : Int}
    (found : server.find now key = some (.text value expires)) :
    server.data key = some (.text value expires) ∧ now.unixNanos < expires := by
  unfold find at found
  split at found
  · next isText =>
      split at found
      · cases found
        exact ⟨isText, ‹_›⟩
      · contradiction
  · next notText => exact absurd found (notText value expires)

theorem entries_eq (holds : server.HoldsSet key) (now : Moment) :
    server.entries now key = .ok (server.members key) := by
  have notText := holds
  simp only [HoldsSet, entries, find, members] at *
  cases found : server.data key with
  | none => rfl
  | some datum =>
      cases datum with
      | sorted members => rfl
      | text value expires => exact absurd found (notText value expires)

theorem addMember_eq (holds : server.HoldsSet key) (now : Moment) {word : String} {n : Int}
    (isInteger : integer? word = some n) (member : String) :
    ∃ count, server.carryOut now ["ZADD", key, word, member] =
      (.integer count, server.putEntries key (enter (server.members key) member (score n))) := by
  simp only [carryOut, addMember, isInteger, entries_eq holds]
  exact ⟨_, rfl⟩

theorem removeMembers_eq (holds : server.HoldsSet key) (now : Moment) (gone : List String) :
    ∃ count, server.carryOut now ("ZREM" :: key :: gone) =
      (.integer count, server.putEntries key (leave (server.members key) gone)) := by
  simp only [carryOut, removeMembers, entries_eq holds]
  exact ⟨_, rfl⟩

theorem exists_of_mem_inOrder {members : List (String × Int)} {member : String}
    (found : member ∈ inOrder members) : ∃ s, (member, s) ∈ members := by
  obtain ⟨entry, isEntry, rfl⟩ := List.mem_map.mp found
  exact ⟨entry.2, List.mem_mergeSort.mp isEntry⟩

/-- What is found up to a score has such a score. -/
theorem upToScore_eq (holds : server.HoldsSet key) (now : Moment) {word count : String} {n m : Int}
    (isInteger : integer? word = some n) (isCount : integer? count = some m) :
    ∃ found : List String, server.carryOut now
        ["ZRANGEBYSCORE", key, "-inf", word, "LIMIT", "0", count] =
      (.list (found.map .text), server) ∧
      ∀ member ∈ found, ∃ s, (member, s) ∈ server.members key ∧ s ≤ score n := by
  simp only [carryOut, upToScore, isInteger, isCount, entries_eq holds]
  refine ⟨_, rfl, fun member found => ?_⟩
  have isLow : member ∈ inOrder ((server.members key).filter (·.2 ≤ score n)) := by
    split at found
    · exact found
    · exact List.mem_of_mem_take found
  obtain ⟨s, isEntry⟩ := exists_of_mem_inOrder isLow
  simp only [List.mem_filter, decide_eq_true_eq] at isEntry
  exact ⟨s, isEntry⟩

theorem texts_list (found : List String) : (Reply.list (found.map .text)).texts = .ok found := by
  rw [Reply.texts, List.mapM_map]
  induction found with
  | nil => rfl
  | cons member rest ih =>
      rw [List.mapM_cons, ih]
      rfl

/-- What is found between bounds is a member. -/
theorem between_eq (holds : server.HoldsSet key) (now : Moment) (low high : String) :
    ∃ reply, server.carryOut now ["ZRANGEBYLEX", key, low, high] = (reply, server) ∧
      ∀ found, reply.texts = .ok found →
        ∀ member ∈ found, ∃ s, (member, s) ∈ server.members key := by
  simp only [carryOut, between, entries_eq holds]
  split
  · refine ⟨_, rfl, fun found isFound member isMember => ?_⟩
    rw [texts_list] at isFound
    cases isFound
    obtain ⟨s, isEntry⟩ := exists_of_mem_inOrder isMember
    exact ⟨s, (List.mem_filter.mp isEntry).1⟩
  · exact ⟨_, rfl, nofun⟩

theorem set_cases (server : Server) (now : Moment) (key value : String) {ttl : Int} {word : String}
    (isInteger : ∀ n, integer? word = some n → n = ttl) :
    (∃ reason, server.carryOut now ["SET", key, value, "EX", word] = (.error reason, server)) ∨
      canLive now ttl = true ∧ server.carryOut now ["SET", key, value, "EX", word] =
        (.status "OK", server.put key (some (.text value (now.unixNanos + ttl * 1000000000)))) := by
  simp only [carryOut, set]
  cases found : integer? word with
  | none => exact .inl ⟨_, rfl⟩
  | some n =>
      cases isInteger n found
      dsimp only
      split
      · exact .inr ⟨‹_›, rfl⟩
      · exact .inl ⟨_, rfl⟩

/-! ## What the script of a write does -/

variable {α β : Type}

theorem bind_of_ok {steps : Steps α} {next : α → Steps β} {value : α}
    (ran : steps.run server = (.ok value, after)) :
    (steps >>= next).run server = (next value).run after := by
  have split : (steps >>= next).run server =
      ExceptT.bindCont next (steps.run server).1 (steps.run server).2 := rfl
  rw [split, ran]
  rfl

theorem bind_of_error {steps : Steps α} {next : α → Steps β} {reason : String}
    (ran : steps.run server = (.error reason, after)) :
    (steps >>= next).run server = (.error reason, after) := by
  have split : (steps >>= next).run server =
      ExceptT.bindCont next (steps.run server).1 (steps.run server).2 := rfl
  rw [split, ran]
  rfl

theorem call_of_done {words : List String} {reply : Reply}
    (done : server.carryOut now words = (reply, after)) (fine : reply.error? = none) :
    (call now words).run server = (.ok reply, after) := by
  simp only [call, ExceptT.run_mk, done]
  cases reply with
  | error reason => contradiction
  | _ => rfl

theorem call_of_failed {words : List String} {reason : String}
    (failed : server.carryOut now words = (.error reason, after)) :
    (call now words).run server = (.error reason, after) := by
  simp only [call, ExceptT.run_mk, failed]

@[simp] theorem leave_nil (members : List (String × Int)) : leave members [] = members := by
  simp [leave]

theorem indexKey_ne_expiryKey : indexKey ≠ expiryKey := by decide

/-- The server when members have left both indexes. -/
def dropped (server : Server) (gone : List String) : Server :=
  (server.putEntries indexKey (leave (server.members indexKey) gone)).putEntries expiryKey
    (leave (server.members expiryKey) gone)

/-- Between two states members have left both indexes, and nothing else has changed. -/
structure Leaves (before after : Server) (gone : List String) : Prop where
  index : after.HoldsSet indexKey
  expiry : after.HoldsSet expiryKey
  members_index : after.members indexKey = leave (before.members indexKey) gone
  members_expiry : after.members expiryKey = leave (before.members expiryKey) gone
  others : ∀ other, other ≠ indexKey → other ≠ expiryKey → after.data other = before.data other

theorem leaves_dropped (server : Server) (gone : List String) :
    Leaves server (server.dropped gone) gone where
  index := (holdsSet_putEntries_self _ _ _).of_data (data_putEntries_of_ne _ indexKey_ne_expiryKey)
  expiry := holdsSet_putEntries_self _ _ _
  members_index := by simp [dropped, indexKey_ne_expiryKey]
  members_expiry := by simp [dropped]
  others other notIndex notExpiry := by simp [dropped, notIndex, notExpiry]

theorem removeMembers_dropped (now : Moment) (index : server.HoldsSet indexKey)
    (expiry : server.HoldsSet expiryKey) (gone : List String) :
    ∃ between first second,
      server.carryOut now ("ZREM" :: indexKey :: gone) = (.integer first, between) ∧
      between.carryOut now ("ZREM" :: expiryKey :: gone) =
        (.integer second, server.dropped gone) := by
  obtain ⟨first, left⟩ := removeMembers_eq index now gone
  have expiry' := expiry.of_data
    (data_putEntries_of_ne (leave (server.members indexKey) gone) indexKey_ne_expiryKey.symm)
  obtain ⟨second, right⟩ := removeMembers_eq expiry' now gone
  rw [members_putEntries_of_ne _ indexKey_ne_expiryKey.symm] at right
  exact ⟨_, first, second, left, right⟩

theorem dropSteps_run (now : Moment) (index : server.HoldsSet indexKey)
    (expiry : server.HoldsSet expiryKey) (gone : List String) :
    ∃ after, (dropSteps now indexKey expiryKey gone).run server = (.ok (), after) ∧
      Leaves server after gone := by
  cases gone with
  | nil => exact ⟨server, rfl, index, expiry, (leave_nil _).symm, (leave_nil _).symm, fun _ _ _ => rfl⟩
  | cons member rest =>
      obtain ⟨between, first, second, left, right⟩ :=
        removeMembers_dropped now index expiry (member :: rest)
      refine ⟨server.dropped (member :: rest), ?_, leaves_dropped server (member :: rest)⟩
      rw [dropSteps, bind_of_ok (call_of_done left rfl), bind_of_ok (call_of_done right rfl)]
      rfl

theorem canLive_iff {ttl : Int} : canLive now ttl = true ↔
    0 < ttl ∧ ttl ≤ maxTime / 1000 ∧ ttl * 1000 + now.unixNanos / 1000000 ≤ maxTime := by
  simp [canLive, and_assoc]

/-- The second of an expiry that the server can count to is sent as it is. -/
theorem expiryTime_of_canLive {ttl : Nat} (lives : canLive now ttl = true) :
    expiryTime now.unixSeconds ttl = now.unixSeconds + ttl ∧
      integer? (toString (expiryTime now.unixSeconds ttl)) = some (now.unixSeconds + ttl) := by
  have bounds := canLive_iff.mp lives
  have small := now.unixSeconds_bounds
  have limit : maxTime = 9223372036854775807 := rfl
  have exact_ : expiryTime now.unixSeconds ttl = now.unixSeconds + ttl := by
    rw [expiryTime]
    omega
  refine ⟨exact_, ?_⟩
  rw [exact_]
  exact integer?_toString (by omega) (by omega)

theorem integer?_seconds (now : Moment) :
    integer? (toString now.unixSeconds) = some now.unixSeconds := by
  have small := now.unixSeconds_bounds
  have limit : maxTime = 9223372036854775807 := rfl
  exact integer?_toString (by omega) (by omega)

theorem eq_of_integer?_repr {n : Nat} {m : Int} (isInteger : integer? (toString n) = some m) :
    m = n := by
  rw [integer?] at isInteger
  cases found : Text.readSigned Number.maxSigned64 (toString n).toList with
  | error error =>
      rw [found] at isInteger
      contradiction
  | ok value =>
      rw [found] at isInteger
      cases isInteger
      exact Text.eq_of_readSigned_repr found

/-- The server when a text has been stored and its key was entered in both indexes. -/
def entered (server : Server) (key : String) (datum : Datum) (second : Int) : Server :=
  ((server.put key (some datum)).putEntries indexKey
    (enter (server.members indexKey) key (score 0))).putEntries expiryKey
      (enter (server.members expiryKey) key second)

/-- Between two states a text was stored and entered in both indexes, and nothing else has
changed. -/
structure Enters (before after : Server) (key : String) (datum : Datum) (second : Int) : Prop where
  stored : after.data key = some datum
  index : after.HoldsSet indexKey
  expiry : after.HoldsSet expiryKey
  members_index : after.members indexKey = enter (before.members indexKey) key (score 0)
  members_expiry : after.members expiryKey = enter (before.members expiryKey) key second
  others : ∀ other, other ≠ key → other ≠ indexKey → other ≠ expiryKey →
    after.data other = before.data other

theorem enters_entered (server : Server) (notIndex : key ≠ indexKey) (notExpiry : key ≠ expiryKey)
    (datum : Datum) (second : Int) :
    Enters server (server.entered key datum second) key datum second where
  stored := by simp [entered, notIndex, notExpiry]
  index := (holdsSet_putEntries_self _ _ _).of_data (data_putEntries_of_ne _ indexKey_ne_expiryKey)
  expiry := holdsSet_putEntries_self _ _ _
  members_index := by simp [entered, indexKey_ne_expiryKey]
  members_expiry := by simp [entered]
  others other notKey notIndex notExpiry := by simp [entered, notKey, notIndex, notExpiry]

theorem addMember_entered (now : Moment) (notIndex : key ≠ indexKey) (notExpiry : key ≠ expiryKey)
    (index : server.HoldsSet indexKey) (expiry : server.HoldsSet expiryKey) (datum : Datum)
    {word : String} {n : Int} (isInteger : integer? word = some n) :
    ∃ between first second,
      (server.put key (some datum)).carryOut now ["ZADD", indexKey, "0", key] =
        (.integer first, between) ∧
      between.carryOut now ["ZADD", expiryKey, word, key] =
        (.integer second, server.entered key datum (score n)) := by
  have zero : integer? "0" = some 0 := by decide
  have index' : (server.put key (some datum)).HoldsSet indexKey :=
    index.of_data (data_put_of_ne _ notIndex.symm)
  obtain ⟨first, atIndex⟩ := addMember_eq index' now zero key
  rw [members_put_of_ne _ notIndex.symm] at atIndex
  have expiry' := (expiry.of_data (data_put_of_ne (some datum) notExpiry.symm)).of_data
    (data_putEntries_of_ne (enter (server.members indexKey) key (score 0))
      indexKey_ne_expiryKey.symm)
  obtain ⟨second, atExpiry⟩ := addMember_eq expiry' now isInteger key
  rw [members_putEntries_of_ne _ indexKey_ne_expiryKey.symm,
    members_put_of_ne _ notExpiry.symm] at atExpiry
  exact ⟨_, first, second, atIndex, atExpiry⟩

/-- A write has either been refused, and left everything as it was, or it has stored the text and
entered its key, and dropped from both indexes what the index by expiry takes for expired. -/
theorem command_set_cases {value : String} {ttl : Nat} (notIndex : key ≠ indexKey)
    (notExpiry : key ≠ expiryKey) (index : server.HoldsSet indexKey)
    (expiry : server.HoldsSet expiryKey) :
    let after := (server.command now (setCommand key value ttl now.unixSeconds)).2
    after = server ∨
      ∃ between expired,
        Enters server between key (.text value (now.unixNanos + ttl * 1000000000))
          (score (now.unixSeconds + ttl)) ∧
        (∀ member ∈ expired, ∃ s,
          (member, s) ∈ between.members expiryKey ∧ s ≤ score now.unixSeconds) ∧
        Leaves between after expired := by
  intro after
  -- What the command leaves is what the script leaves, however the script ends.
  have isAfter : after = ((setSteps now key indexKey expiryKey value (toString ttl)
      (toString (expiryTime now.unixSeconds ttl)) (toString now.unixSeconds)
      (toString pruneBatch)).run server).2 := by
    simp only [after, setCommand, command, if_true]
    split
    · next ran => rw [ran]
    · next ran => rw [ran]
  rw [setSteps] at isAfter
  rcases set_cases server now key value (fun _ => eq_of_integer?_repr) with ⟨reason, refused⟩ | ⟨lives, stored⟩
  · left
    rw [isAfter, bind_of_error (call_of_failed refused)]
  · right
    let datum := Datum.text value (now.unixNanos + ttl * 1000000000)
    have isTime := (expiryTime_of_canLive lives).2
    have isBatch : integer? (toString pruneBatch) = some 100 := by decide
    obtain ⟨between, first, second, atIndex, atExpiry⟩ :=
      addMember_entered now notIndex notExpiry index expiry datum isTime
    have enters := enters_entered server notIndex notExpiry datum (score (now.unixSeconds + ttl))
    obtain ⟨expired, found, past⟩ :=
      upToScore_eq enters.expiry now (integer?_seconds now) isBatch
    obtain ⟨last, dropped, leaves⟩ := dropSteps_run now enters.index enters.expiry expired
    refine ⟨_, expired, enters, past, ?_⟩
    rw [bind_of_ok (call_of_done stored rfl), bind_of_ok (call_of_done atIndex rfl),
      bind_of_ok (call_of_done atExpiry rfl), bind_of_ok (call_of_done found rfl)] at isAfter
    have listed : (Reply.list (expired.map .text)).texts.toOption.getD [] = expired := by
      rw [texts_list]
      rfl
    simp only [listed] at isAfter
    rw [bind_of_ok dropped] at isAfter
    rw [isAfter]
    exact leaves

/-! ## What a removal does -/

theorem command_of_ne {name : String} (notScript : name ≠ "EVAL") (words : List String) :
    server.command now (name :: words) = server.carryOut now (name :: words) := by
  unfold command
  split
  · next same => exact absurd (List.cons.inj same).1 notScript
  · rfl

/-- The server without what is under keys. -/
def without (server : Server) (keys : List String) : Server :=
  ⟨fun key => if keys.contains key then none else server.data key⟩

theorem data_without_of_not_mem (server : Server) {keys : List String} (notGone : key ∉ keys) :
    (server.without keys).data key = server.data key := by
  simp [without, notGone]

theorem data_without_of_mem {keys : List String} (gone : key ∈ keys) :
    (server.without keys).data key = none := by
  simp [without, gone]

/-- A removal drops what is under the keys, and the keys from both indexes. -/
theorem transact_remove (now : Moment) {keys : List String} (notIndex : indexKey ∉ keys)
    (notExpiry : expiryKey ∉ keys) (index : server.HoldsSet indexKey)
    (expiry : server.HoldsSet expiryKey) :
    Leaves (server.without keys) (server.transact now (removeCommands keys)).2 keys := by
  have index' := index.of_data (data_without_of_not_mem server notIndex)
  have expiry' := expiry.of_data (data_without_of_not_mem server notExpiry)
  obtain ⟨between, first, second, left, right⟩ := removeMembers_dropped now index' expiry' keys
  have deleted : ∃ reply, server.carryOut now ("DEL" :: keys) = (reply, server.without keys) :=
    ⟨_, rfl⟩
  obtain ⟨reply, deleted⟩ := deleted
  simp only [removeCommands, transact, command_of_ne (show "DEL" ≠ "EVAL" by decide),
    command_of_ne (show "ZREM" ≠ "EVAL" by decide), deleted, left, right]
  exact leaves_dropped _ keys

end Server

/-- The answer to a request where the cache is in a server. Everything beside it is answered over
the state that calls share. The clock is the same for both. -/
def answer (chance : Chance) (request : Request) (state : Shared × Server) :
    Except Abort request.Answer × Shared × Server :=
  match request with
  | .beside request =>
    let reply := Shared.answer chance request state.1
    (reply.1, reply.2, state.2)
  | .connect _ => (.ok (.ok ()), state)
  | .command words =>
    let reply := state.2.command chance.now words
    (.ok reply.1, state.1, reply.2)
  | .transaction commands =>
    let replies := state.2.transact chance.now commands
    (.ok (.list replies.1), state.1, replies.2)

/-- The surroundings of a service that keeps its cache in a server. -/
def surroundings : Surroundings Request.interface (Shared × Server) where
  Chance := Chance
  answer := answer
  Disturbance := Empty
  disturb := nofun

end Shortlink.Cache.Redis
