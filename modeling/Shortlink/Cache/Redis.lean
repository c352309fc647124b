import Shortlink.Cache.Redis.Address
import Shortlink.Number.Bounds
import Shortlink.Effect

/-!
# The cache in Redis

Each request to the cache as commands to a Redis server. Keys are kept in two indexes beside
their values: one in the order of their bytes, by which keys with a common start are found,
and one by the time of expiry, by which expired keys leave both indexes. A read or a write
that fails is a miss or is left undone; only the removal of all keys with a common start
reports a failure.
-/

namespace Shortlink.Cache.Redis

open Time (Moment)

/-- A reply of the server. -/
inductive Reply where
  | nothing
  | text (value : String)
  /-- A short text that says how a command went. -/
  | status (value : String)
  | integer (value : Int)
  | list (items : List Reply)
  | error (reason : String)
  deriving Repr

/-- What is asked of a server, and beside it of everything else. -/
inductive Request where
  /-- A request that is not one to the server. -/
  | beside (request : Effect)
  /-- To connect to the server that a URL names. -/
  | connect (url : String)
  /-- To carry out a command, given as its name and its arguments. -/
  | command (words : List String)
  /-- To carry out commands as one. The reply has a list with the reply to each. -/
  | transaction (commands : List (List String))

namespace Request

/-- The type of the reply to a request. -/
abbrev Answer : Request → Type
  | beside request => request.Reply
  | connect _ => Except String Unit
  | command _ => Reply
  | transaction _ => Reply

/-- The interface to a server. -/
def interface : Interface := ⟨Request, Answer⟩

end Request

/-- A computation with a server. -/
abbrev RedisProgram := Script Request.interface

/-- Makes a request. -/
def query (request : Request) : RedisProgram request.Answer :=
  Script.request (I := Request.interface) request

/-! ## Replies -/

/-- What is said about a reply that has another form than was asked for. -/
def unexpected : String := "unexpected reply"

namespace Reply

/-- The text that a reply is; integers count as text. -/
def text? : Reply → Option String
  | .text value => some value
  | .status value => some value
  | .integer value => some (toString value)
  | _ => none

/-- The reason of an error. -/
def error? : Reply → Option String
  | .error reason => some reason
  | _ => none

/-- The texts in a list; nothing is the empty list, and one text a list of one. -/
def texts : Reply → Except String (List String)
  | .nothing => .ok []
  | .text value => .ok [value]
  | .list items => items.mapM fun item => (item.text?.map Except.ok).getD (.error unexpected)
  | .status _ => .error unexpected
  | .integer _ => .error unexpected
  | .error reason => .error reason

/-- Whether a command was carried out. -/
def acknowledged : Reply → Except String Unit
  | .error reason => .error reason
  | _ => .ok ()

/-- Whether all commands of a transaction were carried out. -/
def allAcknowledged : Reply → Except String Unit
  | .nothing => .ok ()
  | .list items =>
    match items.findSome? error? with
    | some reason => .error reason
    | none => .ok ()
  | .error reason => .error reason
  | _ => .error unexpected

end Reply

/-! ## Commands -/

/-- The index of all keys, in the order of their bytes. -/
def indexKey : String := "cache:index"

/-- The index of all keys by the time of expiry, in seconds since 1970. -/
def expiryKey : String := "cache:expiry"

/-- How many expired keys a write drops from the indexes at most. -/
def pruneBatch : Nat := 100

/-- The script of a write. It writes the value with its time to live, enters the key in both
indexes, and drops keys from them that have expired. -/
def setScript : String := "
redis.call('SET', KEYS[1], ARGV[1], 'EX', ARGV[2])
redis.call('ZADD', KEYS[2], 0, KEYS[1])
redis.call('ZADD', KEYS[3], ARGV[3], KEYS[1])
local expired = redis.call('ZRANGEBYSCORE', KEYS[3], '-inf', ARGV[4], 'LIMIT', 0, ARGV[5])
if #expired > 0 then
  redis.call('ZREM', KEYS[2], unpack(expired))
  redis.call('ZREM', KEYS[3], unpack(expired))
end
return #expired
"

/-- The greatest signed 64-bit number. -/
def maxTime : Int := Number.maxSigned64

/-- The second at which a value written at `now` expires, or the greatest one there is. -/
def expiryTime (now : Int) (ttl : Nat) : Int := min (now + min (ttl : Int) maxTime) maxTime

/-- The command of a write. -/
def setCommand (key value : String) (ttl : Nat) (now : Int) : List String :=
  ["EVAL", setScript, "3", key, indexKey, expiryKey, value, toString ttl,
    toString (expiryTime now ttl), toString now, toString pruneBatch]

/-- The commands that remove keys and drop them from both indexes. -/
def removeCommands (keys : List String) : List (List String) :=
  ["DEL" :: keys, "ZREM" :: indexKey :: keys, "ZREM" :: expiryKey :: keys]

/-- The greatest character. -/
def lastChar : Char := Char.ofNat 0x10FFFF

/-- The lower bound of the keys that start with `stem`, which is `stem` itself. -/
def lowerBound (stem : String) : String := "[" ++ stem

/-- The upper bound of the keys that start with `stem`: no such key goes on with a greater
character. -/
def upperBound (stem : String) : String := "[" ++ stem ++ String.singleton lastChar

/-- The command that lists all keys that start with `stem`. -/
def rangeCommand (stem : String) : List String :=
  ["ZRANGEBYLEX", indexKey, lowerBound stem, upperBound stem]

/-! ## Operations -/

/-- The value under a key. -/
def get (key : String) : RedisProgram (Option String) := do
  pure (← query (.command ["GET", key])).text?

/-- Caches a value. -/
def set (key value : String) (ttl : Nat) : RedisProgram Unit := do
  let now ← query (.beside .now)
  let _ ← query (.command (setCommand key value ttl (Moment.unixSeconds now)))
  pure ()

/-- Drops the value under a key. -/
def remove (key : String) : RedisProgram Unit := do
  let _ ← query (.transaction (removeCommands [key]))
  pure ()

/-- Drops all values whose keys start with `stem`, and counts them. -/
def removeAll (stem : String) : RedisProgram (Except CacheError Nat) := do
  match (← query (.command (rangeCommand stem))).texts with
  | .error reason => pure (.error (.operation ("ZRANGEBYLEX failed: " ++ reason)))
  | .ok [] => pure (.ok 0)
  | .ok keys =>
    match (← query (.transaction (removeCommands keys))).allAcknowledged with
    | .ok _ => pure (.ok keys.length)
    | .error reason =>
      pure (.error (.operation ("Failed to remove keys under " ++ stem ++ ": " ++ reason)))

/-- Whether the server answers. -/
def isHealthy : RedisProgram Bool := do
  pure (← query (.command ["PING"])).acknowledged.isOk

/-- Connects to the server that a URL names and makes sure that it answers. -/
def connect (url : String) : RedisProgram (Except CacheError Unit) := do
  if !isAddress url then
    pure (.error (.connection "Failed to create Redis client: unusable URL"))
  else
    match ← query (.connect url) with
    | .error reason => pure (.error (.connection ("Failed to connect to Redis: " ++ reason)))
    | .ok _ =>
      match (← query (.command ["PING"])).acknowledged with
      | .ok _ => pure (.ok ())
      | .error reason => pure (.error (.connection ("Redis PING failed: " ++ reason)))

/-- Whether there is a server to use: one is configured and can be reached. Without one,
nothing is cached. -/
def isAvailable : Option String → RedisProgram Bool
  | none => pure false
  | some url => do
    pure (← connect url).isOk

/-! ## Service -/

/-- The program that answers a request. `defaultTtl` is the time to live, in seconds, where
none is asked for. -/
def serve (defaultTtl : Nat) : (request : Effect) → RedisProgram request.Reply
  | .cacheGet key => do
    let value ← get key
    pure (.ok value)
  | .cacheSet key value ttl => do
    set key value (ttl.getD defaultTtl)
    pure (.ok ())
  | .cacheRemove key => do
    remove key
    pure (.ok ())
  | .cacheRemoveAll stem => removeAll stem
  | .cacheHealthy => isHealthy
  | other => query (.beside other)

/-- A computation of the service as one that keeps its cache in Redis. -/
def withRedis {α : Type} (defaultTtl : Nat) (program : Program α) : RedisProgram α :=
  Script.interpret (I := Effect.interface) (serve defaultTtl) program

end Shortlink.Cache.Redis
