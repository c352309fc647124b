import Shortlink.Cache.Redis
import Shortlink.Rehearsal.World

/-!
# A scripted cache server

A cache server that holds no data: it writes down each command that it is sent and replies
as it was told to, or else as an empty server would.
-/

namespace Shortlink.Rehearsal

open Cache.Redis

/-- A scripted cache server. -/
structure CacheServer where
  /-- There is a server to connect to. -/
  isReachable : Bool
  /-- The replies to come, one for each command outside a transaction and for each
  transaction. -/
  replies : List Reply := []
  /-- The commands sent, the latest first. -/
  sent : List (List String) := []

namespace CacheServer

/-- The reply of an empty server to a command. -/
def standardReply : List String → Reply
  | "PING" :: _ => .status "PONG"
  | "EVAL" :: _ => .integer 0
  | "ZRANGEBYLEX" :: _ => .list []
  | _ => .nothing

/-- The reply of an empty server to a transaction. -/
def standardOutcome (commands : List (List String)) : Reply :=
  .list (commands.map fun _ => .integer 1)

/-- Writes commands down and takes the next reply. -/
def take (server : CacheServer) (commands : List (List String)) (standard : Reply) :
    Reply × CacheServer :=
  (server.replies.headD standard,
    { server with
      replies := server.replies.tail
      sent := commands.reverse ++ server.sent })

/-- Answers a request, in a world in which everything but the server is. -/
def answer (request : Request) (state : World × CacheServer) :
    Except Abort request.Answer × World × CacheServer :=
  let (world, server) := state
  match request with
  | .beside request =>
    let (result, world) := world.answer request
    (result, world, server)
  | .connect _ =>
    (.ok (if server.isReachable then .ok () else .error "connection refused"), world, server)
  | .command words =>
    let (reply, server) := server.take [words] (standardReply words)
    (.ok reply, world, server)
  | .transaction commands =>
    let (reply, server) :=
      server.take (["MULTI"] :: commands ++ [["EXEC"]]) (standardOutcome commands)
    (.ok reply, world, server)

end CacheServer

end Shortlink.Rehearsal
