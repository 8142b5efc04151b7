import RustGameserver.Session.Task

/-!
Contract: `game_server::backend` as its sessions see it.

Owns: the calls a GameServer session task makes and the replies it can get.

Does not own: Redis and MySQL, which answer the calls.
-/

namespace RustGameserver.GameServer

inductive BackendError where
  | sql
  | redis
deriving DecidableEq, Repr

/-- A call of a `Backend` method that a spawned task awaits. -/
inductive Work where
  | takeAuthToken (token : String)
  | saveScore (accountId : UInt64) (score killCount surviveSeconds : Int32)
deriving DecidableEq, Repr

/-- What the awaited call returned. -/
inductive Reply where
  | token (result : Except BackendError (Option String))
  | saved (result : Except BackendError Unit)
deriving DecidableEq

end RustGameserver.GameServer
