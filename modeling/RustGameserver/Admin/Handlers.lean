import RustGameserver.Admin.Requests
import RustGameserver.Net.Registry

/-!
Contract: the handlers of the AdminApi behind `require_session_key`.

Owns:
- `notice`, `scores_by_account`, `scores_top`, `sessions`, `disconnect`, `stats` and
  `health` behind their extractors, until they wait or answer;
- `SessionRegistry::{snapshot, count}`, which they read.

Does not own: the measurements of the process and the packet counters that `stats` adds.
-/

namespace RustGameserver.Net

/-- `SessionInfo`. -/
structure SessionInfo where
  sessionId : SessionId
  userId : Option String
deriving DecidableEq, Repr

def SessionInfo.isAuthenticated (info : SessionInfo) : Bool := info.userId.isSome

namespace SessionRegistry

variable (registry : SessionRegistry)

/-- `snapshot`, in the order of the hash map. -/
def snapshot : Multiset SessionInfo :=
  registry.sessions.entries.map fun entry => ⟨entry.1, entry.2.userId⟩

def count : Nat := registry.sessions.keys.card

/-- A session is in the snapshot when it has an entry. -/
theorem mem_snapshot {info : SessionInfo} :
    info ∈ registry.snapshot ↔
      ∃ entry, registry.sessions.get info.sessionId = some entry ∧ entry.userId = info.userId := by
  rw [snapshot, Multiset.mem_map]
  constructor
  · rintro ⟨⟨sessionId, entry⟩, member, rfl⟩
    exact ⟨entry, Foundation.FiniteMap.mem_entries.mp member, rfl⟩
  · rintro ⟨entry, present, user⟩
    refine ⟨⟨info.sessionId, entry⟩, Foundation.FiniteMap.mem_entries.mpr present, ?_⟩
    rw [user]

/-- No session is in the snapshot twice. -/
theorem snapshot_nodup : (registry.snapshot.map SessionInfo.sessionId).Nodup := by
  rw [snapshot, Multiset.map_map]
  exact Multiset.nodup_keys.mpr registry.sessions.nodupKeys

end SessionRegistry

end RustGameserver.Net

namespace RustGameserver.Admin

open RustGameserver.Foundation
open RustGameserver.Net

/-- A row of `scores`; `playedAt` is the text of the DATETIME. -/
structure ScoreDto where
  scoreId : UInt64
  accountId : UInt64
  score : UInt32
  killCount : UInt32
  surviveSeconds : UInt32
  playedAt : String
deriving DecidableEq, Repr

structure SessionDto where
  sessionId : SessionId
  userId : Option String
  worldId : UInt64
  isAuthenticated : Bool
deriving DecidableEq, Repr

structure HealthDto where
  status : String
  db : String
  redis : String
deriving DecidableEq, Repr

inductive Answer where
  | plain (response : Response)
  | scores (rows : List ScoreDto)
  | sessions (list : Multiset SessionDto)
  | health (body : HealthDto)
  | stats (activeSessions : Nat)
deriving DecidableEq

/-- The answer says what the registry lists. -/
def Answer.ofSessions : Answer → Bool
  | .sessions _ | .stats _ => true
  | .plain _ | .scores _ | .health _ => false

/-- The SELECT of the two score handlers, with the `LIMIT` that is bound. -/
inductive ScoreSelect where
  | byAccount (accountId : UInt64) (limit : Int64)
  | top (limit : Int64)
deriving DecidableEq

/-- What a handler does first. -/
inductive Begins where
  | answers (answer : Answer)
  | publishes (message : String)
  | selects (select : ScoreSelect)
  | checks
  | disconnects (sessionId : SessionId)
deriving DecidableEq

def Begins.responds (response : Response) : Begins := .answers (.plain response)

def notice (req : NoticeRequestDto) : Begins :=
  if req.message.toList.all isWhitespace then .responds (.text 400 "message required")
  else .publishes req.message

/-- `Ord::clamp`. -/
def clamp (value low high : Int64) : Int64 :=
  if value < low then low else if high < value then high else value

def scoresByAccount (q : ScoresQuery) : Begins :=
  .selects (.byAccount q.accountId (clamp (q.limit.getD 50) 1 200))

def scoresTop (q : TopQuery) : Begins :=
  .selects (.top (clamp (q.limit.getD 10) 1 100))

def sessions (registry : SessionRegistry) : Multiset SessionDto :=
  registry.snapshot.map fun info => ⟨info.sessionId, info.userId, 0, info.isAuthenticated⟩

def health (dbOk redisOk : Bool) : HealthDto :=
  let upDown (ok : Bool) : String := if ok then "ok" else "down"
  ⟨if dbOk && redisOk then "ok" else "degraded", upDown dbOk, upDown redisOk⟩

/-- `disconnect` once `registry.disconnect` has returned. -/
def disconnected (found : Bool) : Answer :=
  .plain (.status (if found then 204 else 404))

/-- A handler behind its extractors.  `login` and `logout` are run by `handle`. -/
def invoke (http : HttpRequest) (registry : SessionRegistry) : Handler → Begins
  | .login | .logout => .responds .rejected
  | .health => .checks
  | .notice => http.body.notice.elim (.responds .rejected) notice
  | .scoresByAccount => http.query.scores.elim (.responds .rejected) scoresByAccount
  | .scoresTop => http.query.top.elim (.responds .rejected) scoresTop
  | .sessions => .answers (.sessions (sessions registry))
  | .disconnect => http.sessionId.elim (.responds .rejected) .disconnects
  | .stats => .answers (.stats registry.count)

variable {http : HttpRequest} {registry : SessionRegistry} {handler : Handler}

/-- Only `disconnect` disconnects, and the session that its path names. -/
theorem invoke_disconnects {sessionId : SessionId}
    (begins : invoke http registry handler = .disconnects sessionId) :
    handler = .disconnect ∧ http.sessionId = some sessionId := by
  cases handler with
  | disconnect =>
      cases given : http.sessionId with
      | none =>
          rw [invoke, given] at begins
          contradiction
      | some named =>
          rw [invoke, given, Option.elim_some, Begins.disconnects.injEq] at begins
          exact ⟨rfl, congrArg some begins⟩
  | notice =>
      cases given : http.body.notice with
      | none =>
          rw [invoke, given] at begins
          contradiction
      | some req =>
          rw [invoke, given, Option.elim_some, notice] at begins
          split at begins <;> contradiction
  | scoresByAccount =>
      rw [invoke] at begins
      cases given : http.query.scores <;> rw [given] at begins <;> contradiction
  | scoresTop =>
      rw [invoke] at begins
      cases given : http.query.top <;> rw [given] at begins <;> contradiction
  | login | logout | health | sessions | stats => contradiction

/-- Only `notice` publishes, and a message that is not blank. -/
theorem invoke_publishes {message : String}
    (begins : invoke http registry handler = .publishes message) :
    handler = .notice ∧ http.body.notice = some ⟨message⟩ ∧
      message.toList.all isWhitespace = false := by
  cases handler with
  | notice =>
      cases given : http.body.notice with
      | none =>
          rw [invoke, given] at begins
          contradiction
      | some req =>
          rw [invoke, given, Option.elim_some, notice] at begins
          split at begins
          · contradiction
          · next legible =>
              rw [Begins.publishes.injEq] at begins
              rw [← begins]
              exact ⟨rfl, rfl, Bool.eq_false_iff.mpr legible⟩
  | disconnect =>
      rw [invoke] at begins
      cases given : http.sessionId <;> rw [given] at begins <;> contradiction
  | scoresByAccount =>
      rw [invoke] at begins
      cases given : http.query.scores <;> rw [given] at begins <;> contradiction
  | scoresTop =>
      rw [invoke] at begins
      cases given : http.query.top <;> rw [given] at begins <;> contradiction
  | login | logout | health | sessions | stats => contradiction

end RustGameserver.Admin
