import RustGameserver.Db.Password
import RustGameserver.LoginServer.Session
import RustGameserver.Session.Server

/-!
Contract: a LoginServer over a table of accounts, as its schedule drives it.

Owns:
- the reply a login task gets from the accounts, the password check and the
  conditions the backend is in;
- a server whose tasks take turns, and get their replies when it is their turn.

Does not own: the order of the turns, which the schedule decides.
-/

namespace RustGameserver.LoginServer

open RustGameserver.Db
open RustGameserver.Foundation
open RustGameserver.Net
open RustGameserver.Proto
open RustGameserver.Session

/-- What `find_account` finds for a user id. -/
abbrev Accounts : Type := String → Option AccountRow

/-- The outcome of the backend calls as far as the accounts do not decide it. -/
structure Conditions where
  /-- the failure of `find_account`, if it fails -/
  lookup : Option BackendError
  touched : Except BackendError Unit
  issued : Except BackendError (Option String)
deriving DecidableEq

/-- `db::password::verify` on the blocking thread, which runs to its end. -/
def verified (library : PasswordLibrary) (row : AccountRow) (clientHash : List UInt8) :
    Except VerifyError Bool :=
  match library.verify clientHash row.passwordHash row.salt with
  | .ok verdict => .ok verdict
  | .error .invalidBase64 => .error .invalidBase64

/-- The reply to the call that a login task awaits. -/
def respond (library : PasswordLibrary) (accounts : Accounts) (conditions : Conditions) :
    Work → Reply
  | .findAccount userId _ =>
      match conditions.lookup with
      | some error => .account (.error error)
      | none => .account (.ok (accounts userId))
  | .verify row clientHash => .verified (verified library row clientHash)
  | .touchLastLogin _ => .touched conditions.touched
  | .issueAuthToken _ => .issued conditions.issued

/-- One turn of a schedule. -/
inductive Turn where
  /-- A login task gets the reply it waits for; nothing happens if it waits for none. -/
  | backend (sessionId : SessionId) (job : Nat) (conditions : Conditions)
  /-- Anything else that can happen to the server. -/
  | server (event : ServerEvent Reply)
deriving DecidableEq

/-- The event brings a reply, which only a backend turn does. -/
def isReply : ServerEvent Reply → Bool
  | .session _ (.reply ..) => true
  | _ => false

abbrev LoginTask : Type := Task Session Work Reply LoginOutcome

abbrev LoginState : Type := ServerState Session Work Reply LoginOutcome

abbrev LoginSeen : Type := ServerSeen Session Work Reply LoginOutcome

/-- A LoginServer over these accounts, driven by turns. -/
def scheduled (keepAliveTimeout : Nat) (library : PasswordLibrary) (accounts : Accounts) :
    Machine LoginState Turn LoginSeen where
  Initial := (server (service keepAliveTimeout)).Initial
  step := fun state turn =>
    match turn with
    | .server event =>
        if isReply event then none else state.step (service keepAliveTimeout) event
    | .backend sessionId index conditions =>
        match state.tasks.get sessionId with
        | none => none
        | some task =>
            match task.jobs[index]? with
            | none => none
            | some job =>
                match job.state with
                | .running work =>
                    state.step (service keepAliveTimeout)
                      (.session sessionId
                        (.reply index (respond library accounts conditions work)))
                | .finished _ | .ended _ => some (state, [])

/-- The user id and the password hash of a login request. -/
def credentials (message : MessageWrapper) : Option (String × List UInt8) :=
  match message.payload with
  | some (.loginRequest req) => some (req.userId, req.passwordHash)
  | _ => none

/-- The credentials that a turn brings to a session. -/
def Turn.credentials : Turn → Option (String × List UInt8)
  | .server (.session _ (.select _ (some (.message message)))) =>
      LoginServer.credentials message
  | _ => none

/-- A server driven by turns takes the steps of a server, or idles. -/
theorem scheduled_step {keepAliveTimeout : Nat} {library : PasswordLibrary} {accounts : Accounts}
    {state after : LoginState} {turn : Turn} {seen : List LoginSeen}
    (taken : (scheduled keepAliveTimeout library accounts).step state turn = some (after, seen)) :
    (after = state ∧ seen = []) ∨
      ∃ event, (server (service keepAliveTimeout)).step state event = some (after, seen) := by
  cases turn with
  | server event =>
      simp only [scheduled] at taken
      split at taken
      · contradiction
      · exact .inr ⟨event, taken⟩
  | backend sessionId index conditions =>
      simp only [scheduled] at taken
      split at taken
      · contradiction
      · split at taken
        · contradiction
        · split at taken
          · next work _ =>
              exact .inr ⟨.session sessionId
                (.reply index (respond library accounts conditions work)), taken⟩
          · cases taken
            exact .inl ⟨rfl, rfl⟩
          · cases taken
            exact .inl ⟨rfl, rfl⟩

/-- Every scheduled run is a run of the server. -/
theorem scheduled_reaches {keepAliveTimeout : Nat} {library : PasswordLibrary}
    {accounts : Accounts} {state : LoginState} {history : List LoginSeen}
    (run : (scheduled keepAliveTimeout library accounts).Reaches state history) :
    (server (service keepAliveTimeout)).Reaches state history := by
  induction run with
  | initial start => exact .initial start
  | step _ taken inductionHypothesis =>
      rcases scheduled_step taken with ⟨rfl, rfl⟩ | ⟨event, stepped⟩
      · simpa using inductionHypothesis
      · exact inductionHypothesis.step stepped

end RustGameserver.LoginServer
