import RustGameserver.LoginServer.Backend
import RustGameserver.Net.Consts

/-!
Contract: `login_server::session`, the handlers of a LoginServer session.

Owns:
- the fields of a session with its login window;
- `on_remote`, `on_login_request` and `on_login_outcome`;
- the login task `authenticate`, from one wait to the next.

Does not own: `run`, `event_loop` and the spawned tasks, which are shared with
GameServer, and the backend.
-/

namespace RustGameserver.LoginServer

open RustGameserver.Net
open RustGameserver.Proto
open RustGameserver.Session

/-- `LOGIN_ATTEMPTS_PER_WINDOW`. -/
def loginAttemptsPerWindow : UInt32 := 5

/-- `LOGIN_ATTEMPT_WINDOW`. -/
def loginAttemptWindow : Nat := fromSecs 60

/-- `DB_ERROR_CODE`. -/
def dbErrorCode : Int32 := 3

inductive LoginErrorCode where
  | success
  | invalidCredentials
  | banned
  | serverError
  | rateLimited
deriving DecidableEq, Repr

/-- `code as i32`. -/
def LoginErrorCode.toInt32 : LoginErrorCode → Int32
  | .success => 0
  | .invalidCredentials => 1
  | .banned => 2
  | .serverError => 3
  | .rateLimited => 4

structure Account where
  userId : String
deriving DecidableEq, Repr

inductive LoginOutcome where
  | success (account : Account) (token : String)
  | failure (code : LoginErrorCode)
  | dbError
deriving DecidableEq, Repr

/-- The fields of a session, its outbox and inner channel apart. -/
structure Session where
  sessionId : SessionId
  account : Option Account
  lastKeepAlive : Nat
  loginWindow : Option Nat
  loginAttempts : UInt32
deriving DecidableEq, Repr

namespace Session

/-- The session `run` builds. -/
def create (sessionId : SessionId) (now : Nat) : Session where
  sessionId := sessionId
  account := none
  lastKeepAlive := now
  loginWindow := none
  loginAttempts := 0

variable (session : Session)

/-- `try_consume_login_attempt`, with the session after it. -/
def tryConsumeLoginAttempt (now : Nat) : Session × Bool :=
  let expired := session.loginWindow.all fun start =>
    loginAttemptWindow ≤ durationSince now start
  let session := if expired then { session with loginWindow := some now, loginAttempts := 0 }
    else session
  -- the sum wraps around in a release build
  let session := { session with loginAttempts := session.loginAttempts + 1 }
  (session, session.loginAttempts ≤ loginAttemptsPerWindow)

def sendLoginFailure (code : LoginErrorCode) : Reaction Session Work :=
  .send session (.loginResponse ⟨false, code.toInt32, ""⟩)

def onLoginRequest (now : Nat) (userId : String) (passwordHash : List UInt8) :
    Reaction Session Work :=
  if session.account.isSome then session.sendLoginFailure .invalidCredentials
  else
    -- an empty request uses up an attempt as well
    let (session, granted) := session.tryConsumeLoginAttempt now
    if !granted then session.sendLoginFailure .rateLimited
    else if userId.isEmpty || passwordHash.isEmpty then
      session.sendLoginFailure .invalidCredentials
    else .spawn session (.findAccount userId passwordHash)

def onRemote (now : Nat) (message : MessageWrapper) : Reaction Session Work :=
  let authenticated := session.account.isSome
  match message.payload with
  | some (.loginRequest req) => session.onLoginRequest now req.userId req.passwordHash
  | some .keepAliveRequest => .proceed { session with lastKeepAlive := now }
  | _ => if !authenticated then .stop session else .proceed session

def onLoginOutcome (now : Nat) : LoginOutcome → Reaction Session Work
  | .success account token =>
      .authenticate { session with account := some account, lastKeepAlive := now }
        account.userId (.loginResponse ⟨true, LoginErrorCode.success.toInt32, token⟩)
  | .failure code => session.sendLoginFailure code
  | .dbError => .send session (.errorResponse ⟨dbErrorCode⟩)

end Session

/-- `authenticate`, which looks at the ban only after the password. -/
def authenticate : Work → Reply → Option (Progress Work LoginOutcome)
  | .findAccount _ clientHash, .account result =>
      match result with
      | .ok (some row) => some (.awaits (.verify row clientHash))
      | .ok none => some (.returns (.failure .invalidCredentials))
      | .error _ => some (.returns .dbError)
  | .verify row _, .verified result =>
      match result with
      | .ok true =>
          if row.status = 1 then some (.returns (.failure .banned))
          else some (.awaits (.touchLastLogin row))
      | .ok false => some (.returns (.failure .invalidCredentials))
      | .error _ => some (.returns .dbError)
  | .touchLastLogin row, .touched result =>
      match result with
      | .ok () => some (.awaits (.issueAuthToken row))
      | .error _ => some (.returns .dbError)
  | .issueAuthToken row, .issued result =>
      match result with
      | .ok (some token) => some (.returns (.success ⟨row.userId⟩ token))
      | .ok none => some (.returns (.failure .serverError))
      | .error _ => some (.returns (.failure .serverError))
  | _, _ => none

/-- A LoginResponse that reports success. -/
def isSuccess : Payload → Bool
  | .loginResponse body => body.success
  | _ => false

/-! ## What the handlers can do -/

/-- The messages that `on_remote` looks at before its gate. -/
def passesGate : Option Payload → Bool
  | some (.loginRequest _) | some .keepAliveRequest => true
  | _ => false

namespace Session

/-- The user id of the account. -/
def user (session : Session) : Option String := session.account.map Account.userId

variable (session : Session)

theorem tryConsumeLoginAttempt_account (now : Nat) :
    (session.tryConsumeLoginAttempt now).1.account = session.account := by
  unfold tryConsumeLoginAttempt
  simp only
  split <;> rfl

theorem tryConsumeLoginAttempt_lastKeepAlive (now : Nat) :
    (session.tryConsumeLoginAttempt now).1.lastKeepAlive = session.lastKeepAlive := by
  unfold tryConsumeLoginAttempt
  simp only
  split <;> rfl

/-- What a remote message leads to, alternative by alternative. -/
inductive Handles (now : Nat) (message : MessageWrapper) : Reaction Session Work → Prop where
  | refused (req : LoginRequest) (account : Account)
      (asked : message.payload = some (.loginRequest req))
      (authenticated : session.account = some account) :
      Handles now message (.send session (.loginResponse ⟨false, 1, ""⟩))
  | limited (req : LoginRequest) (asked : message.payload = some (.loginRequest req))
      (anonymous : session.account = none)
      (spent : (session.tryConsumeLoginAttempt now).2 = false) :
      Handles now message
        (.send (session.tryConsumeLoginAttempt now).1 (.loginResponse ⟨false, 4, ""⟩))
  | blank (req : LoginRequest) (asked : message.payload = some (.loginRequest req))
      (anonymous : session.account = none)
      (granted : (session.tryConsumeLoginAttempt now).2 = true)
      (empty : (req.userId.isEmpty || req.passwordHash.isEmpty) = true) :
      Handles now message
        (.send (session.tryConsumeLoginAttempt now).1 (.loginResponse ⟨false, 1, ""⟩))
  | lookedUp (req : LoginRequest) (asked : message.payload = some (.loginRequest req))
      (anonymous : session.account = none)
      (granted : (session.tryConsumeLoginAttempt now).2 = true)
      (filled : (req.userId.isEmpty || req.passwordHash.isEmpty) = false) :
      Handles now message
        (.spawn (session.tryConsumeLoginAttempt now).1
          (.findAccount req.userId req.passwordHash))
  | keptAlive (asked : message.payload = some .keepAliveRequest) :
      Handles now message (.proceed { session with lastKeepAlive := now })
  | gated (other : passesGate message.payload = false) (anonymous : session.account = none) :
      Handles now message (.stop session)
  | ignored (account : Account) (other : passesGate message.payload = false)
      (authenticated : session.account = some account) :
      Handles now message (.proceed session)

theorem onLoginRequest_cases (now : Nat) (message : MessageWrapper) (req : LoginRequest)
    (asked : message.payload = some (.loginRequest req)) :
    session.Handles now message (session.onLoginRequest now req.userId req.passwordHash) := by
  unfold onLoginRequest
  cases held : session.account with
  | some account => exact .refused req account asked held
  | none =>
      simp only [Option.isSome_none, Bool.false_eq_true, if_false]
      cases granted : (session.tryConsumeLoginAttempt now).2 with
      | false => exact .limited req asked held granted
      | true =>
          cases filled : req.userId.isEmpty || req.passwordHash.isEmpty with
          | true => exact .blank req asked held granted filled
          | false => exact .lookedUp req asked held granted filled

theorem onRemote_cases (now : Nat) (message : MessageWrapper) :
    session.Handles now message (session.onRemote now message) := by
  by_cases gate : passesGate message.payload = true
  · obtain ⟨size, payload⟩ := message
    rcases payload with _ | payload
    · contradiction
    · cases payload with
      | loginRequest req => exact session.onLoginRequest_cases now _ req rfl
      | keepAliveRequest => exact .keptAlive rfl
      | _ => contradiction
  · rw [Bool.not_eq_true] at gate
    have decided : session.onRemote now message =
        if !session.account.isSome then .stop session else .proceed session := by
      unfold onRemote
      simp only
      split
      · next asked => rw [asked] at gate; contradiction
      · next asked => rw [asked] at gate; contradiction
      · rfl
    rw [decided]
    cases held : session.account with
    | some account => exact .ignored account gate held
    | none => exact .gated gate held

/-- What a result of a login task leads to. -/
inductive Answers (now : Nat) : LoginOutcome → Reaction Session Work → Prop where
  | authenticated (account : Account) (token : String) :
      Answers now (.success account token)
        (.authenticate { session with account := some account, lastKeepAlive := now }
          account.userId (.loginResponse ⟨true, 0, token⟩))
  | failed (code : LoginErrorCode) :
      Answers now (.failure code) (.send session (.loginResponse ⟨false, code.toInt32, ""⟩))
  | dbError : Answers now .dbError (.send session (.errorResponse ⟨3⟩))

theorem onLoginOutcome_cases (now : Nat) (outcome : LoginOutcome) :
    session.Answers now outcome (session.onLoginOutcome now outcome) := by
  cases outcome with
  | success account token => exact .authenticated account token
  | failure code => exact .failed code
  | dbError => exact .dbError

variable {session} {reaction : Reaction Session Work} {now : Nat}

theorem Handles.user {message : MessageWrapper}
    (handles : session.Handles now message reaction) :
    reaction.fields.user = reaction.userAfter session.user := by
  have kept : (session.tryConsumeLoginAttempt now).1.user = session.user := by
    rw [Session.user, session.tryConsumeLoginAttempt_account now, Session.user]
  cases handles <;> first | rfl | exact kept

theorem Handles.send_success {message : MessageWrapper} {after : Session} {payload : Payload}
    (handles : session.Handles now message (.send after payload)) : isSuccess payload = false := by
  cases handles <;> rfl

/-- Only a login request spawns a task. -/
theorem Handles.spawn {message : MessageWrapper} {after : Session} {work : Work}
    (handles : session.Handles now message (.spawn after work)) :
    ∃ req, message.payload = some (.loginRequest req) ∧
      work = .findAccount req.userId req.passwordHash := by
  cases handles with
  | lookedUp req asked => exact ⟨req, asked, rfl⟩

theorem Answers.user {outcome : LoginOutcome} (answers : session.Answers now outcome reaction) :
    reaction.fields.user = reaction.userAfter session.user := by
  cases answers <;> rfl

theorem Answers.send_success {outcome : LoginOutcome} {after : Session} {payload : Payload}
    (answers : session.Answers now outcome (.send after payload)) : isSuccess payload = false := by
  cases answers <;> rfl

end Session

/-- LoginServer's part of a session task.  It records no logout. -/
def service (keepAliveTimeout : Nat) :
    Service Session Work Reply LoginOutcome where
  create := Session.create
  user := Session.user
  lastKeepAlive := Session.lastKeepAlive
  keepAliveTimeout := keepAliveTimeout
  onRemote := Session.onRemote
  onInner := Session.onLoginOutcome
  resume := authenticate
  logoutAccount := fun _ => none
  isSuccess := isSuccess
  create_user := fun _ _ => rfl
  onRemote_user := fun session now message => (session.onRemote_cases now message).user
  onInner_user := fun session now outcome => (session.onLoginOutcome_cases now outcome).user
  greeting_success := rfl
  onRemote_success := fun session now message _ _ sends =>
    Session.Handles.send_success (by rw [← sends]; exact session.onRemote_cases now message)
  onInner_success := fun session now outcome _ _ sends =>
    Session.Answers.send_success (by rw [← sends]; exact session.onLoginOutcome_cases now outcome)

end RustGameserver.LoginServer
