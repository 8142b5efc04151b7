import RustGameserver.Foundation.Decimal
import RustGameserver.GameServer.Backend

/-!
Contract: `game_server::session`, the handlers of a GameServer session.

Owns:
- the fields of a session and the account it has authenticated as;
- `on_remote` with its gate in the middle of the alternatives, the handlers
  behind it, and `on_inner` for the results of the session's own tasks;
- reading the value stored under an authentication token.

Does not own: `run`, `event_loop` and the spawned tasks, which are shared with
LoginServer, and the backend.
-/

namespace RustGameserver.GameServer

open RustGameserver.Foundation
open RustGameserver.Net
open RustGameserver.Proto
open RustGameserver.Session

/-- `DB_ERROR_CODE`. -/
def dbErrorCode : Int32 := 3

inductive GameConnectErrorCode where
  | success
  | invalidToken
deriving DecidableEq, Repr

/-- `code as i32`. -/
def GameConnectErrorCode.toInt32 : GameConnectErrorCode → Int32
  | .success => 0
  | .invalidToken => 1

structure Account where
  accountId : UInt64
  userId : String
deriving DecidableEq, Repr

/-- `parse_token_value`: the value is split at its first colon only. -/
def parseTokenValue (value : String) : Option Account :=
  match Decimal.splitOnce ':' value.toList with
  | none => none
  | some (accountId, userId) =>
      match Decimal.parse UInt64.size accountId with
      | none => none
      | some accountId => some ⟨UInt64.ofNat accountId, String.ofList userId⟩

inductive InnerMessage where
  | tokenTaken (value : Option String)
  | scoreSaved
  | dbError
deriving DecidableEq, Repr

/-- The fields of a session, its outbox and inner channel apart. -/
structure Session where
  sessionId : SessionId
  account : Option Account
  lastKeepAlive : Nat
  worldId : UInt64
  position : Float32Bits × Float32Bits
deriving DecidableEq, Repr

namespace Session

/-- The session `run` builds. -/
def create (sessionId : SessionId) (now : Nat) : Session where
  sessionId := sessionId
  account := none
  lastKeepAlive := now
  worldId := 0
  position := (.zero, .zero)

variable (session : Session)

def sendGameConnect (code : GameConnectErrorCode) : Reaction Session Work :=
  .send session (.gameConnectResponse ⟨code = .success, code.toInt32⟩)

def onGameConnectRequest (token : String) : Reaction Session Work :=
  if session.account.isSome || token.isEmpty then
    session.sendGameConnect .invalidToken
  else
    .spawn session (.takeAuthToken token)

def onGameOverReport (report : GameOverReport) : Reaction Session Work :=
  match session.account with
  | none => .proceed session
  | some account =>
      .spawn session
        (.saveScore account.accountId report.score report.killCount report.surviveSeconds)

def onRemote (now : Nat) (message : MessageWrapper) : Reaction Session Work :=
  let authenticated := session.account.isSome
  match message.payload with
  | some (.gameConnectRequest req) => session.onGameConnectRequest req.authToken
  | some .keepAliveRequest => .proceed { session with lastKeepAlive := now }
  | payload =>
      -- everything else ends a session that has not authenticated
      if !authenticated then .stop session
      else
        match payload with
        | some (.moveRequest req) =>
            .send { session with position := (req.x, req.y) } (.moveResponse ⟨true, req.x, req.y⟩)
        | some (.enterWorldRequest req) =>
            .send { session with worldId := req.worldId } (.enterWorldResponse ⟨true⟩)
        | some (.gameOverReport report) => session.onGameOverReport report
        | _ => .proceed session

/-- The response that `on_authenticated` sends is `send_game_connect(Success)`. -/
def onAuthenticated (now : Nat) (account : Account) : Reaction Session Work :=
  .authenticate { session with account := some account, lastKeepAlive := now } account.userId
    (.gameConnectResponse ⟨true, GameConnectErrorCode.success.toInt32⟩)

def onInner (now : Nat) : InnerMessage → Reaction Session Work
  | .tokenTaken value =>
      match value.bind parseTokenValue with
      | some account => session.onAuthenticated now account
      | none => session.sendGameConnect .invalidToken
  | .scoreSaved => .send session (.gameOverResponse ⟨true⟩)
  | .dbError => .send session (.errorResponse ⟨dbErrorCode⟩)

end Session

/-- The two spawned futures: each awaits one call and returns a message. -/
def resume : Work → Reply → Option (Progress Work InnerMessage)
  | .takeAuthToken _, .token (.ok value) => some (.returns (.tokenTaken value))
  | .takeAuthToken _, .token (.error _) => some (.returns .dbError)
  | .saveScore .., .saved (.ok ()) => some (.returns .scoreSaved)
  | .saveScore .., .saved (.error _) => some (.returns .dbError)
  | .takeAuthToken _, .saved _ => none
  | .saveScore .., .token _ => none

/-! ## What the handlers can do -/

/-- The messages that `on_remote` looks at before its gate. -/
def passesGate : Option Payload → Bool
  | some (.gameConnectRequest _) | some .keepAliveRequest => true
  | _ => false

/-- The messages for which `on_remote` has no handler. -/
def unhandled : Option Payload → Bool
  | some (.gameConnectRequest _) | some .keepAliveRequest | some (.moveRequest _)
  | some (.enterWorldRequest _) | some (.gameOverReport _) => false
  | _ => true

/-- A GameConnectResponse that reports success. -/
def isSuccess : Payload → Bool
  | .gameConnectResponse body => body.success
  | _ => false

namespace Session

variable (session : Session)

/-- What a remote message leads to, alternative by alternative. -/
inductive Handles (now : Nat) (message : MessageWrapper) : Reaction Session Work → Prop where
  | rejected (req : GameConnectRequest)
      (asked : message.payload = some (.gameConnectRequest req))
      (refused : session.account.isSome = true ∨ req.authToken.isEmpty = true) :
      Handles now message (.send session (.gameConnectResponse ⟨false, 1⟩))
  | lookedUp (req : GameConnectRequest)
      (asked : message.payload = some (.gameConnectRequest req))
      (anonymous : session.account = none) (nonempty : req.authToken.isEmpty = false) :
      Handles now message (.spawn session (.takeAuthToken req.authToken))
  | keptAlive (asked : message.payload = some .keepAliveRequest) :
      Handles now message (.proceed { session with lastKeepAlive := now })
  | gated (other : passesGate message.payload = false) (anonymous : session.account = none) :
      Handles now message (.stop session)
  | moved (req : MoveRequest) (account : Account)
      (asked : message.payload = some (.moveRequest req))
      (authenticated : session.account = some account) :
      Handles now message
        (.send { session with position := (req.x, req.y) } (.moveResponse ⟨true, req.x, req.y⟩))
  | entered (req : EnterWorldRequest) (account : Account)
      (asked : message.payload = some (.enterWorldRequest req))
      (authenticated : session.account = some account) :
      Handles now message
        (.send { session with worldId := req.worldId } (.enterWorldResponse ⟨true⟩))
  | reported (report : GameOverReport) (account : Account)
      (asked : message.payload = some (.gameOverReport report))
      (authenticated : session.account = some account) :
      Handles now message
        (.spawn session
          (.saveScore account.accountId report.score report.killCount report.surviveSeconds))
  | ignored (account : Account) (other : unhandled message.payload = true)
      (authenticated : session.account = some account) :
      Handles now message (.proceed session)

theorem onGameConnectRequest_cases (now : Nat) (message : MessageWrapper)
    (req : GameConnectRequest) (asked : message.payload = some (.gameConnectRequest req)) :
    session.Handles now message (session.onGameConnectRequest req.authToken) := by
  unfold onGameConnectRequest
  split
  · next refused =>
      rw [Bool.or_eq_true] at refused
      exact .rejected req asked refused
  · next accepted =>
      rw [Bool.or_eq_true, not_or, Bool.not_eq_true, Bool.not_eq_true,
        Option.isSome_eq_false_iff, Option.isNone_iff_eq_none] at accepted
      exact .lookedUp req asked accepted.1 accepted.2

/-- The alternatives behind the gate, for a session that has an account. -/
theorem onRemote_authenticated (now : Nat) (message : MessageWrapper) (account : Account)
    (authenticated : session.account = some account)
    (gate : passesGate message.payload = false) :
    session.Handles now message (session.onRemote now message) := by
  have ignored (other : unhandled message.payload = true)
      (same : session.onRemote now message = .proceed session) :
      session.Handles now message (session.onRemote now message) := by
    rw [same]
    exact .ignored account other authenticated
  obtain ⟨size, payload⟩ := message
  rcases payload with _ | payload
  · exact ignored rfl (by simp [onRemote, authenticated])
  · cases payload with
    | gameConnectRequest => contradiction
    | keepAliveRequest => contradiction
    | moveRequest req =>
        have shape : session.onRemote now ⟨size, some (.moveRequest req)⟩ =
            .send { session with position := (req.x, req.y) }
              (.moveResponse ⟨true, req.x, req.y⟩) := by
          simp [onRemote, authenticated]
        rw [shape]
        exact .moved req account rfl authenticated
    | enterWorldRequest req =>
        have shape : session.onRemote now ⟨size, some (.enterWorldRequest req)⟩ =
            .send { session with worldId := req.worldId } (.enterWorldResponse ⟨true⟩) := by
          simp [onRemote, authenticated]
        rw [shape]
        exact .entered req account rfl authenticated
    | gameOverReport report =>
        have shape : session.onRemote now ⟨size, some (.gameOverReport report)⟩ =
            .spawn session (.saveScore account.accountId report.score report.killCount
              report.surviveSeconds) := by
          simp [onRemote, onGameOverReport, authenticated]
        rw [shape]
        exact .reported report account rfl authenticated
    | _ => exact ignored rfl (by simp [onRemote, authenticated])

/-- The gate in the middle of the alternatives. -/
theorem onRemote_gated (now : Nat) (message : MessageWrapper) (anonymous : session.account = none)
    (gate : passesGate message.payload = false) : session.onRemote now message = .stop session := by
  obtain ⟨size, payload⟩ := message
  rcases payload with _ | payload
  · simp [onRemote, anonymous]
  · cases payload <;> first | contradiction | simp [onRemote, anonymous]

theorem onRemote_cases (now : Nat) (message : MessageWrapper) :
    session.Handles now message (session.onRemote now message) := by
  by_cases gate : passesGate message.payload = true
  · obtain ⟨size, payload⟩ := message
    rcases payload with _ | payload
    · contradiction
    · cases payload with
      | gameConnectRequest req => exact session.onGameConnectRequest_cases now _ req rfl
      | keepAliveRequest => exact .keptAlive rfl
      | _ => contradiction
  · rw [Bool.not_eq_true] at gate
    cases authenticated : session.account with
    | some account => exact session.onRemote_authenticated now message account authenticated gate
    | none =>
        rw [session.onRemote_gated now message authenticated gate]
        exact .gated gate authenticated

/-- What a result of one of the session's own tasks leads to. -/
inductive Answers (now : Nat) : InnerMessage → Reaction Session Work → Prop where
  | authenticated (value : String) (account : Account)
      (parsed : parseTokenValue value = some account) :
      Answers now (.tokenTaken (some value))
        (.authenticate { session with account := some account, lastKeepAlive := now }
          account.userId (.gameConnectResponse ⟨true, 0⟩))
  | invalid (value : Option String) (unreadable : value.bind parseTokenValue = none) :
      Answers now (.tokenTaken value) (.send session (.gameConnectResponse ⟨false, 1⟩))
  | saved : Answers now .scoreSaved (.send session (.gameOverResponse ⟨true⟩))
  | failed : Answers now .dbError (.send session (.errorResponse ⟨3⟩))

theorem onInner_cases (now : Nat) (message : InnerMessage) :
    session.Answers now message (session.onInner now message) := by
  cases message with
  | tokenTaken value =>
      cases parsed : value.bind parseTokenValue with
      | none =>
          simp only [onInner, parsed]
          exact .invalid value parsed
      | some account =>
          obtain ⟨value, rfl, read⟩ := Option.bind_eq_some_iff.mp parsed
          simp only [onInner, parsed]
          exact .authenticated value account read
  | scoreSaved => exact .saved
  | dbError => exact .failed

/-- The user id of the account. -/
def user : Option String := session.account.map Account.userId

variable {session} {reaction : Reaction Session Work} {now : Nat}

theorem Handles.user {message : MessageWrapper}
    (handles : session.Handles now message reaction) :
    reaction.fields.user = reaction.userAfter session.user := by
  cases handles <;> rfl

theorem Handles.send_success {message : MessageWrapper} {after : Session} {payload : Payload}
    (handles : session.Handles now message (.send after payload)) : isSuccess payload = false := by
  cases handles <;> rfl

theorem Answers.send_success {message : InnerMessage} {after : Session} {payload : Payload}
    (answers : session.Answers now message (.send after payload)) : isSuccess payload = false := by
  cases answers <;> rfl

theorem Answers.user {message : InnerMessage}
    (answers : session.Answers now message reaction) :
    reaction.fields.user = reaction.userAfter session.user := by
  cases answers <;> rfl

end Session

/-- GameServer's part of a session task.  `keep_alive_timeout` is a setting of
the server's `SessionContext`. -/
def service (keepAliveTimeout : Nat) : Service Session Work Reply InnerMessage where
  create := Session.create
  user := Session.user
  lastKeepAlive := Session.lastKeepAlive
  keepAliveTimeout := keepAliveTimeout
  onRemote := Session.onRemote
  onInner := Session.onInner
  resume := resume
  logoutAccount := fun session => session.account.map Account.accountId
  isSuccess := isSuccess
  create_user := fun _ _ => rfl
  onRemote_user := fun session now message => (session.onRemote_cases now message).user
  onInner_user := fun session now message => (session.onInner_cases now message).user
  greeting_success := rfl
  onRemote_success := fun session now message _ _ sends =>
    Session.Handles.send_success (by rw [← sends]; exact session.onRemote_cases now message)
  onInner_success := fun session now message _ _ sends =>
    Session.Answers.send_success (by rw [← sends]; exact session.onInner_cases now message)

end RustGameserver.GameServer
