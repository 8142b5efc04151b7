import RustGameserver.Foundation.Machine
import RustGameserver.Net.Consts
import RustGameserver.Net.Outbox

/-!
Contract: `dummy_client::client`, one dummy client.

Owns:
- `login_phase` and `game_phase`, one step for each thing that `select!` waits for;
- the connections as the client uses them: what it reads and what it sends.

Does not own: what the servers do, and the counters of the monitor.
-/

namespace RustGameserver.DummyClient

open RustGameserver.Foundation
open RustGameserver.Net
open RustGameserver.Proto

/-- `ClientSettings`, the address of GameServer apart. -/
structure ClientSettings where
  clientHash : List UInt8
deriving DecidableEq, Repr

inductive Phase where
  | loginServer
  | gameServer
deriving DecidableEq, Repr

inductive Finished where
  | disconnected (phase : Phase)
  | gameConnectFailed
  | shutdown
deriving DecidableEq, Repr

/-- `user_id`, with at least five digits. -/
def userId (accountIndex : Nat) : String :=
  let digits := Nat.toDigits 10 accountIndex
  "user_" ++ String.ofList (List.replicate (5 - digits.length) '0' ++ digits)

/-- `tokio::time::Interval`, which makes up for the ticks it has missed. -/
structure Interval where
  deadline : Nat
  period : Nat
deriving DecidableEq, Repr

/-- The variables of `game_phase`. -/
structure GamePhase where
  authToken : String
  keepAlive : Option Interval
  x : Float32Bits
  y : Float32Bits
deriving DecidableEq, Repr

/-- Where `run` is. -/
inductive Client where
  | loginPhase
  | connecting (authToken : String)
  | gamePhase (game : GamePhase)
  | finished (finished : Finished)
deriving DecidableEq, Repr

/-- How a `send` ends. The message may have got onto the wire before an error. -/
inductive Sending where
  | done
  | failed (written : Bool)
deriving DecidableEq, Repr

inductive ClientEvent where
  /-- `shutdown.cancelled()` -/
  | cancelled
  /-- `conn.next()`, which yields nothing when the connection is closed or broken -/
  | next (now : Nat) (frame : Option MessageWrapper) (sending : Sending)
  /-- `TcpStream::connect` -/
  | connect (ok : Bool)
  | tick (now : Nat) (sending : Sending)
  | recvMove (dx dy : Float32Bits) (sending : Sending)
deriving DecidableEq, Repr

inductive ClientSeen where
  | received (phase : Phase) (message : MessageWrapper)
  | sent (phase : Phase) (message : MessageWrapper)
deriving DecidableEq, Repr

/-- What a client does about an input: where it goes, and what it sends before that. -/
structure Answer where
  client : Client
  payload : Option Payload
deriving DecidableEq, Repr

/-- A `send` that fails ends the client. -/
def Answer.conclude (answer : Answer) (phase : Phase) (sending : Sending) :
    Client × List ClientSeen :=
  match answer.payload with
  | none => (answer.client, [])
  | some payload =>
      match sending with
      | .done => (answer.client, [.sent phase (wrap payload)])
      | .failed true => (.finished (.disconnected phase), [.sent phase (wrap payload)])
      | .failed false => (.finished (.disconnected phase), [])

/-- `login_phase`. A login that has failed is waited out. -/
def onLoginMessage (settings : ClientSettings) (userId : String) (message : MessageWrapper) :
    Answer :=
  match message.payload with
  | some (.connectedResponse _) =>
      ⟨.loginPhase, some (.loginRequest ⟨userId, settings.clientHash⟩)⟩
  | some (.loginResponse resp) =>
      if resp.success then ⟨.connecting resp.authToken, none⟩ else ⟨.loginPhase, none⟩
  | _ => ⟨.loginPhase, none⟩

namespace GamePhase

/-- `game_phase` before its loop. Until it is authenticated a client sends neither
KeepAlive nor moves. -/
def start (authToken : String) : GamePhase := ⟨authToken, none, .zero, .zero⟩

variable (game : GamePhase)

def onMessage (now : Nat) (message : MessageWrapper) : Answer :=
  match message.payload with
  | some (.connectedResponse _) =>
      ⟨.gamePhase game, some (.gameConnectRequest ⟨game.authToken⟩)⟩
  | some (.gameConnectResponse resp) =>
      if resp.success then
        ⟨.gamePhase { game with
          keepAlive := some ⟨now + keepAliveInterval, keepAliveInterval⟩ }, none⟩
      else ⟨.gamePhase game, none⟩
  | _ => ⟨.gamePhase game, none⟩

/-- `tick`, which is pending while there is no interval. -/
def onTick (now : Nat) : Option Answer :=
  match game.keepAlive with
  | none => none
  | some interval =>
      if interval.deadline ≤ now then
        let keepAlive := some { interval with deadline := interval.deadline + interval.period }
        some ⟨.gamePhase { game with keepAlive }, some .keepAliveRequest⟩
      else none

/-- The sum of two `f32`. Which NaN it is where it is no number, Rust leaves open; here it is
always the same one. -/
def add (value delta : Float32Bits) : Float32Bits :=
  ⟨(Float32.ofBits value.bits + Float32.ofBits delta.bits).toBits⟩

def onMove (dx dy : Float32Bits) : Answer :=
  match game.keepAlive with
  | none => ⟨.gamePhase game, none⟩
  | some _ =>
      let moved := { game with x := add game.x dx, y := add game.y dy }
      ⟨.gamePhase moved, some (.moveRequest ⟨moved.x, moved.y⟩)⟩

end GamePhase

/-- `run`. -/
def Client.step (settings : ClientSettings) (userId : String) (client : Client) :
    ClientEvent → Option (Client × List ClientSeen)
  | .cancelled =>
      match client with
      | .loginPhase | .gamePhase _ => some (.finished .shutdown, [])
      | .connecting _ | .finished _ => none
  | .next now frame sending =>
      match client, frame with
      | .loginPhase, none => some (.finished (.disconnected .loginServer), [])
      | .loginPhase, some message =>
          let (after, seen) :=
            (onLoginMessage settings userId message).conclude .loginServer sending
          some (after, .received .loginServer message :: seen)
      | .gamePhase _, none => some (.finished (.disconnected .gameServer), [])
      | .gamePhase game, some message =>
          let (after, seen) := (game.onMessage now message).conclude .gameServer sending
          some (after, .received .gameServer message :: seen)
      | .connecting _, _ | .finished _, _ => none
  | .connect ok =>
      match client with
      | .connecting authToken =>
          some (if ok then .gamePhase (.start authToken) else .finished .gameConnectFailed, [])
      | .loginPhase | .gamePhase _ | .finished _ => none
  | .tick now sending =>
      match client with
      | .gamePhase game => (game.onTick now).map fun answer => answer.conclude .gameServer sending
      | .loginPhase | .connecting _ | .finished _ => none
  | .recvMove dx dy sending =>
      match client with
      | .gamePhase game => some ((game.onMove dx dy).conclude .gameServer sending)
      | .loginPhase | .connecting _ | .finished _ => none

/-- A client as a machine. -/
def client (settings : ClientSettings) (userId : String) :
    Machine Client ClientEvent ClientSeen where
  Initial := fun client => client = .loginPhase
  step := Client.step settings userId

/-- The client has its KeepAlive interval. -/
def Client.keepAlive : Client → Option Interval
  | .gamePhase game => game.keepAlive
  | .loginPhase | .connecting _ | .finished _ => none

/-! ## What a client does -/

/-- The messages of an observation that go to a server. -/
def sentTo (phase : Phase) (history : List ClientSeen) : List MessageWrapper :=
  history.filterMap fun
    | .sent own message => if own = phase then some message else none
    | .received .. => none

def receivedFrom (phase : Phase) (history : List ClientSeen) : List MessageWrapper :=
  history.filterMap fun
    | .received own message => if own = phase then some message else none
    | .sent .. => none

end RustGameserver.DummyClient
