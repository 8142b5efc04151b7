import RustGameserver.DummyClient.Positions
import RustGameserver.Foundation.Channel

/-!
Contract: `dummy_client::keyboard`, by which the first client is steered.

Owns:
- the thread that reads the keys, its channel of moves, and the client that takes them;
- `main` from where it spawns the thread to its return;
- the positions that a list of moves leads to;
- what one step can do.

Does not own: raw mode, what is written to the terminal, and the other clients.
-/

namespace RustGameserver.DummyClient

open RustGameserver.Foundation
open RustGameserver.GameServer (Position origin requestedPosition)
open RustGameserver.Proto

/-! ## The code -/

/-- How far to move, as a pair of `f32`. -/
abbrev Move : Type := Float32Bits × Float32Bits

/-- `1.0` -/
def one : Float32Bits := ⟨0x3F800000⟩

/-- `-1.0` -/
def minusOne : Float32Bits := ⟨0xBF800000⟩

inductive KeyCode where
  | char (letter : Char)
  | up
  | down
  | left
  | right
  | other
deriving DecidableEq, Repr

structure KeyEvent where
  code : KeyCode
  /-- `kind == KeyEventKind::Press` -/
  press : Bool
  /-- `modifiers.contains(KeyModifiers::CONTROL)` -/
  control : Bool
deriving DecidableEq, Repr

/-- What the thread does about a key. -/
inductive KeyAction where
  | move (delta : Move)
  | quit
  | ignore
deriving DecidableEq, Repr

/-- A letter on its own. Control-C comes as a letter in raw mode. -/
def onLetter (letter : Char) (control : Bool) : KeyAction :=
  if letter = 'w' ∨ letter = 'W' then .move (.zero, minusOne)
  else if letter = 's' ∨ letter = 'S' then .move (.zero, one)
  else if letter = 'a' ∨ letter = 'A' then .move (minusOne, .zero)
  else if letter = 'd' ∨ letter = 'D' then .move (one, .zero)
  else if letter = 'q' ∨ letter = 'Q' then .quit
  else if letter = 'c' ∧ control = true then .quit
  else .ignore

def KeyEvent.action (key : KeyEvent) : KeyAction :=
  if key.press then
    match key.code with
    | .char letter => onLetter letter key.control
    | .up => .move (.zero, minusOne)
    | .down => .move (.zero, one)
    | .left => .move (minusOne, .zero)
    | .right => .move (one, .zero)
    | .other => .ignore
  else .ignore

/-- Where the thread is. -/
inductive Keyboard where
  /-- not spawned yet -/
  | absent
  /-- at the head of its loop -/
  | checking
  /-- in `event::poll` or `event::read` -/
  | polling
  /-- in `blocking_send` -/
  | sending (delta : Move)
  | returned
deriving DecidableEq, Repr

/-- The move that the thread has not got rid of yet. -/
def Keyboard.blocked : Keyboard → List Move
  | .sending delta => [delta]
  | .absent | .checking | .polling | .returned => []

/-- Where `main` is. -/
inductive Main where
  /-- connecting the clients -/
  | connecting
  /-- waiting for the shutdown, and then for the clients -/
  | waiting
  | returned (ok : Bool)
deriving DecidableEq, Repr

/-- The client is over. Its receiver of moves is dropped with it. -/
def Client.isOver : Client → Bool
  | .finished _ => true
  | .loginPhase | .connecting _ | .gamePhase _ => false

/-- The first client, the thread that steers it and `main`, which has begun to run them. -/
structure Player where
  client : Client
  moves : Channel Move 64
  keyboard : Keyboard
  shutdown : Bool
  main : Main

inductive PlayerEvent where
  /-- `keyboard::spawn`, which fails when raw mode cannot be switched on -/
  | spawn (ok : Bool)
  /-- the client, but for its moves -/
  | client (event : ClientEvent)
  /-- `recv_move` -/
  | takeMove (sending : Sending)
  /-- `shutdown.is_cancelled()` -/
  | check
  /-- `event::poll` without a result, or with an error -/
  | idle
  | broken
  /-- `event::read`, which may read something else than a key -/
  | read (key : Option KeyEvent)
  /-- the end of `blocking_send` -/
  | send
  /-- the end of `ctrl_c`, on its signal or with an error -/
  | interrupt (ok : Bool)
  /-- `main` has waited for the shutdown and the clients. -/
  | finish

inductive PlayerSeen where
  | spawned (ok : Bool)
  | client (seen : ClientSeen)
  /-- A move is taken, and told unless the client is not authenticated. -/
  | took (delta : Move) (telling : Option Sending)
  | read (key : KeyEvent)
  | interrupted (ok : Bool)
deriving DecidableEq, Repr

namespace Player

variable (player : Player)

/-- The branch of the `select!` can be taken. Moves have an event of their own. -/
def offers : ClientEvent → Bool
  | .cancelled => player.shutdown
  | .recvMove .. => false
  | .next .. | .connect _ | .tick .. => true

def became (client : Client) (moves : Channel Move 64) : Player :=
  { player with client, moves := if client.isOver then moves.dropReceiver else moves }

def press (key : KeyEvent) : Player :=
  match key.action with
  | .move delta => { player with keyboard := .sending delta }
  | .quit => { player with shutdown := true, keyboard := .returned }
  | .ignore => { player with keyboard := .checking }

@[simp] theorem press_client (key : KeyEvent) : (player.press key).client = player.client := by
  unfold press
  split <;> rfl

@[simp] theorem press_moves (key : KeyEvent) : (player.press key).moves = player.moves := by
  unfold press
  split <;> rfl

@[simp] theorem press_main (key : KeyEvent) : (player.press key).main = player.main := by
  unfold press
  split <;> rfl

def turn (settings : ClientSettings) (userId : String) :
    PlayerEvent → Option (Player × List PlayerSeen)
  | .spawn ok =>
      if player.main = .connecting then
        let spawned : Player :=
          if ok then { player with keyboard := .checking, main := .waiting }
          else { player with main := .returned false }
        some (spawned, [.spawned ok])
      else none
  | .client event =>
      if player.offers event then
        match player.client.step settings userId event with
        | none => none
        | some (client, seen) => some (player.became client player.moves, seen.map .client)
      else none
  | .takeMove sending =>
      match player.moves.tryRecv with
      | none => none
      | some (delta, moves) =>
          match player.client.step settings userId (.recvMove delta.1 delta.2 sending) with
          | none => none
          | some (client, seen) =>
              let telling := player.client.keepAlive.map fun _ => sending
              some (player.became client moves, .took delta telling :: seen.map .client)
  | .check =>
      if player.keyboard = .checking then
        let keyboard : Keyboard := if player.shutdown then .returned else .polling
        some ({ player with keyboard }, [])
      else none
  | .idle =>
      if player.keyboard = .polling then some ({ player with keyboard := .checking }, []) else none
  | .broken =>
      if player.keyboard = .polling then some ({ player with keyboard := .returned }, []) else none
  | .read key =>
      if player.keyboard = .polling then
        match key with
        | none => some ({ player with keyboard := .checking }, [])
        | some key => some (player.press key, [.read key])
      else none
  | .send =>
      match player.keyboard with
      | .sending delta =>
          match player.moves.trySend delta with
          | .ok moves => some ({ player with moves, keyboard := .checking }, [])
          | .error .closed => some ({ player with keyboard := .returned }, [])
          | .error .full => none
      | .absent | .checking | .polling | .returned => none
  | .interrupt ok => some ({ player with shutdown := true }, [.interrupted ok])
  | .finish =>
      if player.main = .waiting ∧ player.shutdown = true ∧ player.client.isOver = true then
        some ({ player with main := .returned true }, [])
      else none

/-- The process ends with `main`. -/
def step (settings : ClientSettings) (userId : String) (event : PlayerEvent) :
    Option (Player × List PlayerSeen) :=
  match player.main with
  | .connecting | .waiting => player.turn settings userId event
  | .returned _ => none

end Player

/-- The first client has been spawned. -/
def firstSpawned : Player := ⟨.loginPhase, .empty, .absent, false, .connecting⟩

def player (settings : ClientSettings) (userId : String) :
    Machine Player PlayerEvent PlayerSeen where
  Initial := fun state => state = firstSpawned
  step := fun state => state.step settings userId

/-! ## Where the moves lead -/

def moved (position : Position) (delta : Move) : Position :=
  (GamePhase.add position.1 delta.1, GamePhase.add position.2 delta.2)

/-- The positions on the way. -/
def walk (start : Position) : List Move → List Position
  | [] => []
  | delta :: rest => moved start delta :: walk (moved start delta) rest

theorem walk_append (start : Position) (deltas : List Move) (delta : Move) :
    walk start (deltas ++ [delta]) =
      walk start deltas ++ [moved ((walk start deltas).getLast?.getD start) delta] := by
  induction deltas generalizing start with
  | nil => rfl
  | cons first rest inductionHypothesis =>
      rw [List.cons_append, walk, inductionHypothesis, walk, List.getLast?_cons]
      rfl

def moveRequest (position : Position) : ClientSeen :=
  .sent .gameServer (Net.wrap (.moveRequest ⟨position.1, position.2⟩))

theorem positionsSent_moveRequest (position : Position) :
    positionsSent [moveRequest position] = [position] := rfl

/-! ## What one step can do -/

/-- What a client does with a move, alternative by alternative. -/
inductive Steers (game : GamePhase) (delta : Move) :
    Sending → Client → List ClientSeen → Prop where
  | drops (sending : Sending) (early : game.keepAlive = none) :
      Steers game delta sending (.gamePhase game) []
  | moves (interval : Interval) (ready : game.keepAlive = some interval) :
      Steers game delta .done
        (.gamePhase { game with
          x := (moved (game.x, game.y) delta).1, y := (moved (game.x, game.y) delta).2 })
        [moveRequest (moved (game.x, game.y) delta)]
  | fails (interval : Interval) (ready : game.keepAlive = some interval) (written : Bool) :
      Steers game delta (.failed written) (.finished (.disconnected .gameServer))
        (if written then [moveRequest (moved (game.x, game.y) delta)] else [])

variable {settings : ClientSettings} {userId : String}

theorem recvMove_cases {before after : Client} {delta : Move} {sending : Sending}
    {seen : List ClientSeen}
    (taken : before.step settings userId (.recvMove delta.1 delta.2 sending) =
      some (after, seen)) :
    ∃ game, before = .gamePhase game ∧ Steers game delta sending after seen := by
  cases before with
  | gamePhase game =>
      refine ⟨game, rfl, ?_⟩
      obtain ⟨authToken, keepAlive, x, y⟩ := game
      cases keepAlive with
      | none =>
          cases taken
          exact .drops sending rfl
      | some interval =>
          cases sending with
          | done =>
              cases taken
              exact .moves interval rfl
          | failed written =>
              cases written with
              | false =>
                  cases taken
                  exact .fails interval rfl false
              | true =>
                  cases taken
                  exact .fails interval rfl true
  | loginPhase | connecting | finished => contradiction

/-- A client that takes no move tells no position, and stays authenticated. -/
structure Steady (before after : Client) (seen : List ClientSeen) : Prop where
  still : positionsSent seen = []
  ready : after.isOver = false → after.keepAlive = none → before.keepAlive = none
  living : before.isOver = false

theorem conclude_still {answer : Answer} {phase : Phase} {sending : Sending}
    (still : ∀ payload, answer.payload = some payload →
      requestedPosition (Net.wrap payload) = none) :
    positionsSent (answer.conclude phase sending).2 = [] := by
  unfold Answer.conclude
  split
  · rfl
  · next payload said =>
      have nothing : positionsSent [.sent phase (Net.wrap payload)] = [] := by
        cases phase with
        | loginServer => rfl
        | gameServer => simp [positionsSent, sentTo, still payload said]
      cases sending with
      | done => exact nothing
      | failed written =>
          cases written with
          | false => rfl
          | true => exact nothing

theorem conclude_client {answer : Answer} {phase : Phase} {sending : Sending}
    (living : (answer.conclude phase sending).1.isOver = false) :
    (answer.conclude phase sending).1 = answer.client := by
  unfold Answer.conclude at living ⊢
  split
  · rfl
  · next payload said =>
      rw [said] at living
      cases sending with
      | done => rfl
      | failed written => cases written <;> contradiction

theorem conclude_steady {before : Client} {answer : Answer} {phase : Phase} (sending : Sending)
    (living : before.isOver = false)
    (still : ∀ payload, answer.payload = some payload →
      requestedPosition (Net.wrap payload) = none)
    (ready : answer.client.keepAlive = none → before.keepAlive = none) :
    Steady before (answer.conclude phase sending).1 (answer.conclude phase sending).2 where
  still := conclude_still still
  living := living
  ready := by
    intro here nothing
    rw [conclude_client here] at nothing
    exact ready nothing

theorem hears_steady {before : Client} {answer : Answer} {phase : Phase}
    {message : MessageWrapper} (hears : Hears settings userId message before phase answer)
    (sending : Sending) :
    Steady before (answer.conclude phase sending).1 (answer.conclude phase sending).2 := by
  cases hears with
  | asksLogin | asksGame =>
      apply conclude_steady sending rfl
      · intro payload said
        cases said
        rfl
      · exact id
  | loggedIn | waits | ignores =>
      apply conclude_steady sending rfl
      · intro payload said
        contradiction
      · exact id
  | authenticated game interval =>
      apply conclude_steady sending rfl
      · intro payload said
        contradiction
      · intro nothing
        contradiction

theorem Steady.finishes {before : Client} (living : before.isOver = false) (finished : Finished) :
    Steady before (.finished finished) [] where
  still := rfl
  living := living
  ready := by
    intro ending
    contradiction

theorem Steady.received {before after : Client} {seen : List ClientSeen}
    (steady : Steady before after seen) (phase : Phase) (message : MessageWrapper) :
    Steady before after (.received phase message :: seen) where
  still := steady.still
  living := steady.living
  ready := steady.ready

theorem client_steady {player : Player} {before after : Client} {event : ClientEvent}
    {seen : List ClientSeen} (offered : player.offers event = true)
    (taken : before.step settings userId event = some (after, seen)) :
    Steady before after seen := by
  cases event with
  | recvMove => contradiction
  | cancelled =>
      cases before with
      | loginPhase | gamePhase =>
          cases taken
          exact .finishes rfl _
      | connecting | finished => contradiction
  | connect ok =>
      cases before with
      | connecting authToken =>
          cases taken
          exact ⟨rfl, fun _ _ => rfl, rfl⟩
      | loginPhase | gamePhase | finished => contradiction
  | tick now sending =>
      cases before with
      | gamePhase game =>
          obtain ⟨answer, ticked, outcome⟩ := Option.map_eq_some_iff.mp taken
          obtain ⟨rfl, rfl⟩ := Prod.ext_iff.mp outcome
          unfold GamePhase.onTick at ticked
          split at ticked
          · contradiction
          · rw [Option.ite_none_right_eq_some] at ticked
            cases ticked.2
            apply conclude_steady sending rfl
            · intro payload said
              cases said
              rfl
            · intro nothing
              contradiction
      | loginPhase | connecting | finished => contradiction
  | next now frame sending =>
      cases before with
      | loginPhase =>
          cases frame with
          | none =>
              cases taken
              exact .finishes rfl _
          | some message =>
              cases taken
              exact (hears_steady (onLoginMessage_cases message) sending).received _ message
      | gamePhase game =>
          cases frame with
          | none =>
              cases taken
              exact .finishes rfl _
          | some message =>
              cases taken
              have hears : Hears settings userId message (.gamePhase game) .gameServer
                (game.onMessage now message) := onMessage_cases game now message
              exact (hears_steady hears sending).received _ message
      | connecting | finished => contradiction

/-- What one step of a player can do. -/
inductive PlayerStepped (settings : ClientSettings) (userId : String) (before : Player) :
    Player → List PlayerSeen → Prop where
  | spawned (connecting : before.main = .connecting) :
      PlayerStepped settings userId before
        { before with keyboard := .checking, main := .waiting } [.spawned true]
  | unspawned (connecting : before.main = .connecting) :
      PlayerStepped settings userId before { before with main := .returned false } [.spawned false]
  | played {event : ClientEvent} {client : Client} {seen : List ClientSeen}
      (offered : before.offers event = true)
      (taken : before.client.step settings userId event = some (client, seen)) :
      PlayerStepped settings userId before (before.became client before.moves) (seen.map .client)
  | steered {delta : Move} {moves : Channel Move 64} {sending : Sending} {client : Client}
      {seen : List ClientSeen} (queued : before.moves.queue = delta :: moves.queue)
      (alive : moves.receiverAlive = before.moves.receiverAlive)
      (taken : before.client.step settings userId (.recvMove delta.1 delta.2 sending) =
        some (client, seen)) :
      PlayerStepped settings userId before (before.became client moves)
        (.took delta (before.client.keepAlive.map fun _ => sending) :: seen.map .client)
  | turned (keyboard : Keyboard)
      (looping : before.keyboard = .checking ∨ before.keyboard = .polling)
      (idle : keyboard = .checking ∨ keyboard = .polling ∨ keyboard = .returned) :
      PlayerStepped settings userId before { before with keyboard } []
  | pressed (key : KeyEvent) (polling : before.keyboard = .polling) :
      PlayerStepped settings userId before (before.press key) [.read key]
  | sent {delta : Move} {moves : Channel Move 64} (held : before.keyboard = .sending delta)
      (alive : before.moves.receiverAlive = true)
      (queued : moves.queue = before.moves.queue ++ [delta])
      (kept : moves.receiverAlive = true) :
      PlayerStepped settings userId before { before with moves, keyboard := .checking } []
  | refused {delta : Move} (held : before.keyboard = .sending delta)
      (dead : before.moves.receiverAlive = false) :
      PlayerStepped settings userId before { before with keyboard := .returned } []
  | interrupted (ok : Bool) :
      PlayerStepped settings userId before { before with shutdown := true } [.interrupted ok]
  | finished (waiting : before.main = .waiting) (down : before.shutdown = true)
      (ended : before.client.isOver = true) :
      PlayerStepped settings userId before { before with main := .returned true } []

theorem player_step_cases {before after : Player} {event : PlayerEvent} {seen : List PlayerSeen}
    (taken : before.step settings userId event = some (after, seen)) :
    PlayerStepped settings userId before after seen := by
  replace taken : before.turn settings userId event = some (after, seen) := by
    unfold Player.step at taken
    split at taken
    · exact taken
    · exact taken
    · contradiction
  cases event with
  | spawn ok =>
      simp only [Player.turn, Option.ite_none_right_eq_some] at taken
      obtain ⟨connecting, outcome⟩ := taken
      cases ok with
      | true =>
          cases outcome
          exact .spawned connecting
      | false =>
          cases outcome
          exact .unspawned connecting
  | client event =>
      simp only [Player.turn] at taken
      split at taken
      · next offered =>
          split at taken
          · contradiction
          · next client made stepped =>
              cases taken
              exact .played offered stepped
      · contradiction
  | takeMove sending =>
      simp only [Player.turn] at taken
      split at taken
      · contradiction
      · next delta moves received =>
          split at taken
          · contradiction
          · next client made stepped =>
              cases taken
              obtain ⟨queued, alive⟩ := Channel.tryRecv_some received
              exact .steered queued alive stepped
  | check =>
      simp only [Player.turn, Option.ite_none_right_eq_some] at taken
      obtain ⟨checking, outcome⟩ := taken
      cases outcome
      apply PlayerStepped.turned _ (.inl checking)
      split
      · exact .inr (.inr rfl)
      · exact .inr (.inl rfl)
  | idle =>
      simp only [Player.turn, Option.ite_none_right_eq_some] at taken
      obtain ⟨polling, outcome⟩ := taken
      cases outcome
      exact .turned .checking (.inr polling) (.inl rfl)
  | broken =>
      simp only [Player.turn, Option.ite_none_right_eq_some] at taken
      obtain ⟨polling, outcome⟩ := taken
      cases outcome
      exact .turned .returned (.inr polling) (.inr (.inr rfl))
  | read key =>
      simp only [Player.turn, Option.ite_none_right_eq_some] at taken
      obtain ⟨polling, outcome⟩ := taken
      cases key with
      | none =>
          cases outcome
          exact .turned .checking (.inr polling) (.inl rfl)
      | some key =>
          cases outcome
          exact .pressed key polling
  | send =>
      simp only [Player.turn] at taken
      split at taken
      · next delta held =>
          split at taken
          · next moves accepted =>
              cases taken
              obtain ⟨alive, queued, kept⟩ := Channel.trySend_ok accepted
              exact .sent held alive queued kept
          · next closed =>
              cases taken
              exact .refused held (Channel.trySend_closed closed)
          · contradiction
      all_goals contradiction
  | interrupt ok =>
      cases taken
      exact .interrupted ok
  | finish =>
      simp only [Player.turn, Option.ite_none_right_eq_some] at taken
      obtain ⟨⟨waiting, down, ended⟩, outcome⟩ := taken
      cases outcome
      exact .finished waiting down ended

end RustGameserver.DummyClient
