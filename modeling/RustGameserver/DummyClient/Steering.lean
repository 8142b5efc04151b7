import RustGameserver.DummyClient.Keyboard

/-!
Contract: where the keys lead the first client.

Owns:
- that this client moves as a client does;
- that it goes where the keys say, in their order and each once, but for the keys that
  were pressed too early or too late;
- what ends the load test.

Does not own: what GameServer makes of the positions.
-/

namespace RustGameserver.DummyClient

open RustGameserver.Foundation
open RustGameserver.GameServer (origin)

variable {settings : ClientSettings} {userId : String}

/-! ## The moves of a run -/

/-- The moves of the keys that have been read. -/
def keyMoves (history : List PlayerSeen) : List Move :=
  history.filterMap fun
    | .read key =>
        match key.action with
        | .move delta => some delta
        | .quit | .ignore => none
    | .spawned _ | .client _ | .took .. | .interrupted _ => none

/-- The moves that the client has taken. -/
def movesTaken (history : List PlayerSeen) : List Move :=
  history.filterMap fun
    | .took delta _ => some delta
    | .spawned _ | .client _ | .read _ | .interrupted _ => none

/-- Those of them that it has taken with this answer to whether it was authenticated. -/
def movesTakenWhen (authenticated : Bool) (history : List PlayerSeen) : List Move :=
  history.filterMap fun
    | .took delta telling => if telling.isSome = authenticated then some delta else none
    | .spawned _ | .client _ | .read _ | .interrupted _ => none

def PlayerSeen.ofClient : PlayerSeen → Option ClientSeen
  | .client seen => some seen
  | .spawned _ | .took .. | .read _ | .interrupted _ => none

/-- What the client of a player has made. -/
def playerHistory (history : List PlayerSeen) : List ClientSeen :=
  history.filterMap PlayerSeen.ofClient

/-- The shutdown has been asked for, or its signal cannot be waited for. -/
def Ended (history : List PlayerSeen) : Prop :=
  (∃ ok, .interrupted ok ∈ history) ∨ ∃ key, .read key ∈ history ∧ key.action = .quit

/-- The last move is taken, but its `send` fails before anything is written, and with that the
client is over. -/
def Untold (client : Client) (history : List PlayerSeen) : Prop :=
  client = .finished (.disconnected .gameServer) ∧
    ∃ front delta back, history = front ++ .took delta (some (.failed false)) :: back ∧
      movesTaken back = [] ∧
      positionsSent (playerHistory history) = walk origin (movesTakenWhen true front)

/-- The client of a player moves as a client does. -/
theorem player_projects_client (settings : ClientSettings) (userId : String) :
    (player settings userId).Projects (client settings userId)
      (fun state => some state.client) PlayerSeen.ofClient := by
  apply Machine.Projects.component
  · rintro state rfl
    rfl
  · intro before event after seen taken
    cases player_step_cases taken with
    | played offered stepped =>
        rw [filterMap_unwrapped PlayerSeen.client _ (fun _ => rfl)]
        exact .one stepped
    | @steered delta moves sending last made queued alive stepped =>
        have own : (client settings userId).step before.client
          (.recvMove delta.1 delta.2 sending) = some (last, made) := stepped
        rw [List.filterMap_cons_none rfl, filterMap_unwrapped PlayerSeen.client _ (fun _ => rfl)]
        exact .one own
    | pressed key free =>
        rw [Player.press_client]
        exact .rests rfl rfl
    | spawned | unspawned | turned | sent | refused | interrupted | finished =>
        exact .rests rfl rfl

theorem player_reaches_client {state : Player} {history : List PlayerSeen}
    (run : (player settings userId).Reaches state history) :
    (client settings userId).Reaches state.client (playerHistory history) :=
  (player_projects_client settings userId).reaches run rfl

/-- The moves and the positions of a player so far. -/
structure Plays (state : Player) (history : List PlayerSeen) : Prop where
  /-- What was taken too early comes first. -/
  order : movesTaken history = movesTakenWhen false history ++ movesTakenWhen true history
  early : state.client.isOver = false → state.client.keepAlive = none →
    movesTakenWhen true history = []
  alive : state.moves.receiverAlive = !state.client.isOver
  waiting : state.client.isOver = false →
    keyMoves history = movesTaken history ++ (state.moves.queue ++ state.keyboard.blocked)
  taken : movesTaken history <+: keyMoves history
  told : positionsSent (playerHistory history) = walk origin (movesTakenWhen true history) ∨
    Untold state.client history
  ended : state.shutdown = true → Ended history

theorem playerHistory_append (history more : List PlayerSeen) :
    playerHistory (history ++ more) = playerHistory history ++ playerHistory more :=
  List.filterMap_append

theorem playerHistory_client (seen : List ClientSeen) :
    playerHistory (seen.map .client) = seen :=
  filterMap_unwrapped PlayerSeen.client _ (fun _ => rfl) seen

theorem movesTaken_append (history more : List PlayerSeen) :
    movesTaken (history ++ more) = movesTaken history ++ movesTaken more :=
  List.filterMap_append

theorem movesTakenWhen_append (authenticated : Bool) (history more : List PlayerSeen) :
    movesTakenWhen authenticated (history ++ more) =
      movesTakenWhen authenticated history ++ movesTakenWhen authenticated more :=
  List.filterMap_append

theorem keyMoves_append (history more : List PlayerSeen) :
    keyMoves (history ++ more) = keyMoves history ++ keyMoves more :=
  List.filterMap_append

theorem movesTaken_client (seen : List ClientSeen) : movesTaken (seen.map .client) = [] :=
  filterMap_wrapped PlayerSeen.client _ (fun _ => rfl) seen

theorem movesTakenWhen_client (authenticated : Bool) (seen : List ClientSeen) :
    movesTakenWhen authenticated (seen.map .client) = [] :=
  filterMap_wrapped PlayerSeen.client _ (fun _ => rfl) seen

theorem keyMoves_client (seen : List ClientSeen) : keyMoves (seen.map .client) = [] :=
  filterMap_wrapped PlayerSeen.client _ (fun _ => rfl) seen

theorem Ended.grow {history : List PlayerSeen} (ended : Ended history) (more : List PlayerSeen) :
    Ended (history ++ more) := by
  rcases ended with ⟨ok, interrupted⟩ | ⟨key, read, quits⟩
  · exact .inl ⟨ok, List.mem_append_left more interrupted⟩
  · exact .inr ⟨key, List.mem_append_left more read, quits⟩

section Playing

variable {state after final : Player} {history seen later : List PlayerSeen}

theorem Plays.reached (plays : Plays state history) (living : state.client.isOver = false) :
    positionsSent (playerHistory history) = walk origin (movesTakenWhen true history) := by
  rcases plays.told with told | ⟨finished, _⟩
  · exact told
  · rw [finished] at living
    contradiction

/-- A step in which nothing is taken and nothing is told. -/
theorem Plays.quiet (plays : Plays state history) {more : List PlayerSeen}
    (same : after.client = state.client)
    (alive : after.moves.receiverAlive = state.moves.receiverAlive)
    (untaken : movesTaken more = [])
    (unwalked : ∀ authenticated, movesTakenWhen authenticated more = [])
    (untold : playerHistory more = [])
    (waiting : state.client.isOver = false →
      after.moves.queue ++ after.keyboard.blocked =
        state.moves.queue ++ state.keyboard.blocked ++ keyMoves more)
    (ended : after.shutdown = true → Ended (history ++ more)) : Plays after (history ++ more) where
  order := by
    rw [movesTaken_append, movesTakenWhen_append, movesTakenWhen_append, untaken, unwalked,
      unwalked, List.append_nil, List.append_nil, List.append_nil]
    exact plays.order
  early := by
    rw [same, movesTakenWhen_append, unwalked, List.append_nil]
    exact plays.early
  alive := by
    rw [same, alive]
    exact plays.alive
  waiting := by
    intro living
    rw [same] at living
    rw [keyMoves_append, movesTaken_append, untaken, List.append_nil, plays.waiting living,
      waiting living, List.append_assoc]
  taken := by
    rw [keyMoves_append, movesTaken_append, untaken, List.append_nil]
    exact plays.taken.trans (List.prefix_append _ _)
  told := by
    rcases plays.told with told | ⟨finished, front, delta, back, shape, nothing, told⟩
    · left
      rw [playerHistory_append, untold, List.append_nil, movesTakenWhen_append, unwalked,
        List.append_nil]
      exact told
    · right
      refine ⟨same.trans finished, front, delta, back ++ more, by simp [shape], ?_, ?_⟩
      · rw [movesTaken_append, nothing, untaken, List.append_nil]
      · rw [playerHistory_append, untold, List.append_nil, told]
  ended := ended

theorem became_alive (client : Client) {moves : Channel Move 64}
    (alive : moves.receiverAlive = !state.client.isOver) (living : state.client.isOver = false) :
    (state.became client moves).moves.receiverAlive = !client.isOver := by
  rw [living] at alive
  unfold Player.became
  cases ending : client.isOver with
  | true => rfl
  | false => exact alive

/-- The client does something, but takes no move. -/
theorem Plays.played (plays : Plays state history) {client : Client} {seen : List ClientSeen}
    (steady : Steady state.client client seen) :
    Plays (state.became client state.moves) (history ++ seen.map .client) := by
  have walked (authenticated : Bool) :
      movesTakenWhen authenticated (history ++ seen.map .client) =
        movesTakenWhen authenticated history := by
    rw [movesTakenWhen_append, movesTakenWhen_client, List.append_nil]
  have took : movesTaken (history ++ seen.map .client) = movesTaken history := by
    rw [movesTaken_append, movesTaken_client, List.append_nil]
  have keys : keyMoves (history ++ seen.map .client) = keyMoves history := by
    rw [keyMoves_append, keyMoves_client, List.append_nil]
  have told : positionsSent (playerHistory (history ++ seen.map .client)) =
      positionsSent (playerHistory history) := by
    rw [playerHistory_append, playerHistory_client, positionsSent_append, steady.still,
      List.append_nil]
  constructor
  · rw [took, walked, walked]
    exact plays.order
  · intro living nothing
    rw [walked]
    exact plays.early steady.living (steady.ready living nothing)
  · exact became_alive client plays.alive steady.living
  · intro living
    rw [keys, took, plays.waiting steady.living]
    simp only [Player.became] at living ⊢
    rw [living]
    rfl
  · rw [keys, took]
    exact plays.taken
  · left
    rw [told, walked]
    exact plays.reached steady.living
  · intro ending
    exact (plays.ended ending).grow _

theorem movesTakenWhen_took (history : List PlayerSeen) (delta : Move) (telling : Option Sending)
    (seen : List ClientSeen) (authenticated : Bool) :
    movesTakenWhen authenticated (history ++ .took delta telling :: seen.map .client) =
      movesTakenWhen authenticated history ++
        if telling.isSome = authenticated then [delta] else [] := by
  have rest := movesTakenWhen_client authenticated seen
  rw [movesTakenWhen_append, List.append_cancel_left_eq]
  unfold movesTakenWhen at rest ⊢
  by_cases same : telling.isSome = authenticated
  · simp only [List.filterMap_cons, if_pos same, rest]
  · simp only [List.filterMap_cons, if_neg same, rest]

theorem movesTaken_took (history : List PlayerSeen) (delta : Move) (telling : Option Sending)
    (seen : List ClientSeen) :
    movesTaken (history ++ .took delta telling :: seen.map .client) =
      movesTaken history ++ [delta] := by
  rw [movesTaken_append]
  show _ ++ delta :: movesTaken (seen.map .client) = _
  rw [movesTaken_client]

theorem keyMoves_took (history : List PlayerSeen) (delta : Move) (telling : Option Sending)
    (seen : List ClientSeen) :
    keyMoves (history ++ .took delta telling :: seen.map .client) = keyMoves history := by
  rw [keyMoves_append]
  show _ ++ keyMoves (seen.map .client) = _
  rw [keyMoves_client, List.append_nil]

theorem positionsSent_took (history : List PlayerSeen) (delta : Move) (telling : Option Sending)
    (seen : List ClientSeen) :
    positionsSent (playerHistory (history ++ .took delta telling :: seen.map .client)) =
      positionsSent (playerHistory history) ++ positionsSent seen := by
  rw [playerHistory_append, positionsSent_append]
  show _ ++ positionsSent (playerHistory (seen.map .client)) = _
  rw [playerHistory_client]

/-- The client takes a move, and goes there if it is authenticated. -/
theorem Plays.steered (plays : Plays state history)
    (located : Located state.client (playerHistory history))
    {game : GamePhase} (playing : state.client = .gamePhase game) {delta : Move}
    {moves : Channel Move 64} (queued : state.moves.queue = delta :: moves.queue)
    (alive : moves.receiverAlive = state.moves.receiverAlive) {sending : Sending}
    {telling : Option Sending} (known : state.client.keepAlive.map (fun _ => sending) = telling)
    {client : Client} {seen : List ClientSeen} (steers : Steers game delta sending client seen) :
    Plays (state.became client moves)
      (history ++ .took delta telling :: seen.map .client) := by
  have living : state.client.isOver = false := by
    rw [playing]
    rfl
  have keys := keyMoves_took history delta telling seen
  have took := movesTaken_took history delta telling seen
  have told := positionsSent_took history delta telling seen
  have walked := movesTakenWhen_took history delta telling seen
  have reached := plays.reached living
  have waiting := plays.waiting living
  rw [queued, List.cons_append, List.append_cons] at waiting
  have here : (game.x, game.y) =
      (walk origin (movesTakenWhen true history)).getLast?.getD origin := by
    rw [playing] at located
    rw [← reached]
    exact located
  have goes : walk origin (movesTakenWhen true history ++ [delta]) =
      positionsSent (playerHistory history) ++ [moved (game.x, game.y) delta] := by
    rw [walk_append, ← here, reached]
  have onwards : client.isOver = false →
      keyMoves (history ++ .took delta telling :: seen.map .client) =
        movesTaken (history ++ .took delta telling :: seen.map .client) ++
          ((state.became client moves).moves.queue ++
            (state.became client moves).keyboard.blocked) := by
    intro onward
    rw [keys, took, waiting]
    simp only [Player.became]
    rw [onward]
    rfl
  have taken : movesTaken (history ++ .took delta telling :: seen.map .client) <+:
      keyMoves (history ++ .took delta telling :: seen.map .client) := by
    rw [keys, took, waiting]
    exact List.prefix_append _ _
  have ended : (state.became client moves).shutdown = true →
      Ended (history ++ .took delta telling :: seen.map .client) := by
    intro ending
    exact (plays.ended ending).grow _
  have receives := became_alive client (alive.trans plays.alive) living
  -- what an authenticated client takes comes after all it has taken before
  have follows (present : telling.isSome = true) :
      movesTaken (history ++ .took delta telling :: seen.map .client) =
          movesTakenWhen false (history ++ .took delta telling :: seen.map .client) ++
            movesTakenWhen true (history ++ .took delta telling :: seen.map .client) ∧
        movesTakenWhen true (history ++ .took delta telling :: seen.map .client) =
          movesTakenWhen true history ++ [delta] := by
    have timely : ¬ telling.isSome = false := by simp [present]
    rw [took, walked false, walked true, if_neg timely, if_pos present, List.append_nil,
      plays.order, List.append_assoc]
    exact ⟨rfl, rfl⟩
  rw [playing] at known
  cases steers with
  | drops _ unready =>
      have absent : telling.isSome = false := by
        rw [← known]
        simp [Client.keepAlive, unready]
      have early := walked false
      have late := walked true
      rw [if_pos absent] at early
      rw [if_neg (show ¬ telling.isSome = true by simp [absent]), List.append_nil] at late
      have unwalked : movesTakenWhen true history = [] :=
        plays.early living (by rw [playing]; exact unready)
      have untold : positionsSent [] = [] := rfl
      rw [untold, List.append_nil] at told
      refine ⟨?_, ?_, receives, onwards, taken, .inl ?_, ended⟩
      · rw [took, early, late, plays.order, unwalked, List.append_nil, List.append_nil]
      · intro _ _
        rw [late, unwalked]
      · rw [told, late]
        exact reached
  | moves interval ready =>
      have present : telling.isSome = true := by
        rw [← known]
        simp [Client.keepAlive, ready]
      obtain ⟨order, late⟩ := follows present
      rw [positionsSent_moveRequest, ← goes, ← late] at told
      refine ⟨order, ?_, receives, onwards, taken, .inl told, ended⟩
      intro _ nothing
      have contrary : some interval = none := ready.symm.trans nothing
      contradiction
  | fails interval ready written =>
      have attempted : telling = some (.failed written) := by
        rw [← known]
        simp [Client.keepAlive, ready]
      obtain ⟨order, late⟩ := follows (by rw [attempted]; rfl)
      refine ⟨order, ?_, receives, onwards, taken, ?_, ended⟩
      · intro ending
        contradiction
      · cases written with
        | true =>
            left
            rw [told, late, goes]
            rfl
        | false =>
            right
            refine ⟨rfl, history, delta, [], by rw [attempted]; rfl, rfl, ?_⟩
            rw [told, ← reached]
            exact List.append_nil _

theorem keyMoves_read (state : Player) (key : KeyEvent) :
    keyMoves [.read key] = (state.press key).keyboard.blocked := by
  unfold Player.press
  cases acts : key.action with
  | move | quit | ignore => simp [keyMoves, acts, Keyboard.blocked]

theorem Plays.step (plays : Plays state history)
    (located : Located state.client (playerHistory history))
    (absent : state.main = .connecting → state.keyboard = .absent) {event : PlayerEvent}
    (taken : state.step settings userId event = some (after, seen)) :
    Plays after (history ++ seen) := by
  cases player_step_cases taken with
  | played offered stepped => exact plays.played (client_steady offered stepped)
  | steered queued alive stepped =>
      obtain ⟨game, playing, steers⟩ := recvMove_cases stepped
      exact plays.steered located playing queued alive rfl steers
  | spawned connecting =>
      refine plays.quiet rfl rfl rfl (fun _ => rfl) rfl ?_ ?_
      · intro living
        rw [absent connecting]
        exact (List.append_nil _).symm
      · intro ending
        exact (plays.ended ending).grow _
  | turned keyboard looping idle =>
      refine plays.quiet rfl rfl rfl (fun _ => rfl) rfl ?_ ?_
      · intro living
        have free : state.keyboard.blocked = [] := by
          rcases looping with here | here <;> rw [here] <;> rfl
        have still : keyboard.blocked = [] := by
          rcases idle with rfl | rfl | rfl <;> rfl
        rw [free, still]
        exact (List.append_nil _).symm
      · intro ending
        exact (plays.ended ending).grow _
  | pressed key polling =>
      have alive : (state.press key).moves.receiverAlive = state.moves.receiverAlive := by
        rw [Player.press_moves]
      refine plays.quiet (state.press_client key) alive rfl (fun _ => rfl) rfl ?_ ?_
      · intro living
        have free : state.keyboard.blocked = [] := by
          rw [polling]
          rfl
        rw [Player.press_moves, free, List.append_nil, keyMoves_read state]
      · intro ending
        unfold Player.press at ending
        cases acts : key.action with
        | quit => exact .inr ⟨key, by simp, acts⟩
        | move | ignore =>
            rw [acts] at ending
            exact (plays.ended ending).grow _
  | sent held alive queued kept =>
      refine plays.quiet rfl (kept.trans alive.symm) rfl (fun _ => rfl) rfl ?_ ?_
      · intro living
        rw [held, queued]
        simp [Keyboard.blocked, keyMoves]
      · intro ending
        exact (plays.ended ending).grow _
  | refused held dead =>
      refine plays.quiet rfl rfl rfl (fun _ => rfl) rfl ?_ ?_
      · intro living
        have receives := plays.alive
        rw [dead, living] at receives
        contradiction
      · intro ending
        exact (plays.ended ending).grow _
  | interrupted ok =>
      refine plays.quiet rfl rfl rfl (fun _ => rfl) rfl ?_ ?_
      · intro living
        exact (List.append_nil _).symm
      · intro ending
        exact .inl ⟨ok, by simp⟩
  | unspawned | finished =>
      refine plays.quiet rfl rfl rfl (fun _ => rfl) rfl ?_ ?_
      · intro living
        exact (List.append_nil _).symm
      · intro ending
        exact (plays.ended ending).grow _

/-- The thread is not there before `main` has spawned it. -/
theorem reaches_absent (run : (player settings userId).Reaches state history) :
    state.main = .connecting → state.keyboard = .absent := by
  apply run.invariant
  · rintro start rfl _
    rfl
  · intro before earlier event last made _ absent taken connecting
    cases player_step_cases taken with
    | spawned | unspawned | finished => contradiction
    | played | steered | interrupted => exact absent connecting
    | turned keyboard looping =>
        have nowhere := absent connecting
        rcases looping with here | here <;> rw [here] at nowhere <;> contradiction
    | pressed key here =>
        rw [Player.press_main] at connecting
        have nowhere := absent connecting
        rw [here] at nowhere
        contradiction
    | sent here | refused here =>
        have nowhere := absent connecting
        rw [here] at nowhere
        contradiction

theorem reaches_plays (run : (player settings userId).Reaches state history) :
    Plays state history := by
  apply run.invariant
  · rintro start rfl
    exact ⟨rfl, fun _ _ => rfl, rfl, fun _ => rfl, List.prefix_refl _, .inl rfl,
      by intro ending; contradiction⟩
  · intro before earlier event last made reached plays taken
    exact plays.step (reaches_located (player_reaches_client reached)) (reaches_absent reached)
      taken

/-! ## The ends -/

/-- How many keys for moves the thread can still read when nobody takes its moves. -/
def Keyboard.movesLeft : Keyboard → Nat
  | .absent | .checking | .polling => 1
  | .sending _ | .returned => 0

theorem Keyboard.movesLeft_le (keyboard : Keyboard) :
    keyboard.blocked.length + keyboard.movesLeft ≤ 1 := by
  cases keyboard <;> simp [blocked, movesLeft]

theorem over_step (run : (player settings userId).Reaches state history)
    (gone : state.client.isOver = true) {event : PlayerEvent}
    (taken : state.step settings userId event = some (after, seen)) :
    after.client.isOver = true ∧ movesTaken seen = [] ∧ playerHistory seen = [] ∧
      (keyMoves seen).length + after.keyboard.movesLeft ≤ state.keyboard.movesLeft := by
  have dead : state.moves.receiverAlive = false := by
    rw [(reaches_plays run).alive, gone]
    rfl
  cases player_step_cases taken with
  | spawned connecting =>
      rw [reaches_absent run connecting]
      exact ⟨gone, rfl, rfl, Nat.le_refl 1⟩
  | played offered stepped =>
      have living := (client_steady offered stepped).living
      rw [gone] at living
      contradiction
  | steered queued alive stepped =>
      obtain ⟨game, playing, _⟩ := recvMove_cases stepped
      rw [playing] at gone
      contradiction
  | turned keyboard looping =>
      have left : state.keyboard.movesLeft = 1 := by
        rcases looping with here | here <;> rw [here] <;> rfl
      have bound := keyboard.movesLeft_le
      have nothing : (keyMoves []).length = 0 := rfl
      refine ⟨gone, rfl, rfl, ?_⟩
      rw [left, nothing]
      show 0 + keyboard.movesLeft ≤ 1
      omega
  | pressed key polling =>
      rw [Player.press_client, keyMoves_read state key, polling]
      exact ⟨gone, rfl, rfl, (state.press key).keyboard.movesLeft_le⟩
  | sent held alive =>
      rw [dead] at alive
      contradiction
  | refused held =>
      rw [held]
      exact ⟨gone, rfl, rfl, Nat.le_refl 0⟩
  | unspawned | interrupted | finished =>
      exact ⟨gone, rfl, rfl, Nat.le_of_eq (Nat.zero_add _)⟩

theorem over_exec {events : List PlayerEvent}
    (run : (player settings userId).Reaches state history) (gone : state.client.isOver = true)
    (executed : (player settings userId).exec state events = some (final, later)) :
    movesTaken later = [] ∧ playerHistory later = [] ∧
      (keyMoves later).length + final.keyboard.movesLeft ≤ state.keyboard.movesLeft := by
  induction events generalizing state history later with
  | nil =>
      cases executed
      exact ⟨rfl, rfl, Nat.le_of_eq (Nat.zero_add _)⟩
  | cons event rest inductionHypothesis =>
      obtain ⟨next, first, second, taken, onwards, rfl⟩ := Machine.exec_cons executed
      obtain ⟨still, untaken, silent, left⟩ := over_step run gone taken
      obtain ⟨nothing, nobody, bound⟩ := inductionHypothesis (run.step taken) still onwards
      refine ⟨?_, ?_, ?_⟩
      · rw [movesTaken_append, untaken, nothing, List.append_nil]
      · rw [playerHistory_append, silent, nobody, List.append_nil]
      · rw [keyMoves_append, List.length_append]
        omega

/-- `main` returns after the client, or for want of the thread. -/
theorem reaches_returned (run : (player settings userId).Reaches state history) :
    ∀ ok, state.main = .returned ok →
      ok = true ∧ state.client.isOver = true ∧ Ended history ∨
        ok = false ∧ .spawned false ∈ history := by
  apply run.invariant
  · rintro start rfl ok returned
    contradiction
  · intro before earlier event last made reached _ taken ok returned
    have running : ∀ ok, before.main ≠ .returned ok := by
      intro ok gone
      have halted : before.step settings userId event = none := by
        unfold Player.step
        rw [gone]
      rw [show before.step settings userId event = some (last, made) from taken] at halted
      contradiction
    cases player_step_cases taken with
    | spawned => contradiction
    | unspawned =>
        cases returned
        exact .inr ⟨rfl, by simp⟩
    | finished _ down gone =>
        cases returned
        exact .inl ⟨rfl, gone, ((reaches_plays reached).ended down).grow _⟩
    | pressed key =>
        rw [Player.press_main] at returned
        exact absurd returned (running ok)
    | played | steered | turned | sent | refused | interrupted =>
        exact absurd returned (running ok)

/-- The first client goes where the keys say. It takes the moves of the keys in the order in
which they have been pressed, each once; those that it takes before it is authenticated come
first and are dropped, and it tells GameServer the positions that the others lead to, one
after the other, but for the last one if its `send` fails. While the client goes on, what it
has not taken yet is in the channel or in the hands of the thread. When it is over, the channel
is dropped, no move is taken any more and at most one more is read. `main` returns only after
Q, Control-C or the end of `ctrl_c`, with the client over, or because the thread cannot be
spawned. -/
theorem moves_played (run : (player settings userId).Reaches state history) :
    movesTaken history = movesTakenWhen false history ++ movesTakenWhen true history ∧
      movesTaken history <+: keyMoves history ∧
      (positionsSent (playerHistory history) = walk origin (movesTakenWhen true history) ∨
        Untold state.client history) ∧
      (state.client.isOver = false →
        keyMoves history =
          movesTaken history ++ (state.moves.queue ++ state.keyboard.blocked)) ∧
      (state.client.isOver = true →
        state.moves.queue = [] ∧
        ∀ events final later,
          (player settings userId).exec state events = some (final, later) →
            movesTaken later = [] ∧ playerHistory later = [] ∧ (keyMoves later).length ≤ 1) ∧
      (state.shutdown = true → Ended history) ∧
      (∀ ok, state.main = .returned ok →
        ok = true ∧ state.client.isOver = true ∧ Ended history ∨
          ok = false ∧ .spawned false ∈ history) := by
  have plays := reaches_plays run
  refine ⟨plays.order, plays.taken, plays.told, plays.waiting, ?_, plays.ended,
    reaches_returned run⟩
  intro gone
  constructor
  · apply state.moves.closed
    rw [plays.alive, gone]
    rfl
  · intro events final later executed
    obtain ⟨untaken, silent, bound⟩ := over_exec run gone executed
    have most := state.keyboard.movesLeft_le
    exact ⟨untaken, silent, by omega⟩

end Playing

/-- A key too early, and one in time. -/
def earlyThenUp : List PlayerEvent :=
  [.client (.next 0 (some ⟨0, some (.loginResponse ⟨true, 0, "token"⟩)⟩) .done),
    .client (.connect true), .spawn true, .check, .read (some ⟨.char 'd', true, false⟩), .send,
    .takeMove .done, .client (.next 1 (some ⟨0, some (.gameConnectResponse ⟨true, 0⟩)⟩) .done),
    .check, .read (some ⟨.up, true, false⟩), .send, .takeMove .done]

theorem moves_played_earlyThenUp :
    ∃ state history,
      (player ⟨[]⟩ "user_00001").exec firstSpawned earlyThenUp = some (state, history) ∧
      movesTakenWhen false history = [(one, .zero)] ∧
      positionsSent (playerHistory history) = [moved origin (.zero, minusOne)] := by
  have runs : ∃ state history,
      (player ⟨[]⟩ "user_00001").exec firstSpawned earlyThenUp = some (state, history) ∧
      movesTakenWhen false history = [(one, .zero)] ∧
      movesTakenWhen true history = [(.zero, minusOne)] ∧ state.client.isOver = false :=
    ⟨_, _, rfl, rfl, rfl, rfl⟩
  obtain ⟨state, history, executed, early, late, living⟩ := runs
  have played := moves_played (Machine.reaches_of_exec rfl executed)
  rcases played.2.2.1 with told | ⟨finished, _⟩
  · rw [late] at told
    exact ⟨state, history, executed, early, told⟩
  · rw [finished] at living
    contradiction

end RustGameserver.DummyClient
