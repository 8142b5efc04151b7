import RustGameserver.DummyClient.PhaseAgreement
import RustGameserver.GameServer.Positions

/-!
Contract: a dummy client and its GameServer session agree on where the player is.

Owns:
- that a client is where it has last told GameServer to move it;
- that its session has been moved to these positions, in order, but for those underway;
- that the client is told of them in the same order.

Does not own: what the player wants.
-/

namespace RustGameserver.DummyClient

open RustGameserver.Foundation
open RustGameserver.GameServer (Position answerTo moveResponse moveResponses movedTo origin
  positions requestedPosition)
open RustGameserver.Net
open RustGameserver.Proto
open RustGameserver.Session

/-! ## The client -/

/-- The positions a client has told GameServer, in order. -/
def positionsSent (history : List ClientSeen) : List Position :=
  (sentTo .gameServer history).filterMap requestedPosition

/-- The answers to moves that a client has read, in order. -/
def movesAnswered (history : List ClientSeen) : List MoveResponse :=
  (receivedFrom .gameServer history).filterMap fun message => message.payload.bind moveResponse

theorem positionsSent_append (history more : List ClientSeen) :
    positionsSent (history ++ more) = positionsSent history ++ positionsSent more := by
  rw [positionsSent, sentTo_append, List.filterMap_append, positionsSent, positionsSent]

/-- A client that has not moved away from where it has told to be. -/
def Located (client : Client) (history : List ClientSeen) : Prop :=
  match client with
  | .loginPhase | .connecting _ => positionsSent history = []
  | .gamePhase game => (game.x, game.y) = (positionsSent history).getLast?.getD origin
  | .finished _ => True

variable {settings : ClientSettings} {userId : String} {before after : Client}
  {history seen : List ClientSeen}

/-- What the client does next is told to a server, or the client ends. -/
theorem conclude_located {answer : Answer} {phase : Phase} (sending : Sending)
    (silent : answer.payload = none → Located answer.client history)
    (told : ∀ payload, answer.payload = some payload →
      Located answer.client (history ++ [.sent phase (wrap payload)])) :
    Located (answer.conclude phase sending).1 (history ++ (answer.conclude phase sending).2) := by
  unfold Answer.conclude
  split
  · next nothing =>
      rw [List.append_nil]
      exact silent nothing
  · next payload holds =>
      cases sending with
      | done => exact told payload holds
      | failed written => cases written <;> trivial

/-- What a client reads, and what it says that is no move, leaves it where it is. -/
theorem Located.quiet {client : Client} (located : Located client history)
    (quiet : positionsSent seen = []) : Located client (history ++ seen) := by
  cases client with
  | loginPhase | connecting =>
      rw [Located, positionsSent_append, quiet, List.append_nil]
      exact located
  | gamePhase game =>
      rw [Located, positionsSent_append, quiet, List.append_nil]
      exact located
  | finished => trivial

theorem Hears.located {message : MessageWrapper} {phase : Phase} {answer : Answer}
    (hears : Hears settings userId message before phase answer) (located : Located before history)
    (sending : Sending) :
    Located (answer.conclude phase sending).1
      (history ++ .received phase message :: (answer.conclude phase sending).2) := by
  have read : Located before (history ++ [.received phase message]) := located.quiet rfl
  rw [List.append_cons]
  apply conclude_located
  · intro silent
    cases hears with
    | asksLogin | asksGame => contradiction
    | loggedIn | waits | authenticated | ignores => exact read
  · intro payload said
    cases hears with
    | loggedIn | waits | authenticated | ignores => contradiction
    | asksLogin | asksGame =>
        cases said
        exact read.quiet rfl

theorem Acts.located {game : GamePhase} {answer : Answer} (acts : Acts game answer)
    (located : Located (.gamePhase game) history) (sending : Sending) :
    Located (answer.conclude .gameServer sending).1
      (history ++ (answer.conclude .gameServer sending).2) := by
  apply conclude_located
  · intro silent
    cases acts with
    | ticks | moves => contradiction
    | stays => exact located
  · intro payload said
    cases acts with
    | stays => contradiction
    | ticks interval later =>
        cases said
        have here : Located (.gamePhase { game with keepAlive := some later }) history := located
        exact here.quiet rfl
    | moves interval x y =>
        cases said
        rw [Located, positionsSent_append]
        show (x, y) = (_ ++ [(x, y)]).getLast?.getD origin
        rw [List.getLast?_append]
        rfl

theorem Located.step {event : ClientEvent} (located : Located before history)
    (taken : before.step settings userId event = some (after, seen)) :
    Located after (history ++ seen) := by
  cases event with
  | cancelled =>
      cases before with
      | loginPhase | gamePhase game =>
          cases taken
          trivial
      | connecting | finished => contradiction
  | next now frame sending =>
      simp only [Client.step] at taken
      split at taken
      · cases taken
        trivial
      · next message =>
          cases taken
          have hears : Hears settings userId message .loginPhase .loginServer
              (onLoginMessage settings userId message) := onLoginMessage_cases message
          exact hears.located located sending
      · cases taken
        trivial
      · next game message =>
          cases taken
          have hears : Hears settings userId message (.gamePhase game) .gameServer
              (game.onMessage now message) := onMessage_cases game now message
          exact hears.located located sending
      · contradiction
      · contradiction
  | connect ok =>
      simp only [Client.step] at taken
      split at taken
      · cases taken
        have nowhere : positionsSent history = [] := located
        split
        · rw [List.append_nil, Located, nowhere]
          rfl
        · trivial
      all_goals contradiction
  | tick now sending =>
      simp only [Client.step] at taken
      split at taken
      · next game =>
          obtain ⟨answer, ticked, outcome⟩ := Option.map_eq_some_iff.mp taken
          obtain ⟨rfl, rfl⟩ := Prod.ext_iff.mp outcome
          exact (onTick_cases ticked).located located sending
      all_goals contradiction
  | recvMove dx dy sending =>
      simp only [Client.step] at taken
      split at taken
      · next game =>
          rw [Option.some.injEq] at taken
          obtain ⟨rfl, rfl⟩ := Prod.ext_iff.mp taken
          exact (onMove_cases game dx dy).located located sending
      all_goals contradiction

theorem reaches_located (run : (client settings userId).Reaches before history) :
    Located before history := by
  apply run.invariant
  · rintro start rfl
    exact rfl
  · intro first earlier event last made _ located taken
    exact located.step taken

/-! ## The session -/

section Conversations

variable {settings : ConversationSettings} {state : Conversation}
  {history : List ConversationSeen}

theorem mem_gameHistory {entry : GameSessionSeen} (member : entry ∈ gameHistory history) :
    .game entry ∈ history := by
  obtain ⟨seen, among, own⟩ := List.mem_filterMap.mp member
  obtain ⟨observed, there, view⟩ := List.mem_filterMap.mp among
  cases seen with
  | session other =>
      cases own
      cases observed with
      | game found =>
          cases view
          exact there
      | login found => contradiction
      | client found =>
          cases found with
          | received phase message =>
              simp [ConversationSeen.ofGame, ClientSeen.transported] at view
          | sent phase message =>
              simp [ConversationSeen.ofGame, ClientSeen.transported] at view
  | sent | received => contradiction

theorem mem_handled {entry : GameServer.Session × MessageWrapper} {seen : List GameSessionSeen}
    (member : entry ∈ handled seen) : .handled entry.1 entry.2 ∈ seen := by
  obtain ⟨observed, there, view⟩ := List.mem_filterMap.mp member
  cases observed with
  | handled fields message =>
      cases view
      exact there
  | _ => contradiction

/-- Every move that a session of a dummy client handles is made. -/
theorem movedTo_handled (run : (conversation settings).Reaches state history)
    {entry : GameServer.Session × MessageWrapper}
    (member : entry ∈ handled (gameHistory history)) :
    movedTo entry = requestedPosition entry.2 := by
  rcases game_ungated run (mem_gameHistory (mem_handled member)) with
    connects | ⟨_, account, authenticated⟩
  · have elsewhere : requestedPosition entry.2 = none := by
      unfold GameServer.isGameConnectRequest at connects
      split at connects
      · next asked => simp [requestedPosition, asked]
      · contradiction
    rw [movedTo, elsewhere, ite_self]
  · rw [movedTo, authenticated, Option.isSome_some, if_pos rfl]

theorem positions_handled (run : (conversation settings).Reaches state history) :
    positions (gameHistory history) =
      (handledMessages (gameHistory history)).filterMap requestedPosition := by
  rw [positions, handledMessages, List.filterMap_map]
  exact List.filterMap_congr fun entry member => movedTo_handled run member

/-- What has been sent has been handled or is underway. -/
theorem positions_underway (run : (conversation settings).Reaches state history) :
    positions (gameHistory history) ++ state.game.underway.filterMap requestedPosition =
      positionsSent (clientHistory history) := by
  have ordered := (reaches_ordered (reaches_gameLink run)).underway
  rw [sent_game] at ordered
  rw [positions_handled run, positionsSent, ← ordered, List.filterMap_append]
  rfl

theorem moves_answered (run : (conversation settings).Reaches state history) :
    movesAnswered (clientHistory history) <+: (positions (gameHistory history)).map answerTo := by
  have read : movesAnswered (clientHistory history) <+: moveResponses (gameHistory history) := by
    have before := (received_accepted (reaches_gameLink run)).filterMap
      fun message => message.payload.bind moveResponse
    rw [received_game, List.filterMap_map] at before
    exact before
  rcases session_quiet_or (reaches_gameLink run) with quiet | ⟨task, own⟩
  · rw [gameHistory, quiet] at read ⊢
    exact read
  · exact read.trans (GameServer.reaches_placed own).told

/-- However the steps of a client and its sessions are interleaved, GameServer has the player
where the client has told it to be, but for the moves underway; the client is told of the
moves made, in order, and of no others. -/
theorem positions_agree (run : (conversation settings).Reaches state history) :
    positions (gameHistory history) ++ state.game.underway.filterMap requestedPosition =
      positionsSent (clientHistory history) ∧
    movesAnswered (clientHistory history) <+: (positions (gameHistory history)).map answerTo ∧
    (∀ game, state.client = .gamePhase game →
      (game.x, game.y) = (positionsSent (clientHistory history)).getLast?.getD origin) ∧
    (∀ task, state.game.session = some task →
      task.fields.position = (positions (gameHistory history)).getLast?.getD origin) ∧
    ∀ game task, state.client = .gamePhase game → state.game.session = some task →
      state.game.underway.filterMap requestedPosition = [] →
        task.fields.position = (game.x, game.y) := by
  have underway := positions_underway run
  have client (game : GamePhase) (playing : state.client = .gamePhase game) :
      (game.x, game.y) = (positionsSent (clientHistory history)).getLast?.getD origin := by
    have located := reaches_located (reaches_client run)
    rw [playing] at located
    exact located
  have session (task) (present : state.game.session = some task) :
      task.fields.position = (positions (gameHistory history)).getLast?.getD origin :=
    (GameServer.reaches_placed (reaches_linked (reaches_gameLink run) present)).position
  refine ⟨underway, moves_answered run, client, session, ?_⟩
  intro game task playing present nothing
  rw [nothing, List.append_nil] at underway
  rw [session task present, client game playing, underway]

theorem positions_agree_underway :
    ∃ state history game task,
      (conversation sampleSettings).exec ⟨.loginPhase, .opened, false, .opened⟩ loginThenPlay =
        some (state, history) ∧
      state.client = .gamePhase game ∧ state.game.session = some task ∧
      task.fields.position = origin ∧
      state.game.underway.filterMap requestedPosition = [(game.x, game.y)] ∧
      positionsSent (clientHistory history) = [(game.x, game.y)] := by
  have runs : ∃ state history game task,
      (conversation sampleSettings).exec ⟨.loginPhase, .opened, false, .opened⟩ loginThenPlay =
        some (state, history) ∧
      state.client = .gamePhase game ∧ state.game.session = some task ∧
      positions (gameHistory history) = [] ∧
      state.game.underway.filterMap requestedPosition = [(game.x, game.y)] :=
    ⟨_, _, _, _, rfl, rfl, rfl, rfl, rfl⟩
  obtain ⟨state, history, game, task, executed, playing, present, still, moving⟩ := runs
  have run : (conversation sampleSettings).Reaches state history :=
    Machine.reaches_of_exec rfl executed
  obtain ⟨sent, _, _, session, _⟩ := positions_agree run
  refine ⟨state, history, game, task, executed, playing, present, ?_, moving, ?_⟩
  · rw [session task present, still]
    rfl
  · rw [← sent, still, moving]
    rfl

end Conversations

end RustGameserver.DummyClient
