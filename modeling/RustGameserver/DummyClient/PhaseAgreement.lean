import RustGameserver.DummyClient.Conversation

/-!
Contract: a dummy client and its sessions agree on where the protocol is.

Owns:
- that no session takes its gate on a message of the client;
- that a client with a KeepAlive interval has an authenticated session;
- that each session is asked once, and so authenticates once and never meets the limit
  of login attempts;
- a client that logs in, moves to GameServer and plays.

Does not own: how the client gets on with the other parties.
-/

namespace RustGameserver.DummyClient

open RustGameserver.Foundation
open RustGameserver.Net
open RustGameserver.Proto
open RustGameserver.Session

/-! ## A connection whose client asks once for each greeting -/

section Asking

variable {Fields Work Reply Inner : Type} {service : Service Fields Work Reply Inner}
  {link : Link Fields Work Reply Inner} {asksTask ask : MessageWrapper → Bool}
  {history : List (LinkSeen Fields Work Reply Inner)}

/-- A client reads one greeting. -/
theorem greeted_once (prompted : Prompted service asksTask)
    (run : (Session.link service).Reaches link history) :
    (receivedMessages history).countP greets ≤ 1 := by
  have once : (accepted (sessionHistory history)).countP isGreeting ≤ 1 := by
    rcases session_quiet_or run with quiet | ⟨task, own⟩
    · rw [quiet]
      exact Nat.zero_le 1
    · exact greets_once prompted own
  calc (receivedMessages history).countP greets
      ≤ ((accepted (sessionHistory history)).map wrap).countP greets :=
        (received_accepted run).sublist.countP_le
    _ = (accepted (sessionHistory history)).countP isGreeting := by
        rw [List.countP_map]
        rfl
    _ ≤ 1 := once

/-- A session handles one such request. -/
theorem asked_once (prompted : Prompted service asksTask)
    (run : (Session.link service).Reaches link history)
    (counts : (sentMessages history).countP ask ≤ (receivedMessages history).countP greets) :
    (handledMessages (sessionHistory history)).countP ask ≤ 1 := by
  calc (handledMessages (sessionHistory history)).countP ask
      ≤ (sentMessages history).countP ask := (handled_sent run).sublist.countP_le
    _ ≤ (receivedMessages history).countP greets := counts
    _ ≤ 1 := greeted_once prompted run

end Asking

/-! ## Every run of a conversation -/

variable {settings : ConversationSettings} {state : Conversation}
  {history : List ConversationSeen} {message : MessageWrapper}

/-- What stands behind a message that the client has sent so far. -/
theorem sent_permitted {seen earlier later : List ClientSeen}
    (justified : Justified Permitted seen) (shape : seen = earlier ++ later) {phase : Phase}
    (sent : message ∈ sentTo phase earlier) :
    asks phase message = true ∨
      phase = .gameServer ∧ isRoutine message = true ∧ Told earlier := by
  obtain ⟨entry, member, own⟩ := List.mem_filterMap.mp sent
  cases entry with
  | sent other found =>
      simp only [Option.ite_none_right_eq_some, Option.some.injEq] at own
      obtain ⟨rfl, rfl⟩ := own
      obtain ⟨front, back, rfl⟩ := List.append_of_mem member
      rcases justified front (.sent other found) (back ++ later) (by simp [shape]) with
        asking | ⟨same, routine, told⟩
      · exact .inl asking
      · exact .inr ⟨same, routine, told.grow _⟩
  | received => contradiction

theorem asked_login (run : (conversation settings).Reaches state history) :
    (handledMessages (loginHistory history)).countP LoginServer.isLoginRequest ≤ 1 := by
  apply asked_once (LoginServer.prompted settings.loginKeepAlive) (reaches_loginLink run)
  rw [sent_login, received_login]
  exact (reaches_disciplined (reaches_client run)).counts .loginServer

theorem asked_game (run : (conversation settings).Reaches state history) :
    (handledMessages (gameHistory history)).countP GameServer.isGameConnectRequest ≤ 1 := by
  apply asked_once (GameServer.prompted settings.gameKeepAlive) (reaches_gameLink run)
  rw [sent_game, received_game]
  exact (reaches_disciplined (reaches_client run)).counts .gameServer

/-! ## The gates -/

theorem ofLogin_split {earlier later : List ConversationSeen} {seen : LoginSessionSeen}
    (shape : history = earlier ++ .login seen :: later) :
    history.filterMap ConversationSeen.ofLogin =
      earlier.filterMap ConversationSeen.ofLogin ++
        .session seen :: later.filterMap ConversationSeen.ofLogin := by
  rw [shape, List.filterMap_append]
  rfl

theorem ofGame_split {earlier later : List ConversationSeen} {seen : GameSessionSeen}
    (shape : history = earlier ++ .game seen :: later) :
    history.filterMap ConversationSeen.ofGame =
      earlier.filterMap ConversationSeen.ofGame ++
        .session seen :: later.filterMap ConversationSeen.ofGame := by
  rw [shape, List.filterMap_append]
  rfl

theorem clientHistory_append (earlier later : List ConversationSeen) :
    clientHistory (earlier ++ later) = clientHistory earlier ++ clientHistory later :=
  List.filterMap_append

/-- A message that LoginServer handles asks for a login. -/
theorem login_ungated (run : (conversation settings).Reaches state history)
    {before : LoginServer.Session} (handled : .login (.handled before message) ∈ history) :
    LoginServer.isLoginRequest message = true := by
  obtain ⟨earlier, later, shape⟩ := List.append_of_mem handled
  have sent := reaches_transported (reaches_loginLink run) _ _ _ (ofLogin_split shape)
  have parts := clientHistory_append earlier (.login (.handled before message) :: later)
  rw [← shape] at parts
  rw [Transported, sent_login] at sent
  rcases sent_permitted (reaches_disciplined (reaches_client run)).sent parts sent with
    asking | ⟨other, _⟩
  · exact asking
  · contradiction

/-- What the client has been told of its success so far, its session has said so far. -/
theorem told_success (run : (conversation settings).Reaches state history)
    {earlier later : List ConversationSeen} (shape : history = earlier ++ later)
    (told : Told (clientHistory earlier)) :
    ∃ payload ∈ accepted (gameHistory earlier), GameServer.isSuccess payload = true := by
  obtain ⟨message, member, success⟩ := told
  rw [← received_game] at member
  have parts : history.filterMap ConversationSeen.ofGame =
      earlier.filterMap ConversationSeen.ofGame ++ later.filterMap ConversationSeen.ofGame := by
    rw [shape, List.filterMap_append]
  obtain ⟨payload, accepted, rfl⟩ :=
    List.mem_map.mp (received_told (reaches_gameLink run) parts member)
  exact ⟨payload, accepted, success⟩

/-- A message that GameServer handles asks for a connection, or finds the session
authenticated. -/
theorem game_ungated (run : (conversation settings).Reaches state history)
    {before : GameServer.Session} (handled : .game (.handled before message) ∈ history) :
    GameServer.isGameConnectRequest message = true ∨
      isRoutine message = true ∧ ∃ account, before.account = some account := by
  obtain ⟨earlier, later, shape⟩ := List.append_of_mem handled
  have whole := ofGame_split shape
  have sent := reaches_transported (reaches_gameLink run) _ _ _ whole
  have parts := clientHistory_append earlier (.game (.handled before message) :: later)
  rw [← shape] at parts
  rw [Transported, sent_game] at sent
  rcases sent_permitted (reaches_disciplined (reaches_client run)).sent parts sent with
    asking | ⟨_, routine, told⟩
  · exact .inl asking
  · obtain ⟨payload, said, success⟩ := told_success run shape told
    have observed : gameHistory history = gameHistory earlier ++ .handled before message ::
        gameHistory later := by
      rw [gameHistory, whole, sessionHistory_append]
      rfl
    have seen : .handled before message ∈ gameHistory history := by simp [observed]
    obtain ⟨task, _, own⟩ := session_present (reaches_gameLink run) seen
    exact .inr ⟨routine, GameServer.handled_account own observed said success⟩

/-- A client with a KeepAlive interval has an authenticated session. -/
theorem keepAlive_account (run : (conversation settings).Reaches state history)
    (has : state.client.keepAlive ≠ none) :
    ∃ task account, state.game.session = some task ∧ task.fields.account = some account := by
  have told := (reaches_disciplined (reaches_client run)).keepAlive has
  obtain ⟨payload, said, success⟩ := told_success run (List.append_nil history).symm told
  obtain ⟨entry, member, _⟩ := List.mem_filterMap.mp said
  obtain ⟨task, present, own⟩ := session_present (reaches_gameLink run) member
  obtain ⟨account, last⟩ :=
    GameServer.success_account own (List.append_nil _).symm said success
  exact ⟨task, account, present, (GameServer.reaches_account own).trans last⟩

/-! ## Once -/

theorem login_limit (run : (conversation settings).Reaches state history) :
    (∀ payload ∈ accepted (loginHistory history), LoginServer.isRateLimited payload = false) ∧
      authentications (loginHistory history) ≤ 1 := by
  have single := asked_login run
  rcases session_quiet_or (reaches_loginLink run) with quiet | ⟨task, own⟩
  · rw [loginHistory, quiet]
    exact ⟨nofun, Nat.zero_le 1⟩
  · exact ⟨LoginServer.never_limited own single,
      (authentications_le (LoginServer.prompted _) own).trans single⟩

theorem game_authentications (run : (conversation settings).Reaches state history) :
    authentications (gameHistory history) ≤ 1 := by
  have connects : ∀ message ∈ handledMessages (gameHistory history),
      GameServer.asksTask message = true → GameServer.isGameConnectRequest message = true := by
    intro message handled asking
    have sent := (handled_sent (reaches_gameLink run)).subset handled
    rw [sent_game] at sent
    rcases sent_permitted (reaches_disciplined (reaches_client run)).sent
        (List.append_nil _).symm sent with connects | ⟨_, routine, _⟩
    · exact connects
    · unfold isRoutine at routine
      split at routine
      · next same => simp [GameServer.asksTask, same] at asking
      · next same => simp [GameServer.asksTask, same] at asking
      · contradiction
  rcases session_quiet_or (reaches_gameLink run) with quiet | ⟨task, own⟩
  · rw [gameHistory, quiet]
    exact Nat.zero_le 1
  · calc authentications (gameHistory history)
        ≤ (handledMessages (gameHistory history)).countP GameServer.asksTask :=
          authentications_le (GameServer.prompted _) own
      _ ≤ (handledMessages (gameHistory history)).countP GameServer.isGameConnectRequest :=
          List.countP_mono_left connects
      _ ≤ 1 := asked_game run

/-- A client and its two sessions agree on where the protocol is, however their steps
are interleaved. -/
theorem phases_agree {settings : ConversationSettings} {state : Conversation}
    {history : List ConversationSeen} (run : (conversation settings).Reaches state history) :
    -- no session leaves its event loop through its gate
    (∀ before message now fields, .login (.handled before message) ∈ history →
        LoginServer.Session.onRemote before now message ≠ .stop fields) ∧
      (∀ before message now fields, .game (.handled before message) ∈ history →
        GameServer.Session.onRemote before now message ≠ .stop fields) ∧
      (state.client.keepAlive ≠ none →
        ∃ task account, state.game.session = some task ∧ task.fields.account = some account) ∧
      -- each session is asked at most once
      (handledMessages (loginHistory history)).countP LoginServer.isLoginRequest ≤ 1 ∧
      (handledMessages (gameHistory history)).countP GameServer.isGameConnectRequest ≤ 1 ∧
      (∀ payload ∈ accepted (loginHistory history), LoginServer.isRateLimited payload = false) ∧
      authentications (loginHistory history) ≤ 1 ∧ authentications (gameHistory history) ≤ 1 := by
  obtain ⟨unlimited, once⟩ := login_limit run
  refine ⟨?_, ?_, keepAlive_account run, asked_login run, asked_game run, unlimited, once,
    game_authentications run⟩
  · intro before message now fields handled stops
    have gate := ((before.onRemote_cases now message).stops stops).1
    have asking := login_ungated run handled
    rw [LoginServer.isLoginRequest_gated gate] at asking
    contradiction
  · intro before message now fields handled stops
    obtain ⟨gate, anonymous⟩ := (before.onRemote_cases now message).stops stops
    rcases game_ungated run handled with asking | ⟨_, account, authenticated⟩
    · unfold GameServer.isGameConnectRequest at asking
      split at asking
      · next same =>
          rw [same] at gate
          contradiction
      · contradiction
    · rw [anonymous] at authenticated
      contradiction

def sampleSettings : ConversationSettings := ⟨⟨[1]⟩, userId 1, 10, 10⟩

/-- A client logs in, moves to GameServer, keeps its session alive and moves. -/
def loginThenPlay : List ConversationEvent :=
  [.acceptLogin 1 ⟨0⟩ 0, .login .greet, .login (.write (.recv true)),
    .client (.next 1 (some (wrap (.connectedResponse ⟨0⟩))) .done), .login (.poll false),
    .login (.select 1 (some (.message (wrap (.loginRequest ⟨"user_00001", [1]⟩))))),
    .login (.reply 0 (.account (.ok (some ⟨7, "user_00001", "", "", 0⟩)))),
    .login (.reply 0 (.verified (.ok true))), .login (.reply 0 (.touched (.ok ()))),
    .login (.reply 0 (.issued (.ok (some "t")))), .login (.deliver 0), .login (.poll false),
    .login (.select 2 none), .login (.write (.tryRecv true)),
    .client (.next 2 (some (wrap (.loginResponse ⟨true, 0, "t"⟩))) .done),
    .client (.connect true), .acceptGame 1 ⟨0⟩ 2, .game .greet, .game (.write (.recv true)),
    .client (.next 3 (some (wrap (.connectedResponse ⟨0⟩))) .done), .game (.poll false),
    .game (.select 3 (some (.message (wrap (.gameConnectRequest ⟨"t"⟩))))),
    .game (.reply 0 (.token (.ok (some "7:user_00001")))), .game (.deliver 0),
    .game (.poll false), .game (.select 4 none), .game (.write (.tryRecv true)),
    .client (.next 4 (some (wrap (.gameConnectResponse ⟨true, 0⟩))) .done),
    .client (.tick 3000000004 .done), .game (.poll false),
    .game (.select 5 (some (.message (wrap .keepAliveRequest)))),
    .client (.recvMove .zero .zero .done)]

theorem phases_agree_loginThenPlay :
    ∃ state history task account,
      (conversation sampleSettings).exec ⟨.loginPhase, .opened, false, .opened⟩ loginThenPlay =
        some (state, history) ∧
      state.game.session = some task ∧ task.fields.account = some account ∧
      (sentTo .gameServer (clientHistory history)).length = 3 ∧
      authentications (gameHistory history) ≤ 1 := by
  have runs : ∃ state history,
      (conversation sampleSettings).exec ⟨.loginPhase, .opened, false, .opened⟩ loginThenPlay =
        some (state, history) ∧
      state.client.keepAlive = some ⟨6000000004, 3000000000⟩ ∧
      (sentTo .gameServer (clientHistory history)).length = 3 :=
    ⟨_, _, rfl, rfl, rfl⟩
  obtain ⟨state, history, executed, has, sent⟩ := runs
  have run : (conversation sampleSettings).Reaches state history :=
    Machine.reaches_of_exec rfl executed
  have agree := phases_agree run
  obtain ⟨task, account, present, authenticated⟩ := agree.2.2.1 (by simp [has])
  exact ⟨state, history, task, account, executed, present, authenticated, sent,
    agree.2.2.2.2.2.2.2⟩

end RustGameserver.DummyClient
