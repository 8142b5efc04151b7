import RustGameserver.DummyClient.Client
import RustGameserver.GameServer.SingleRequest
import RustGameserver.LoginServer.SingleRequest

/-!
Contract: what a dummy client says, given what it has been told.

Owns:
- that a client asks a server once for every greeting it has read;
- that it sends anything else to GameServer only, and only after it has read that it is
  authenticated.

Does not own: how often a server greets, and when it tells of a success.
-/

namespace RustGameserver.DummyClient

open RustGameserver.Foundation
open RustGameserver.Net
open RustGameserver.Proto
open RustGameserver.Session

/-- What a client asks a server that has greeted it. -/
def asks : Phase → MessageWrapper → Bool
  | .loginServer => LoginServer.isLoginRequest
  | .gameServer => GameServer.isGameConnectRequest

def greets (message : MessageWrapper) : Bool := message.payload.any isGreeting

/-- GameServer tells the client that it is authenticated. -/
def tellsSuccess (message : MessageWrapper) : Bool := message.payload.any GameServer.isSuccess

/-- What an authenticated client sends. -/
def isRoutine (message : MessageWrapper) : Bool :=
  match message.payload with
  | some .keepAliveRequest | some (.moveRequest _) => true
  | _ => false

/-! ## What one step can do -/

/-- What a client does about a message, alternative by alternative. -/
inductive Hears (settings : ClientSettings) (userId : String) (message : MessageWrapper) :
    Client → Phase → Answer → Prop where
  | asksLogin (greeted : greets message = true) :
      Hears settings userId message .loginPhase .loginServer
        ⟨.loginPhase, some (.loginRequest ⟨userId, settings.clientHash⟩)⟩
  | loggedIn (authToken : String) :
      Hears settings userId message .loginPhase .loginServer ⟨.connecting authToken, none⟩
  | waits : Hears settings userId message .loginPhase .loginServer ⟨.loginPhase, none⟩
  | asksGame (game : GamePhase) (greeted : greets message = true) :
      Hears settings userId message (.gamePhase game) .gameServer
        ⟨.gamePhase game, some (.gameConnectRequest ⟨game.authToken⟩)⟩
  | authenticated (game : GamePhase) (interval : Interval)
      (told : tellsSuccess message = true) :
      Hears settings userId message (.gamePhase game) .gameServer
        ⟨.gamePhase { game with keepAlive := some interval }, none⟩
  | ignores (game : GamePhase) :
      Hears settings userId message (.gamePhase game) .gameServer ⟨.gamePhase game, none⟩

/-- What a client does of its own accord. -/
inductive Acts (game : GamePhase) : Answer → Prop where
  | ticks (interval later : Interval) (has : game.keepAlive = some interval) :
      Acts game ⟨.gamePhase { game with keepAlive := some later }, some .keepAliveRequest⟩
  | moves (interval : Interval) (x y : Float32Bits) (has : game.keepAlive = some interval) :
      Acts game ⟨.gamePhase { game with x, y }, some (.moveRequest ⟨x, y⟩)⟩
  | stays : Acts game ⟨.gamePhase game, none⟩

inductive ClientStepped (settings : ClientSettings) (userId : String) (client : Client) :
    Client → List ClientSeen → Prop where
  | quits (finished : Finished) : ClientStepped settings userId client (.finished finished) []
  | connects (authToken : String) :
      ClientStepped settings userId client (.gamePhase (.start authToken)) []
  | heard {answer : Answer} {phase : Phase} (message : MessageWrapper) (sending : Sending)
      (hears : Hears settings userId message client phase answer) :
      ClientStepped settings userId client (answer.conclude phase sending).1
        (.received phase message :: (answer.conclude phase sending).2)
  | acted {answer : Answer} (game : GamePhase) (sending : Sending)
      (playing : client = .gamePhase game) (acts : Acts game answer) :
      ClientStepped settings userId client (answer.conclude .gameServer sending).1
        (answer.conclude .gameServer sending).2

variable {settings : ClientSettings} {userId : String}

theorem onLoginMessage_cases (message : MessageWrapper) :
    Hears settings userId message .loginPhase .loginServer
      (onLoginMessage settings userId message) := by
  unfold onLoginMessage
  split
  · next body greeted => exact .asksLogin (by simp [greets, greeted, isGreeting])
  · split
    · exact .loggedIn _
    · exact .waits
  · exact .waits

theorem onMessage_cases (game : GamePhase) (now : Nat) (message : MessageWrapper) :
    Hears settings userId message (.gamePhase game) .gameServer (game.onMessage now message) := by
  unfold GamePhase.onMessage
  split
  · next body greeted => exact .asksGame game (by simp [greets, greeted, isGreeting])
  · next resp told =>
      split
      · next success =>
          exact .authenticated game _ (by simp [tellsSuccess, told, GameServer.isSuccess, success])
      · exact .ignores game
  · exact .ignores game

theorem onTick_cases {game : GamePhase} {now : Nat} {answer : Answer}
    (ticked : game.onTick now = some answer) : Acts game answer := by
  unfold GamePhase.onTick at ticked
  split at ticked
  · contradiction
  · next interval has =>
      rw [Option.ite_none_right_eq_some] at ticked
      cases ticked.2
      exact .ticks interval _ has

theorem onMove_cases (game : GamePhase) (dx dy : Float32Bits) : Acts game (game.onMove dx dy) := by
  unfold GamePhase.onMove
  split
  · exact .stays
  · next interval has => exact .moves interval _ _ has

theorem client_step_cases {before after : Client} {event : ClientEvent} {seen : List ClientSeen}
    (taken : before.step settings userId event = some (after, seen)) :
    ClientStepped settings userId before after seen := by
  cases event with
  | cancelled =>
      cases before with
      | loginPhase | gamePhase game =>
          cases taken
          exact .quits _
      | connecting | finished => contradiction
  | next now frame sending =>
      simp only [Client.step] at taken
      split at taken
      · cases taken
        exact .quits _
      · next message =>
          cases taken
          exact .heard message sending (onLoginMessage_cases message)
      · cases taken
        exact .quits _
      · next game message =>
          cases taken
          exact .heard message sending (onMessage_cases game now message)
      · contradiction
      · contradiction
  | connect ok =>
      simp only [Client.step] at taken
      split at taken
      · cases taken
        split
        · exact .connects _
        · exact .quits _
      all_goals contradiction
  | tick now sending =>
      simp only [Client.step] at taken
      split at taken
      · next game =>
          obtain ⟨answer, ticked, outcome⟩ := Option.map_eq_some_iff.mp taken
          obtain ⟨rfl, rfl⟩ := Prod.ext_iff.mp outcome
          exact .acted game sending rfl (onTick_cases ticked)
      all_goals contradiction
  | recvMove dx dy sending =>
      simp only [Client.step] at taken
      split at taken
      · next game =>
          rw [Option.some.injEq] at taken
          obtain ⟨rfl, rfl⟩ := Prod.ext_iff.mp taken
          exact .acted game sending rfl (onMove_cases game dx dy)
      all_goals contradiction

/-- What becomes of an answer. -/
theorem conclude_cases (answer : Answer) (phase : Phase) (sending : Sending) :
    ((answer.conclude phase sending).1 = answer.client ∨
        ∃ finished, (answer.conclude phase sending).1 = .finished finished) ∧
      ((answer.conclude phase sending).2 = [] ∨
        ∃ payload, answer.payload = some payload ∧
          (answer.conclude phase sending).2 = [.sent phase (wrap payload)]) := by
  unfold Answer.conclude
  split
  · exact ⟨.inl rfl, .inl rfl⟩
  · next payload holds =>
      cases sending with
      | done => exact ⟨.inl rfl, .inr ⟨payload, holds, rfl⟩⟩
      | failed written =>
          cases written with
          | false => exact ⟨.inr ⟨_, rfl⟩, .inl rfl⟩
          | true => exact ⟨.inr ⟨_, rfl⟩, .inr ⟨payload, holds, rfl⟩⟩

/-! ## Every run of a client -/

variable {before after : Client} {history seen : List ClientSeen}

theorem sentTo_append (phase : Phase) (history more : List ClientSeen) :
    sentTo phase (history ++ more) = sentTo phase history ++ sentTo phase more :=
  List.filterMap_append

theorem receivedFrom_append (phase : Phase) (history more : List ClientSeen) :
    receivedFrom phase (history ++ more) =
      receivedFrom phase history ++ receivedFrom phase more :=
  List.filterMap_append

/-- The client has read that it is authenticated. -/
def Told (history : List ClientSeen) : Prop :=
  ∃ message ∈ receivedFrom .gameServer history, tellsSuccess message = true

theorem Told.grow (told : Told history) (more : List ClientSeen) : Told (history ++ more) := by
  obtain ⟨message, member, success⟩ := told
  refine ⟨message, ?_, success⟩
  rw [receivedFrom_append]
  exact List.mem_append_left _ member

/-- What a message of the client rests on. -/
def Permitted (earlier : List ClientSeen) : ClientSeen → Prop
  | .sent phase message =>
      asks phase message = true ∨
        phase = .gameServer ∧ isRoutine message = true ∧ Told earlier
  | .received .. => True

/-- What the history tells about a client. -/
structure Disciplined (client : Client) (history : List ClientSeen) : Prop where
  /-- It has asked a server once for each greeting. -/
  counts : ∀ phase, (sentTo phase history).countP (asks phase) ≤
    (receivedFrom phase history).countP greets
  keepAlive : client.keepAlive ≠ none → Told history
  sent : Justified Permitted history

/-- A block of observations in which no more is asked than greeted. -/
theorem counts_grow {phase : Phase}
    (before : (sentTo phase history).countP (asks phase) ≤
      (receivedFrom phase history).countP greets)
    (within : (sentTo phase seen).countP (asks phase) ≤ (receivedFrom phase seen).countP greets) :
    (sentTo phase (history ++ seen)).countP (asks phase) ≤
      (receivedFrom phase (history ++ seen)).countP greets := by
  rw [sentTo_append, receivedFrom_append, List.countP_append, List.countP_append]
  omega

/-- A client that has an interval and stays where it is has been told so before. -/
theorem Hears.keepAlive {message : MessageWrapper} {phase : Phase} {answer : Answer}
    (hears : Hears settings userId message before phase answer)
    (has : answer.client.keepAlive ≠ none) :
    before.keepAlive ≠ none ∨ phase = .gameServer ∧ tellsSuccess message = true := by
  cases hears with
  | asksGame game => exact .inl has
  | ignores game => exact .inl has
  | authenticated game interval told => exact .inr ⟨rfl, told⟩
  | asksLogin | loggedIn | waits => exact absurd rfl has

theorem Hears.asks {message : MessageWrapper} {phase : Phase} {answer : Answer} {payload : Payload}
    (hears : Hears settings userId message before phase answer)
    (holds : answer.payload = some payload) :
    asks phase (wrap payload) = true ∧ greets message = true := by
  cases hears with
  | asksLogin greeted | asksGame game greeted =>
      cases holds
      exact ⟨rfl, greeted⟩
  | loggedIn | waits | authenticated | ignores => contradiction

theorem Acts.keepAlive {game : GamePhase} {answer : Answer} (acts : Acts game answer)
    (has : answer.client.keepAlive ≠ none) : game.keepAlive ≠ none := by
  cases acts with
  | ticks interval later holds | moves interval x y holds => simp [holds]
  | stays => exact has

theorem Acts.routine {game : GamePhase} {answer : Answer} {payload : Payload}
    (acts : Acts game answer) (holds : answer.payload = some payload) :
    game.keepAlive ≠ none ∧ isRoutine (wrap payload) = true ∧
      DummyClient.asks .gameServer (wrap payload) = false := by
  cases acts with
  | ticks interval later has | moves interval x y has =>
      cases holds
      exact ⟨by simp [has], rfl, rfl⟩
  | stays => contradiction

/-- Where an answer leads, the client has an interval only if the answer gives it one. -/
theorem conclude_keepAlive {answer : Answer} {phase : Phase} {sending : Sending}
    (has : (answer.conclude phase sending).1.keepAlive ≠ none) :
    answer.client.keepAlive ≠ none := by
  rcases (conclude_cases answer phase sending).1 with same | ⟨finished, same⟩
  · rw [same] at has
    exact has
  · rw [same] at has
    exact absurd rfl has

theorem Disciplined.heard (disciplined : Disciplined before history) {message : MessageWrapper}
    {phase : Phase} {answer : Answer} (hears : Hears settings userId message before phase answer)
    (sending : Sending) :
    Disciplined (answer.conclude phase sending).1
      (history ++ .received phase message :: (answer.conclude phase sending).2) := by
  have read : Justified Permitted (history ++ [.received phase message]) :=
    disciplined.sent.snoc trivial
  have told (has : (answer.conclude phase sending).1.keepAlive ≠ none)
      (more : List ClientSeen) : Told (history ++ .received phase message :: more) := by
    rcases hears.keepAlive (conclude_keepAlive has) with earlier | ⟨rfl, success⟩
    · exact (disciplined.keepAlive earlier).grow _
    · exact ⟨message, by simp [receivedFrom], success⟩
  rcases (conclude_cases answer phase sending).2 with silent | ⟨payload, holds, said⟩
  · rw [silent]
    exact ⟨fun other => counts_grow (disciplined.counts other) (Nat.zero_le _),
      fun has => told has [], read⟩
  · obtain ⟨asking, greeted⟩ := hears.asks holds
    rw [said]
    refine ⟨fun other => counts_grow (disciplined.counts other) ?_, fun has => told has _, ?_⟩
    · by_cases same : phase = other
      · have greeting : (receivedFrom other [.received phase message,
            .sent phase (wrap payload)]).countP greets = 1 := by
          simp [receivedFrom, same, greeted]
        have single : (sentTo other [.received phase message,
            .sent phase (wrap payload)]).length = 1 := by
          simp [sentTo, same]
        rw [greeting, ← single]
        exact List.countP_le_length
      · simp [sentTo, same]
    · rw [List.append_cons]
      exact read.snoc (.inl asking)

theorem Disciplined.acted {game : GamePhase} {answer : Answer}
    (disciplined : Disciplined (.gamePhase game) history) (acts : Acts game answer)
    (sending : Sending) :
    Disciplined (answer.conclude .gameServer sending).1
      (history ++ (answer.conclude .gameServer sending).2) := by
  have told (has : (answer.conclude .gameServer sending).1.keepAlive ≠ none) : Told history :=
    disciplined.keepAlive (acts.keepAlive (conclude_keepAlive has))
  rcases (conclude_cases answer .gameServer sending).2 with silent | ⟨payload, holds, said⟩
  · rw [silent, List.append_nil]
    exact ⟨disciplined.counts, told, disciplined.sent⟩
  · obtain ⟨has, routine, unasked⟩ := acts.routine holds
    rw [said]
    refine ⟨fun phase => counts_grow (disciplined.counts phase) ?_, fun has => (told has).grow _,
      disciplined.sent.snoc (.inr ⟨rfl, routine, disciplined.keepAlive has⟩)⟩
    cases phase with
    | loginServer => exact Nat.zero_le _
    | gameServer =>
        show [wrap payload].countP (asks .gameServer) ≤ 0
        rw [List.countP_singleton, unasked]
        exact Nat.le_refl 0

theorem Disciplined.step (disciplined : Disciplined before history)
    (stepped : ClientStepped settings userId before after seen) :
    Disciplined after (history ++ seen) := by
  cases stepped with
  | quits finished =>
      rw [List.append_nil]
      exact ⟨disciplined.counts, fun has => absurd rfl has, disciplined.sent⟩
  | connects authToken =>
      rw [List.append_nil]
      exact ⟨disciplined.counts, fun has => absurd rfl has, disciplined.sent⟩
  | heard message sending hears => exact disciplined.heard hears sending
  | acted game sending playing acts =>
      rw [playing] at disciplined
      exact disciplined.acted acts sending

/-- A client keeps to the protocol, whatever it is told. -/
theorem reaches_disciplined (run : (client settings userId).Reaches before history) :
    Disciplined before history := by
  apply run.invariant
  · rintro start rfl
    exact ⟨fun _ => Nat.le_refl 0, fun has => absurd rfl has, .nil⟩
  · intro before history event after seen _ disciplined taken
    exact disciplined.step (client_step_cases taken)

end RustGameserver.DummyClient
