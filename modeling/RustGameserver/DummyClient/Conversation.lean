import RustGameserver.DummyClient.Discipline

/-!
Contract: a dummy client and the two sessions that it talks to.

Owns:
- the system of the client, one session of each server and the connections between
  them, in which every party takes its steps at any time;
- the projections of a run to the client and to both connections.

Does not own: the other sessions of the servers, of which a session only notices that
it is kicked.
-/

namespace RustGameserver.DummyClient

open RustGameserver.Foundation
open RustGameserver.Net
open RustGameserver.Proto
open RustGameserver.Session

abbrev LoginLink : Type :=
  Link LoginServer.Session LoginServer.Work LoginServer.Reply LoginServer.LoginOutcome

abbrev GameLink : Type :=
  Link GameServer.Session GameServer.Work GameServer.Reply GameServer.InnerMessage

abbrev LoginSessionSeen : Type :=
  Seen LoginServer.Session LoginServer.Work LoginServer.Reply LoginServer.LoginOutcome

abbrev GameSessionSeen : Type :=
  Seen GameServer.Session GameServer.Work GameServer.Reply GameServer.InnerMessage

structure ConversationSettings where
  client : ClientSettings
  userId : String
  loginKeepAlive : Nat
  gameKeepAlive : Nat

structure Conversation where
  client : Client
  login : LoginLink
  /-- The client has connected to GameServer. -/
  connected : Bool
  game : GameLink

inductive ConversationEvent where
  | client (event : ClientEvent)
  | acceptLogin (sessionId : SessionId) (kick : KickToken) (now : Nat)
  | login (event : Event LoginServer.Reply)
  | acceptGame (sessionId : SessionId) (kick : KickToken) (now : Nat)
  | game (event : Event GameServer.Reply)

inductive ConversationSeen where
  | client (seen : ClientSeen)
  | login (seen : LoginSessionSeen)
  | game (seen : GameSessionSeen)

section Carrying

variable {Fields Work Reply Inner : Type} (service : Service Fields Work Reply Inner)
  (phase : Phase)

/-- What an observation of a client does to its connection to a server. -/
def ClientSeen.transport (Reply : Type) (phase : Phase) : ClientSeen → Option (LinkEvent Reply)
  | .received own _ => if own = phase then some .receive else none
  | .sent own message => if own = phase then some (.send message) else none

/-- What is observed of the connection then. -/
def ClientSeen.transported (Fields Work Reply Inner : Type) (phase : Phase) :
    ClientSeen → Option (LinkSeen Fields Work Reply Inner)
  | .received own message => if own = phase then some (.received message) else none
  | .sent own message => if own = phase then some (.sent message) else none

/-- Carry what a client reads and sends. It reads the message that comes next. -/
def carry (link : Link Fields Work Reply Inner) :
    List ClientSeen → Option (Link Fields Work Reply Inner)
  | [] => some link
  | .received own message :: rest =>
      if own = phase then
        match link.step service .receive with
        | some (after, [.received next]) => if next = message then carry after rest else none
        | _ => none
      else carry link rest
  | .sent own message :: rest =>
      if own = phase then
        match link.step service (.send message) with
        | some (after, _) => carry after rest
        | none => none
      else carry link rest

end Carrying

namespace Conversation

variable (settings : ConversationSettings) (state : Conversation)

def clientStep (event : ClientEvent) : Option (Conversation × List ConversationSeen) :=
  match state.client.step settings.client settings.userId event with
  | none => none
  | some (client, seen) =>
      match carry (LoginServer.service settings.loginKeepAlive) .loginServer state.login seen,
          carry (GameServer.service settings.gameKeepAlive) .gameServer state.game seen with
      | some login, some game =>
          let connected := state.connected || event = .connect true
          some ({ client, login, connected, game }, seen.map .client)
      | _, _ => none

def loginStep (event : LinkEvent LoginServer.Reply) :
    Option (Conversation × List ConversationSeen) :=
  (state.login.step (LoginServer.service settings.loginKeepAlive) event).map fun (login, seen) =>
    ({ state with login }, (sessionHistory seen).map .login)

def gameStep (event : LinkEvent GameServer.Reply) :
    Option (Conversation × List ConversationSeen) :=
  (state.game.step (GameServer.service settings.gameKeepAlive) event).map fun (game, seen) =>
    ({ state with game }, (sessionHistory seen).map .game)

def step : ConversationEvent → Option (Conversation × List ConversationSeen)
  | .client event => state.clientStep settings event
  | .acceptLogin sessionId kick now => state.loginStep settings (.accept sessionId kick now)
  | .login event => state.loginStep settings (.session event)
  | .acceptGame sessionId kick now =>
      if state.connected then state.gameStep settings (.accept sessionId kick now) else none
  | .game event => state.gameStep settings (.session event)

end Conversation

/-- The client and its two sessions as a machine. The client has just connected to
LoginServer. -/
def conversation (settings : ConversationSettings) :
    Machine Conversation ConversationEvent ConversationSeen where
  Initial := fun state => state = ⟨.loginPhase, .opened, false, .opened⟩
  step := Conversation.step settings

/-! ## The steps of the parts -/

section Parts

variable {Fields Work Reply Inner : Type} {service : Service Fields Work Reply Inner}
  {phase : Phase} {link after : Link Fields Work Reply Inner}

/-- Carrying what a client reads and sends is a run of its connection. -/
theorem carry_exec {seen : List ClientSeen} (carried : carry service phase link seen = some after) :
    (Session.link service).exec link (seen.filterMap (ClientSeen.transport Reply phase)) =
      some (after, seen.filterMap (ClientSeen.transported Fields Work Reply Inner phase)) := by
  induction seen generalizing link with
  | nil =>
      cases carried
      rfl
  | cons entry rest inductionHypothesis =>
      cases entry with
      | received own message =>
          rw [carry] at carried
          split at carried
          · next same =>
              split at carried
              · next middle next taken =>
                  rw [Option.ite_none_right_eq_some] at carried
                  obtain ⟨rfl, onwards⟩ := carried
                  have received : (Session.link service).step link .receive =
                      some (middle, [.received next]) := taken
                  simp [ClientSeen.transport, ClientSeen.transported, same, Machine.exec,
                    received, inductionHypothesis onwards]
              · contradiction
          · next other =>
              simpa [ClientSeen.transport, ClientSeen.transported, other] using
                inductionHypothesis carried
      | sent own message =>
          rw [carry] at carried
          split at carried
          · next same =>
              cases carried' : link.step service (.send message) with
              | none =>
                  rw [carried'] at carried
                  contradiction
              | some moved =>
                  cases carried'
                  have sent : (Session.link service).step link (.send message) =
                      some ({ link with underway := link.underway ++ [message] },
                        [.sent message]) := rfl
                  simp [ClientSeen.transport, ClientSeen.transported, same, Machine.exec,
                    sent, inductionHypothesis carried]
          · next other =>
              simpa [ClientSeen.transport, ClientSeen.transported, other] using
                inductionHypothesis carried

/-- What the server does at its end of a connection is observed of its session. -/
theorem server_seen {event : LinkEvent Reply} {seen : List (LinkSeen Fields Work Reply Inner)}
    (atServer : event.atServer = true)
    (taken : link.step service event = some (after, seen)) :
    seen = (sessionHistory seen).map .session := by
  cases event with
  | accept =>
      simp only [Link.step] at taken
      split at taken
      · contradiction
      · cases taken
        rfl
  | session event =>
      simp only [Link.step] at taken
      split at taken
      · rw [Option.map_eq_some_iff] at taken
        obtain ⟨made, _, outcome⟩ := taken
        cases outcome
        rw [sessionHistory_session]
      · contradiction
  | send | receive => contradiction

end Parts

/-- What one step of a conversation can do. -/
inductive ConversationStepped (settings : ConversationSettings) (state : Conversation) :
    Conversation → List ConversationSeen → Prop where
  | client {client : Client} {login : LoginLink} {game : GameLink} {seen : List ClientSeen}
      (event : ClientEvent) (connected : Bool)
      (taken : state.client.step settings.client settings.userId event = some (client, seen))
      (toLogin : carry (LoginServer.service settings.loginKeepAlive) .loginServer state.login seen =
        some login)
      (toGame : carry (GameServer.service settings.gameKeepAlive) .gameServer state.game seen =
        some game) :
      ConversationStepped settings state ⟨client, login, connected, game⟩ (seen.map .client)
  | login {login : LoginLink} {seen : List LoginSessionSeen} (event : LinkEvent LoginServer.Reply)
      (taken : state.login.step (LoginServer.service settings.loginKeepAlive) event =
        some (login, seen.map .session)) :
      ConversationStepped settings state { state with login } (seen.map .login)
  | game {game : GameLink} {seen : List GameSessionSeen} (event : LinkEvent GameServer.Reply)
      (taken : state.game.step (GameServer.service settings.gameKeepAlive) event =
        some (game, seen.map .session)) :
      ConversationStepped settings state { state with game } (seen.map .game)

variable {settings : ConversationSettings} {state after : Conversation}
  {history seen : List ConversationSeen}

theorem loginStep_cases {event : LinkEvent LoginServer.Reply}
    (atServer : event.atServer = true)
    (taken : state.loginStep settings event = some (after, seen)) :
    ConversationStepped settings state after seen := by
  obtain ⟨⟨login, made⟩, stepped, outcome⟩ := Option.map_eq_some_iff.mp taken
  cases outcome
  rw [server_seen atServer stepped] at stepped
  exact .login event stepped

theorem gameStep_cases {event : LinkEvent GameServer.Reply}
    (atServer : event.atServer = true)
    (taken : state.gameStep settings event = some (after, seen)) :
    ConversationStepped settings state after seen := by
  obtain ⟨⟨game, made⟩, stepped, outcome⟩ := Option.map_eq_some_iff.mp taken
  cases outcome
  rw [server_seen atServer stepped] at stepped
  exact .game event stepped

theorem conversation_step_cases {event : ConversationEvent}
    (taken : state.step settings event = some (after, seen)) :
    ConversationStepped settings state after seen := by
  cases event with
  | client event =>
      simp only [Conversation.step, Conversation.clientStep] at taken
      split at taken
      · contradiction
      · next client made stepped =>
          split at taken
          · next login game toLogin toGame =>
              cases taken
              exact .client event _ stepped toLogin toGame
          · contradiction
  | acceptLogin sessionId kick now => exact loginStep_cases rfl taken
  | login event => exact loginStep_cases rfl taken
  | acceptGame sessionId kick now =>
      simp only [Conversation.step, Option.ite_none_right_eq_some] at taken
      exact gameStep_cases rfl taken.2
  | game event => exact gameStep_cases rfl taken

/-! ## The runs of the parts -/

def ConversationSeen.ofClient : ConversationSeen → Option ClientSeen
  | .client seen => some seen
  | .login _ | .game _ => none

/-- What is observed of the connection to LoginServer. -/
def ConversationSeen.ofLogin : ConversationSeen →
    Option (LinkSeen LoginServer.Session LoginServer.Work LoginServer.Reply
      LoginServer.LoginOutcome)
  | .client seen => seen.transported _ _ _ _ .loginServer
  | .login seen => some (.session seen)
  | .game _ => none

/-- What is observed of the connection to GameServer. -/
def ConversationSeen.ofGame : ConversationSeen →
    Option (LinkSeen GameServer.Session GameServer.Work GameServer.Reply GameServer.InnerMessage)
  | .client seen => seen.transported _ _ _ _ .gameServer
  | .login _ => none
  | .game seen => some (.session seen)

/-- The history of the client. -/
def clientHistory (history : List ConversationSeen) : List ClientSeen :=
  history.filterMap ConversationSeen.ofClient

/-- The history of the LoginServer session. -/
def loginHistory (history : List ConversationSeen) : List LoginSessionSeen :=
  sessionHistory (history.filterMap ConversationSeen.ofLogin)

/-- The history of the GameServer session. -/
def gameHistory (history : List ConversationSeen) : List GameSessionSeen :=
  sessionHistory (history.filterMap ConversationSeen.ofGame)

theorem conversation_projects_client (settings : ConversationSettings) :
    (conversation settings).Projects (client settings.client settings.userId)
      (fun state => some state.client) ConversationSeen.ofClient := by
  apply Machine.Projects.component
  · rintro state rfl
    rfl
  · intro before event after seen taken
    cases conversation_step_cases taken with
    | client event connected stepped =>
        rw [filterMap_unwrapped ConversationSeen.client ConversationSeen.ofClient fun _ => rfl]
        exact .one stepped
    | login | game => exact .rests rfl (by simp [ConversationSeen.ofClient])

theorem conversation_projects_login (settings : ConversationSettings) :
    (conversation settings).Projects
      (Session.link (LoginServer.service settings.loginKeepAlive))
      (fun state => some state.login) ConversationSeen.ofLogin := by
  apply Machine.Projects.component
  · rintro state rfl
    rfl
  · intro before event after seen taken
    cases conversation_step_cases taken with
    | client event connected stepped toLogin =>
        rw [List.filterMap_map]
        exact .steps rfl (carry_exec toLogin)
    | login event stepped =>
        rw [filterMap_rewrapped ConversationSeen.login .session ConversationSeen.ofLogin
          fun _ => rfl]
        exact .one stepped
    | game => exact .rests rfl (by simp [ConversationSeen.ofLogin])

theorem conversation_projects_game (settings : ConversationSettings) :
    (conversation settings).Projects
      (Session.link (GameServer.service settings.gameKeepAlive))
      (fun state => some state.game) ConversationSeen.ofGame := by
  apply Machine.Projects.component
  · rintro state rfl
    rfl
  · intro before event after seen taken
    cases conversation_step_cases taken with
    | client event connected stepped toLogin toGame =>
        rw [List.filterMap_map]
        exact .steps rfl (carry_exec toGame)
    | login => exact .rests rfl (by simp [ConversationSeen.ofGame])
    | game event stepped =>
        rw [filterMap_rewrapped ConversationSeen.game .session ConversationSeen.ofGame fun _ => rfl]
        exact .one stepped

theorem reaches_client (run : (conversation settings).Reaches state history) :
    (client settings.client settings.userId).Reaches state.client (clientHistory history) :=
  (conversation_projects_client settings).reaches run rfl

theorem reaches_loginLink (run : (conversation settings).Reaches state history) :
    (Session.link (LoginServer.service settings.loginKeepAlive)).Reaches state.login
      (history.filterMap ConversationSeen.ofLogin) :=
  (conversation_projects_login settings).reaches run rfl

theorem reaches_gameLink (run : (conversation settings).Reaches state history) :
    (Session.link (GameServer.service settings.gameKeepAlive)).Reaches state.game
      (history.filterMap ConversationSeen.ofGame) :=
  (conversation_projects_game settings).reaches run rfl

/-! ## What the client and the connections have in common -/

section Reading

variable {β δ : Type} {ofServer : ConversationSeen → Option β} {first : β → Option δ}
  {second : ClientSeen → Option δ}

/-- What only the client adds to a connection is read off its own history. -/
theorem read_client (client : ∀ seen, (ofServer (.client seen)).bind first = second seen)
    (login : ∀ seen, (ofServer (.login seen)).bind first = none)
    (game : ∀ seen, (ofServer (.game seen)).bind first = none)
    (history : List ConversationSeen) :
    (history.filterMap ofServer).filterMap first = (clientHistory history).filterMap second := by
  have same : ∀ entry, (ofServer entry).bind first = entry.ofClient.bind second := by
    intro entry
    cases entry with
    | client seen => exact client seen
    | login seen => exact login seen
    | game seen => exact game seen
  rw [clientHistory, List.filterMap_filterMap, List.filterMap_filterMap]
  exact congrArg (fun read => history.filterMap read) (funext same)

end Reading

/-- What has been sent over a connection is what the client has sent to that server. -/
theorem sent_login (history : List ConversationSeen) :
    sentMessages (history.filterMap ConversationSeen.ofLogin) =
      sentTo .loginServer (clientHistory history) := by
  apply read_client _ (fun _ => rfl) (fun _ => rfl)
  intro seen
  cases seen with
  | sent own message | received own message => cases own <;> rfl

theorem sent_game (history : List ConversationSeen) :
    sentMessages (history.filterMap ConversationSeen.ofGame) =
      sentTo .gameServer (clientHistory history) := by
  apply read_client _ (fun _ => rfl) (fun _ => rfl)
  intro seen
  cases seen with
  | sent own message | received own message => cases own <;> rfl

theorem received_login (history : List ConversationSeen) :
    receivedMessages (history.filterMap ConversationSeen.ofLogin) =
      receivedFrom .loginServer (clientHistory history) := by
  apply read_client _ (fun _ => rfl) (fun _ => rfl)
  intro seen
  cases seen with
  | sent own message | received own message => cases own <;> rfl

theorem received_game (history : List ConversationSeen) :
    receivedMessages (history.filterMap ConversationSeen.ofGame) =
      receivedFrom .gameServer (clientHistory history) := by
  apply read_client _ (fun _ => rfl) (fun _ => rfl)
  intro seen
  cases seen with
  | sent own message | received own message => cases own <;> rfl

end RustGameserver.DummyClient
