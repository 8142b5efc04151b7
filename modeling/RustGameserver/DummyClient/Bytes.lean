import RustGameserver.DummyClient.PhaseAgreement
import RustGameserver.Servers.Wire

/-!
Contract: a dummy client and the two sessions that it talks to, over bytes.

Owns:
- the system of the client, one session of each server and the bytes between them;
- that it does nothing which the system over messages does not do, where every message
  fits its frame.

Does not own: messages that the encoder drops.
-/

namespace RustGameserver.DummyClient

open RustGameserver.Foundation
open RustGameserver.Net
open RustGameserver.Proto
open RustGameserver.Servers
open RustGameserver.Session

structure ByteConversation where
  client : Client
  login : Wire LoginServer.Session LoginServer.Work LoginServer.Reply LoginServer.LoginOutcome
  /-- The client has connected to GameServer. -/
  connected : Bool
  game : Wire GameServer.Session GameServer.Work GameServer.Reply GameServer.InnerMessage

inductive ByteEvent where
  | act (event : ConversationEvent)
  /-- Bytes of the connection to this server arrive, at one of its ends. -/
  | arrive (phase : Phase) (atServer : Bool) (count : Nat)

section Carrying

variable {Fields Work Reply Inner DecodeError : Type} (service : Service Fields Work Reply Inner)
  (prost : ProstMessage DecodeError) (phase : Phase)

/-- Carry what a client reads and sends. It reads the message that it decodes next. -/
def carryBytes (wire : Wire Fields Work Reply Inner) :
    List ClientSeen → Option (Wire Fields Work Reply Inner)
  | [] => some wire
  | .received own message :: rest =>
      if own = phase then
        match wire.atEnd service prost .receive with
        | some (after, [.received next]) => if next = message then carryBytes after rest else none
        | _ => none
      else carryBytes wire rest
  | .sent own message :: rest =>
      if own = phase then
        match wire.atEnd service prost (.send message) with
        | some (after, _) => carryBytes after rest
        | none => none
      else carryBytes wire rest

/-- Some bytes arrive at one end. -/
def arriveAt (wire : Wire Fields Work Reply Inner) (atServer : Bool) (count : Nat) :
    Wire Fields Work Reply Inner :=
  if atServer then { wire with toServer := wire.toServer.arrive count }
  else { wire with toClient := wire.toClient.arrive count }

end Carrying

namespace ByteConversation

variable {DecodeError : Type} (settings : ConversationSettings)
  (prost : ProstMessage DecodeError) (state : ByteConversation)

def clientStep (event : ClientEvent) : Option (ByteConversation × List ConversationSeen) :=
  match state.client.step settings.client settings.userId event with
  | none => none
  | some (client, seen) =>
      match carryBytes (LoginServer.service settings.loginKeepAlive) prost .loginServer
            state.login seen,
          carryBytes (GameServer.service settings.gameKeepAlive) prost .gameServer
            state.game seen with
      | some login, some game =>
          let connected := state.connected || event = .connect true
          some ({ client, login, connected, game }, seen.map .client)
      | _, _ => none

def loginStep (event : LinkEvent LoginServer.Reply) :
    Option (ByteConversation × List ConversationSeen) :=
  (state.login.atEnd (LoginServer.service settings.loginKeepAlive) prost event).map
    fun (login, seen) => ({ state with login }, (sessionHistory seen).map .login)

def gameStep (event : LinkEvent GameServer.Reply) :
    Option (ByteConversation × List ConversationSeen) :=
  (state.game.atEnd (GameServer.service settings.gameKeepAlive) prost event).map
    fun (game, seen) => ({ state with game }, (sessionHistory seen).map .game)

def act : ConversationEvent → Option (ByteConversation × List ConversationSeen)
  | .client event => state.clientStep settings prost event
  | .acceptLogin sessionId kick now => state.loginStep settings prost (.accept sessionId kick now)
  | .login event => state.loginStep settings prost (.session event)
  | .acceptGame sessionId kick now =>
      if state.connected then state.gameStep settings prost (.accept sessionId kick now) else none
  | .game event => state.gameStep settings prost (.session event)

def step : ByteEvent → Option (ByteConversation × List ConversationSeen)
  | .act event => state.act settings prost event
  | .arrive .loginServer atServer count =>
      some ({ state with login := arriveAt state.login atServer count }, [])
  | .arrive .gameServer atServer count =>
      some ({ state with game := arriveAt state.game atServer count }, [])

end ByteConversation

/-- The client and its two sessions over bytes, as a machine. -/
def byteConversation {DecodeError : Type} (settings : ConversationSettings)
    (prost : ProstMessage DecodeError) :
    Machine ByteConversation ByteEvent ConversationSeen where
  Initial := fun state => state = ⟨.loginPhase, .opened, false, .opened⟩
  step := ByteConversation.step settings prost

/-! ## One connection -/

/-- The server that an observation of a client is about. -/
def ClientSeen.phase : ClientSeen → Phase
  | .received phase _ | .sent phase _ => phase

theorem sentTo_elsewhere {phase : Phase} {entry : ClientSeen} (other : entry.phase ≠ phase)
    (rest : List ClientSeen) : sentTo phase (entry :: rest) = sentTo phase rest := by
  cases entry with
  | received own message => rfl
  | sent own message =>
      have apart : own ≠ phase := other
      simp [sentTo, apart]

theorem sentTo_sent (phase : Phase) (message : MessageWrapper) (rest : List ClientSeen) :
    sentTo phase (.sent phase message :: rest) = message :: sentTo phase rest := by
  simp [sentTo]

section Parts

variable {Fields Work Reply Inner DecodeError : Type} {service : Service Fields Work Reply Inner}
  {prost : ProstMessage DecodeError} {phase : Phase} {before after : Wire Fields Work Reply Inner}
  {link : Link Fields Work Reply Inner}

/-- What carrying does, entry by entry. -/
inductive CarriedBytes (service : Service Fields Work Reply Inner)
    (prost : ProstMessage DecodeError) (phase : Phase) :
    Wire Fields Work Reply Inner → List ClientSeen → Wire Fields Work Reply Inner → Prop where
  | done (wire : Wire Fields Work Reply Inner) : CarriedBytes service prost phase wire [] wire
  | elsewhere {wire after : Wire Fields Work Reply Inner} {entry : ClientSeen}
      {rest : List ClientSeen} (other : entry.phase ≠ phase)
      (onwards : CarriedBytes service prost phase wire rest after) :
      CarriedBytes service prost phase wire (entry :: rest) after
  | received {wire middle after : Wire Fields Work Reply Inner} {message : MessageWrapper}
      {rest : List ClientSeen}
      (acted : WireActed service prost wire .receive middle [.received message])
      (onwards : CarriedBytes service prost phase middle rest after) :
      CarriedBytes service prost phase wire (.received phase message :: rest) after
  | sent {wire middle after : Wire Fields Work Reply Inner} {message : MessageWrapper}
      {rest : List ClientSeen} (carries : message.payload.isSome)
      (acted : WireActed service prost wire (.send message) middle [.sent message])
      (onwards : CarriedBytes service prost phase middle rest after) :
      CarriedBytes service prost phase wire (.sent phase message :: rest) after

theorem carryBytes_cases {seen : List ClientSeen}
    (taken : carryBytes service prost phase before seen = some after) :
    CarriedBytes service prost phase before seen after := by
  induction seen generalizing before with
  | nil =>
      cases taken
      exact .done _
  | cons entry rest inductionHypothesis =>
      cases entry with
      | received own message =>
          rw [carryBytes] at taken
          split at taken
          · next same =>
              split at taken
              · next middle next acted =>
                  rw [Option.ite_none_right_eq_some] at taken
                  obtain ⟨rfl, onwards⟩ := taken
                  rw [same]
                  exact .received (atEnd_cases acted) (inductionHypothesis onwards)
              · contradiction
          · next other => exact .elsewhere other (inductionHypothesis taken)
      | sent own message =>
          rw [carryBytes] at taken
          split at taken
          · next same =>
              split at taken
              · next middle made acted =>
                  rw [same]
                  cases atEnd_cases acted with
                  | sent message carries =>
                      exact .sent carries (.sent message carries) (inductionHypothesis taken)
              · contradiction
          · next other => exact .elsewhere other (inductionHypothesis taken)

/-- Only a message that has a payload can be sent. -/
theorem CarriedBytes.payload {seen : List ClientSeen}
    (carried : CarriedBytes service prost phase before seen after) :
    ∀ message ∈ sentTo phase seen, message.payload.isSome := by
  induction carried with
  | done =>
      intro message member
      contradiction
  | elsewhere other _ inductionHypothesis =>
      rw [sentTo_elsewhere other]
      exact inductionHypothesis
  | received _ _ inductionHypothesis => exact inductionHypothesis
  | sent carries _ _ inductionHypothesis =>
      intro message member
      rw [sentTo_sent, List.mem_cons] at member
      rcases member with rfl | later
      · exact carries
      · exact inductionHypothesis message later

/-- What a client reads and sends over bytes it reads and sends over messages. -/
theorem CarriedBytes.conveys {seen : List ClientSeen}
    (carried : CarriedBytes service prost phase before seen after)
    (conveys : Conveys prost before link)
    (fine : ∀ message ∈ sentTo phase seen, (framing prost).Carried message) :
    ∃ next, carry service phase link seen = some next ∧ Conveys prost after next := by
  induction carried generalizing link with
  | done => exact ⟨link, rfl, conveys⟩
  | @elsewhere _ _ entry rest other _ inductionHypothesis =>
      rw [sentTo_elsewhere other] at fine
      obtain ⟨next, onwards, last⟩ := inductionHypothesis conveys fine
      refine ⟨next, ?_, last⟩
      cases entry with
      | received own message | sent own message =>
          have apart : own ≠ phase := other
          rw [carry, if_neg apart]
          exact onwards
  | @received _ _ _ message _ acted _ inductionHypothesis =>
      have nothing : written
          [(.received message : LinkSeen Fields Work Reply Inner)] = [] := rfl
      obtain ⟨between, taken, further⟩ := conveys.acted acted (by simp [nothing])
      obtain ⟨next, onwards, last⟩ := inductionHypothesis further fine
      refine ⟨next, ?_, last⟩
      simp only [carry, taken, onwards, if_true]
  | @sent _ _ _ message rest carries acted _ inductionHypothesis =>
      rw [sentTo_sent] at fine
      have own : ∀ other ∈ written [(.sent message : LinkSeen Fields Work Reply Inner)],
          (framing prost).Carried other := by
        intro other member
        have same : other ∈ [message] := member
        rw [List.mem_singleton] at same
        rw [same]
        exact fine message List.mem_cons_self
      obtain ⟨between, taken, further⟩ := conveys.acted acted own
      obtain ⟨next, onwards, last⟩ := inductionHypothesis further
        fun other member => fine other (List.mem_cons_of_mem _ member)
      refine ⟨next, ?_, last⟩
      simp only [carry, taken, onwards, if_true]

/-- Bytes that arrive are still those of the same messages. -/
theorem arriveAt_conveys (conveys : Conveys prost before link) (atServer : Bool) (count : Nat) :
    Conveys prost (arriveAt before atServer count) link := by
  cases atServer with
  | true =>
      exact ⟨conveys.session, conveys.toServer.arrive count, conveys.toClient, conveys.read⟩
  | false =>
      exact ⟨conveys.session, conveys.toServer, conveys.toClient.arrive count, conveys.read⟩

end Parts

/-! ## The whole system -/

section Refinement

variable {DecodeError : Type} {settings : ConversationSettings} {prost : ProstMessage DecodeError}
  {before after : ByteConversation} {history seen : List ConversationSeen}

/-- Every message that an end has written. -/
def exchanged (history : List ConversationSeen) : List MessageWrapper :=
  sentTo .loginServer (clientHistory history) ++ sentTo .gameServer (clientHistory history) ++
    (fed (loginHistory history) ++ fed (gameHistory history))

theorem mem_exchanged_append {message : MessageWrapper} :
    message ∈ exchanged (history ++ seen) ↔
      message ∈ exchanged history ∨ message ∈ exchanged seen := by
  simp only [exchanged, clientHistory_append, loginHistory, gameHistory, List.filterMap_append,
    sessionHistory_append, fed_append, sentTo_append, List.mem_append]
  grind

/-- The system over messages that is where the system over bytes is. -/
structure Follows (settings : ConversationSettings) (prost : ProstMessage DecodeError)
    (bytes : ByteConversation) (messages : Conversation) : Prop where
  client : messages.client = bytes.client
  connected : messages.connected = bytes.connected
  login : Conveys prost bytes.login messages.login
  game : Conveys prost bytes.game messages.game

/-- A message that fits its frame is carried. -/
theorem carried_of_fits {message : MessageWrapper} (faithful : prost.Faithful message)
    (fit : fits prost message = true) (carries : message.payload.isSome) :
    (framing prost).Carried message :=
  sound_of_faithful faithful carries ((writes_eq_fits message).trans fit)

/-- What a server does over bytes it does over messages. -/
theorem served {Fields Work Reply Inner : Type} {service : Service Fields Work Reply Inner}
    {wire next : Wire Fields Work Reply Inner} {link : Link Fields Work Reply Inner}
    {earlier made : List (LinkSeen Fields Work Reply Inner)} {action : LinkEvent Reply}
    (conveys : Conveys prost wire link) (run : (Session.link service).Reaches link earlier)
    (atServer : action.atServer = true)
    (taken : wire.atEnd service prost action = some (next, made))
    (faithful : ∀ message ∈ fed (sessionHistory made), prost.Faithful message)
    (fit : ∀ message ∈ fed (sessionHistory made), fits prost message = true) :
    ∃ later, link.step service action = some (later, made) ∧ Conveys prost next later := by
  have acted := atEnd_cases taken
  apply conveys.acted acted
  intro message member
  cases acted with
  | accepted => contradiction
  | @ran task last made _ event present _ stepped =>
      rw [written, sentMessages_session, List.nil_append] at member
      have there : link.session = some task := conveys.session.trans present
      apply carried_of_fits (faithful message member) (fit message member)
      have further : (machine service).Reaches last _ := (reaches_linked run there).step stepped
      apply session_payload further
      rw [fed_append, List.mem_append]
      exact .inr (by rwa [sessionHistory_session] at member)
  | sent | received => contradiction

/-- What is observed of a session over bytes is what it feeds. -/
theorem exchanged_login (made : List LoginSessionSeen) :
    exchanged (made.map .login) = fed made := by
  have client : clientHistory (made.map .login) = [] :=
    filterMap_wrapped ConversationSeen.login _ (fun _ => rfl) made
  have game : gameHistory (made.map .login) = [] := by
    rw [gameHistory, filterMap_wrapped ConversationSeen.login _ (fun _ => rfl) made]
    rfl
  have login : loginHistory (made.map .login) = made := by
    rw [loginHistory, filterMap_rewrapped ConversationSeen.login .session
      ConversationSeen.ofLogin fun _ => rfl]
    exact sessionHistory_session made
  rw [exchanged, client, game, login]
  exact List.append_nil _

theorem exchanged_game (made : List GameSessionSeen) : exchanged (made.map .game) = fed made := by
  have client : clientHistory (made.map .game) = [] :=
    filterMap_wrapped ConversationSeen.game _ (fun _ => rfl) made
  have login : loginHistory (made.map .game) = [] := by
    rw [loginHistory, filterMap_wrapped ConversationSeen.game _ (fun _ => rfl) made]
    rfl
  have game : gameHistory (made.map .game) = made := by
    rw [gameHistory, filterMap_rewrapped ConversationSeen.game .session
      ConversationSeen.ofGame fun _ => rfl]
    exact sessionHistory_session made
  rw [exchanged, client, game, login]
  rfl

theorem sentTo_exchanged {made : List ClientSeen} {phase : Phase} {message : MessageWrapper}
    (member : message ∈ sentTo phase made) : message ∈ exchanged (made.map .client) := by
  have client : clientHistory (made.map .client) = made :=
    filterMap_unwrapped ConversationSeen.client ConversationSeen.ofClient (fun _ => rfl) made
  rw [exchanged, client, List.mem_append, List.mem_append]
  cases phase with
  | loginServer => exact .inl (.inl member)
  | gameServer => exact .inl (.inr member)

variable {messages : Conversation}

theorem Follows.arrive (follows : Follows settings prost before messages) (phase : Phase)
    (atServer : Bool) (count : Nat)
    (taken : before.step settings prost (.arrive phase atServer count) = some (after, seen)) :
    seen = [] ∧ Follows settings prost after messages := by
  cases phase with
  | loginServer =>
      cases taken
      refine ⟨rfl, follows.client, follows.connected, ?_, follows.game⟩
      exact arriveAt_conveys follows.login atServer count
  | gameServer =>
      cases taken
      refine ⟨rfl, follows.client, follows.connected, follows.login, ?_⟩
      exact arriveAt_conveys follows.game atServer count

theorem Follows.clientStep (follows : Follows settings prost before messages)
    {event : ClientEvent} (taken : before.clientStep settings prost event = some (after, seen))
    (faithful : ∀ message ∈ exchanged seen, prost.Faithful message)
    (fit : ∀ message ∈ exchanged seen, fits prost message = true) :
    ∃ next, messages.clientStep settings event = some (next, seen) ∧
      Follows settings prost after next := by
  simp only [ByteConversation.clientStep] at taken
  split at taken
  · contradiction
  · next client made stepped =>
      split at taken
      · next login game toLogin toGame =>
          cases taken
          have loginBytes := carryBytes_cases toLogin
          have gameBytes := carryBytes_cases toGame
          have fine {phase : Phase} {message : MessageWrapper}
              (member : message ∈ sentTo phase made)
              (carries : message.payload.isSome) : (framing prost).Carried message :=
            carried_of_fits (faithful message (sentTo_exchanged member))
              (fit message (sentTo_exchanged member)) carries
          obtain ⟨nextLogin, loginTaken, loginLater⟩ := loginBytes.conveys follows.login
            fun message member => fine member (loginBytes.payload message member)
          obtain ⟨nextGame, gameTaken, gameLater⟩ := gameBytes.conveys follows.game
            fun message member => fine member (gameBytes.payload message member)
          refine ⟨⟨client, nextLogin, messages.connected || event = .connect true, nextGame⟩, ?_,
            rfl, ?_, loginLater, gameLater⟩
          · simp only [Conversation.clientStep, follows.client, stepped, loginTaken, gameTaken]
          · simp only [follows.connected]
      · contradiction

theorem Follows.loginStep (follows : Follows settings prost before messages)
    (run : (conversation settings).Reaches messages history)
    {action : LinkEvent LoginServer.Reply} (atServer : action.atServer = true)
    (taken : before.loginStep settings prost action = some (after, seen))
    (faithful : ∀ message ∈ exchanged seen, prost.Faithful message)
    (fit : ∀ message ∈ exchanged seen, fits prost message = true) :
    ∃ next, messages.loginStep settings action = some (next, seen) ∧
      Follows settings prost after next := by
  obtain ⟨⟨login, made⟩, acted, outcome⟩ := Option.map_eq_some_iff.mp taken
  cases outcome
  rw [exchanged_login] at faithful fit
  obtain ⟨later, stepped, further⟩ :=
    served follows.login (reaches_loginLink run) atServer acted faithful fit
  refine ⟨{ messages with login := later }, ?_, follows.client, follows.connected, further,
    follows.game⟩
  simp only [Conversation.loginStep, stepped, Option.map_some]

theorem Follows.gameStep (follows : Follows settings prost before messages)
    (run : (conversation settings).Reaches messages history)
    {action : LinkEvent GameServer.Reply} (atServer : action.atServer = true)
    (taken : before.gameStep settings prost action = some (after, seen))
    (faithful : ∀ message ∈ exchanged seen, prost.Faithful message)
    (fit : ∀ message ∈ exchanged seen, fits prost message = true) :
    ∃ next, messages.gameStep settings action = some (next, seen) ∧
      Follows settings prost after next := by
  obtain ⟨⟨game, made⟩, acted, outcome⟩ := Option.map_eq_some_iff.mp taken
  cases outcome
  rw [exchanged_game] at faithful fit
  obtain ⟨later, stepped, further⟩ :=
    served follows.game (reaches_gameLink run) atServer acted faithful fit
  refine ⟨{ messages with game := later }, ?_, follows.client, follows.connected, follows.login,
    further⟩
  simp only [Conversation.gameStep, stepped, Option.map_some]

/-- What one step over bytes does one step over messages does, unless bytes only arrive. -/
theorem Follows.act (follows : Follows settings prost before messages)
    (run : (conversation settings).Reaches messages history) {event : ConversationEvent}
    (taken : before.act settings prost event = some (after, seen))
    (faithful : ∀ message ∈ exchanged seen, prost.Faithful message)
    (fit : ∀ message ∈ exchanged seen, fits prost message = true) :
    ∃ next, messages.step settings event = some (next, seen) ∧
      Follows settings prost after next := by
  cases event with
  | client event => exact follows.clientStep taken faithful fit
  | acceptLogin sessionId kick now => exact follows.loginStep run rfl taken faithful fit
  | login event => exact follows.loginStep run rfl taken faithful fit
  | acceptGame sessionId kick now =>
      simp only [ByteConversation.act, Option.ite_none_right_eq_some] at taken
      simp only [Conversation.step, follows.connected, taken.1, if_true]
      exact follows.gameStep run rfl taken.2 faithful fit
  | game event => exact follows.gameStep run rfl taken faithful fit

/-- However the bytes between a client and the servers are cut and whenever they arrive, the
system does nothing that it does not do with whole messages, provided the encoder drops none and
`prost` reads back every message exchanged as it was, which leaves out a float of `-0.0`: every
run over bytes is, observation by observation, a run over messages, with the same client and
the same sessions. -/
theorem bytes_refine_messages (run : (byteConversation settings prost).Reaches before history)
    (faithful : ∀ message ∈ exchanged history, prost.Faithful message)
    (fit : ∀ message ∈ exchanged history, fits prost message = true) :
    ∃ messages, (conversation settings).Reaches messages history ∧
      Follows settings prost before messages := by
  induction run with
  | initial start =>
      cases start
      exact ⟨⟨.loginPhase, .opened, false, .opened⟩, .initial rfl, rfl, rfl,
        conveys_opened, conveys_opened⟩
  | @step before after history seen event _ taken inductionHypothesis =>
      obtain ⟨messages, reached, follows⟩ := inductionHypothesis
        (fun message member => faithful message (mem_exchanged_append.mpr (.inl member)))
        (fun message member => fit message (mem_exchanged_append.mpr (.inl member)))
      cases event with
      | arrive phase atServer count =>
          obtain ⟨rfl, further⟩ := follows.arrive phase atServer count taken
          rw [List.append_nil]
          exact ⟨messages, reached, further⟩
      | act event =>
          have acted : before.act settings prost event = some (after, seen) := taken
          obtain ⟨next, stepped, further⟩ := follows.act reached acted
            (fun message member => faithful message (mem_exchanged_append.mpr (.inr member)))
            (fun message member => fit message (mem_exchanged_append.mpr (.inr member)))
          exact ⟨next, reached.step stepped, further⟩

/-- A client is greeted, and asks for a login in two pieces. -/
def loginOverBytes : List ByteEvent :=
  [.act (.acceptLogin 1 ⟨0⟩ 0), .act (.login .greet), .act (.login (.write (.recv true))),
    .arrive .loginServer false 3, .arrive .loginServer false 1,
    .act (.client (.next 1 (some (wrap (.connectedResponse ⟨0⟩))) .done)),
    .act (.login (.poll false)), .arrive .loginServer true 7, .act (.login (.select 1 none)),
    .arrive .loginServer true 7, .act (.login (.poll false)),
    .act (.login (.select 2 (some (.message (wrap (.loginRequest ⟨"", [1]⟩))))))]

theorem bytes_refine_messages_login :
    ∃ state history messages,
      (byteConversation ⟨⟨[1]⟩, "", 10, 10⟩ MessageCodec.sampleProst).exec
        ⟨.loginPhase, .opened, false, .opened⟩ loginOverBytes = some (state, history) ∧
      (conversation ⟨⟨[1]⟩, "", 10, 10⟩).Reaches messages history ∧
      messages.login.session = state.login.session ∧
      handledMessages (loginHistory history) = [wrap (.loginRequest ⟨"", [1]⟩)] := by
  have runs : ∃ state history,
      (byteConversation ⟨⟨[1]⟩, "", 10, 10⟩ MessageCodec.sampleProst).exec
        ⟨.loginPhase, .opened, false, .opened⟩ loginOverBytes = some (state, history) ∧
      exchanged history = [wrap (.loginRequest ⟨"", [1]⟩), wrap (.connectedResponse ⟨0⟩)] ∧
      handledMessages (loginHistory history) = [wrap (.loginRequest ⟨"", [1]⟩)] :=
    ⟨_, _, rfl, rfl, rfl⟩
  obtain ⟨state, history, executed, all, handled⟩ := runs
  have run : (byteConversation ⟨⟨[1]⟩, "", 10, 10⟩ MessageCodec.sampleProst).Reaches state
      history := Machine.reaches_of_exec rfl executed
  have faithful : ∀ message ∈ exchanged history, MessageCodec.sampleProst.Faithful message := by
    intro message member
    rw [all, List.mem_cons, List.mem_singleton] at member
    rcases member with rfl | rfl <;>
      exact ⟨rfl, rfl, fun _ => by
        simp [wrap, MessageCodec.sampleProst, MessageCodec.sampleProst.sampleEncode]⟩
  have fit : ∀ message ∈ exchanged history, fits MessageCodec.sampleProst message = true := by
    intro message member
    rw [all, List.mem_cons, List.mem_singleton] at member
    rcases member with rfl | rfl <;> rfl
  obtain ⟨messages, reached, follows⟩ := bytes_refine_messages run faithful fit
  exact ⟨state, history, messages, executed, reached, follows.login.session, handled⟩

end Refinement

end RustGameserver.DummyClient
