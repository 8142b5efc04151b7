import RustGameserver.Admin.Access
import RustGameserver.Admin.Handlers
import RustGameserver.LoginServer.Session
import RustGameserver.Session.Cancellation

/-!
Contract: the AdminApi over the LoginServer it belongs to.

Owns:
- requests whose handlers read and disconnect the sessions of the LoginServer, publish
  notices and wait for the database;
- that the AdminApi and the LoginServer run in it as they do by themselves;
- that sessions are disconnected and notices published for admitted requests only.

Does not own: what the answers say about the sessions, who receives a notice.
-/

namespace RustGameserver.Admin

open RustGameserver.Db
open RustGameserver.Foundation
open RustGameserver.Net
open RustGameserver.Session

/-- What a handler waits for. -/
inductive Wait where
  | publishing (message : String)
  | selecting (select : ScoreSelect)
  | checking
deriving DecidableEq

inductive HandlerPhase where
  | waits (wait : Wait)
  | answered (answer : Answer)
deriving DecidableEq

abbrev LoginState : Type :=
  ServerState LoginServer.Session LoginServer.Work LoginServer.Reply LoginServer.LoginOutcome

abbrev LoginSeen : Type :=
  ServerSeen LoginServer.Session LoginServer.Work LoginServer.Reply LoginServer.LoginOutcome

structure Operations where
  api : AdminApi
  server : LoginState
  /-- The handlers behind `require_session_key` that have begun. -/
  handlers : FiniteMap RequestId HandlerPhase

inductive OperationEvent where
  | api (event : AdminEvent)
  | server (event : ServerEvent LoginServer.Reply)
  | handler (id : RequestId)
  /-- the end of a PUBLISH -/
  | publish (id : RequestId) (reply : Reply)
  /-- the rows of a SELECT; `none` if it failed -/
  | select (id : RequestId) (rows : Option (List ScoreDto))
  | check (id : RequestId) (dbOk redisOk : Bool)

inductive OperationSeen where
  | api (seen : AdminSeen)
  | server (seen : LoginSeen)
  | disconnected (id : RequestId) (sessionId : SessionId) (found : Bool)
  | published (id : RequestId) (message : String)
  | answered (id : RequestId) (answer : Answer)

def disconnects : ServerEvent LoginServer.Reply → Bool
  | .disconnect _ => true
  | _ => false

namespace Operations

/-- A handler answers. -/
def answer (ops : Operations) (id : RequestId) (answer : Answer) :
    Operations × List OperationSeen :=
  ({ ops with handlers := ops.handlers.insert id (.answered answer) }, [.answered id answer])

def wait (ops : Operations) (id : RequestId) (wait : Wait) : Operations × List OperationSeen :=
  ({ ops with handlers := ops.handlers.insert id (.waits wait) }, [])

/-- A handler runs until it waits or answers. -/
def run (keepAliveTimeout : Nat) (ops : Operations) (id : RequestId) :
    Begins → Option (Operations × List OperationSeen)
  | .answers answer => some (ops.answer id answer)
  | .publishes message => some (ops.wait id (.publishing message))
  | .selects select => some (ops.wait id (.selecting select))
  | .checks => some (ops.wait id .checking)
  | .disconnects sessionId =>
      match ops.server.step (LoginServer.service keepAliveTimeout) (.disconnect sessionId) with
      | none => none
      | some (server, seen) =>
          let found := (ops.server.registry.disconnect sessionId).1
          let (ops, answered) := { ops with server }.answer id (disconnected found)
          some (ops, seen.map .server ++ .disconnected id sessionId found :: answered)

def step (config : AdminApiConfig) (library : PasswordLibrary) (keepAliveTimeout : Nat)
    (ops : Operations) : OperationEvent → Option (Operations × List OperationSeen)
  | .api event =>
      match ops.api.step config library event with
      | none => none
      | some (api, seen) => some ({ ops with api }, seen.map .api)
  | .server event =>
      -- only `disconnect` calls the registry from outside the sessions
      if disconnects event then none
      else
        match ops.server.step (LoginServer.service keepAliveTimeout) event with
        | none => none
        | some (server, seen) => some ({ ops with server }, seen.map .server)
  | .handler id =>
      match ops.api.requests.get id, ops.handlers.get id with
      | some ⟨http, .entrusted handler⟩, none =>
          ops.run keepAliveTimeout id (invoke http ops.server.registry handler)
      | _, _ => none
  | .publish id reply =>
      match ops.handlers.get id with
      | some (.waits (.publishing message)) =>
          let code := match reply with
            | .done => 204
            | .failed _ => 500
          let (ops, answered) := ops.answer id (.plain (.status code))
          some (ops, (if reply.applied then [.published id message] else []) ++ answered)
      | _ => none
  | .select id rows =>
      match ops.handlers.get id with
      | some (.waits (.selecting _)) =>
          some (ops.answer id (rows.elim (.plain (.status 500)) .scores))
      | _ => none
  | .check id dbOk redisOk =>
      match ops.handlers.get id with
      | some (.waits .checking) => some (ops.answer id (.health (health dbOk redisOk)))
      | _ => none

end Operations

/-- The AdminApi and its LoginServer as a machine. -/
def operations (config : AdminApiConfig) (library : PasswordLibrary) (keepAliveTimeout : Nat) :
    Machine Operations OperationEvent OperationSeen where
  Initial := fun ops => (admin config library).Initial ops.api ∧
    (server (LoginServer.service keepAliveTimeout)).Initial ops.server ∧ ops.handlers = .empty
  step := fun ops event => ops.step config library keepAliveTimeout event

variable {config : AdminApiConfig} {library : PasswordLibrary} {keepAliveTimeout : Nat}
  {ops after : Operations} {event : OperationEvent} {history seen : List OperationSeen}

/-- What one step can do. -/
inductive OperationStepped (config : AdminApiConfig) (library : PasswordLibrary)
    (keepAliveTimeout : Nat) (ops : Operations) :
    OperationEvent → Operations → List OperationSeen → Prop where
  | requested {api : AdminApi} {seen : List AdminSeen} (event : AdminEvent)
      (taken : ops.api.step config library event = some (api, seen)) :
      OperationStepped config library keepAliveTimeout ops (.api event) { ops with api }
        (seen.map .api)
  | served {next : LoginState} {seen : List LoginSeen} (event : ServerEvent LoginServer.Reply)
      (inside : disconnects event = false)
      (taken : (server (LoginServer.service keepAliveTimeout)).step ops.server event =
        some (next, seen)) :
      OperationStepped config library keepAliveTimeout ops (.server event)
        { ops with server := next } (seen.map .server)
  | disconnected (id : RequestId) (http : HttpRequest) (handler : Handler)
      (sessionId : SessionId)
      (entrusted : ops.api.requests.get id = some ⟨http, .entrusted handler⟩)
      (new : ops.handlers.get id = none)
      (begins : invoke http ops.server.registry handler = .disconnects sessionId) :
      OperationStepped config library keepAliveTimeout ops (.handler id)
        { ops with
          server := (ops.server.call (.disconnect sessionId)).1
          handlers := ops.handlers.insert id
            (.answered (Admin.disconnected (ops.server.registry.disconnect sessionId).1)) }
        [.server (.registry ⟨.disconnect sessionId,
            (ops.server.registry.disconnect sessionId).2⟩),
          .disconnected id sessionId (ops.server.registry.disconnect sessionId).1,
          .answered id (Admin.disconnected (ops.server.registry.disconnect sessionId).1)]
  | began (id : RequestId) (http : HttpRequest) (handler : Handler)
      (wait : Wait) (entrusted : ops.api.requests.get id = some ⟨http, .entrusted handler⟩)
      (new : ops.handlers.get id = none)
      (publishing : ∀ message, wait = .publishing message →
        invoke http ops.server.registry handler = .publishes message) :
      OperationStepped config library keepAliveTimeout ops (.handler id)
        { ops with handlers := ops.handlers.insert id (.waits wait) } []
  | replied (id : RequestId) (http : HttpRequest) (handler : Handler)
      (answer : Answer) (entrusted : ops.api.requests.get id = some ⟨http, .entrusted handler⟩)
      (new : ops.handlers.get id = none)
      (begins : invoke http ops.server.registry handler = .answers answer) :
      OperationStepped config library keepAliveTimeout ops (.handler id)
        { ops with handlers := ops.handlers.insert id (.answered answer) } [.answered id answer]
  | published (id : RequestId) (message : String) (reply : Reply) (code : Nat)
      (waiting : ops.handlers.get id = some (.waits (.publishing message)))
      (status : code = 204 → reply = .done) :
      OperationStepped config library keepAliveTimeout ops (.publish id reply)
        { ops with handlers := ops.handlers.insert id (.answered (.plain (.status code))) }
        ((if reply.applied then [.published id message] else []) ++
          [.answered id (.plain (.status code))])
  | answered {event : OperationEvent} (id : RequestId) (wait : Wait) (answer : Answer)
      (waiting : ops.handlers.get id = some (.waits wait)) (later : answer.ofSessions = false) :
      OperationStepped config library keepAliveTimeout ops event
        { ops with handlers := ops.handlers.insert id (.answered answer) } [.answered id answer]

theorem operation_step_cases
    (taken : (operations config library keepAliveTimeout).step ops event = some (after, seen)) :
    OperationStepped config library keepAliveTimeout ops event after seen := by
  cases event with
  | api event =>
      simp only [operations, Operations.step] at taken
      split at taken
      · contradiction
      next api made stepped =>
      cases taken
      exact .requested event stepped
  | server event =>
      simp only [operations, Operations.step, Option.ite_none_left_eq_some,
        Bool.not_eq_true] at taken
      obtain ⟨inside, taken⟩ := taken
      split at taken
      · contradiction
      next next made stepped =>
      cases taken
      exact .served event inside stepped
  | handler id =>
      simp only [operations, Operations.step] at taken
      split at taken
      · next http handler entrusted new =>
          cases begins : invoke http ops.server.registry handler with
          | answers answer =>
              rw [begins] at taken
              cases taken
              exact .replied id http handler answer entrusted new begins
          | publishes message =>
              rw [begins] at taken
              cases taken
              refine .began id http handler (.publishing message) entrusted new ?_
              rintro _ ⟨⟩
              exact begins
          | selects select =>
              rw [begins] at taken
              cases taken
              refine .began id http handler (.selecting select) entrusted new ?_
              intro _ other
              contradiction
          | checks =>
              rw [begins] at taken
              cases taken
              refine .began id http handler .checking entrusted new ?_
              intro _ other
              contradiction
          | disconnects sessionId =>
              rw [begins] at taken
              cases taken
              exact .disconnected id http handler sessionId entrusted new begins
      · contradiction
  | publish id reply =>
      simp only [operations, Operations.step] at taken
      split at taken
      · next message waiting =>
          cases taken
          refine .published id message reply _ waiting ?_
          cases reply with
          | done => exact fun _ => rfl
          | failed applied => exact fun same => absurd (show 500 = 204 from same) (by decide)
      · contradiction
  | select id rows =>
      simp only [operations, Operations.step] at taken
      split at taken
      · next select waiting =>
          cases taken
          refine .answered id _ _ waiting ?_
          cases rows <;> rfl
      · contradiction
  | check id dbOk redisOk =>
      simp only [operations, Operations.step] at taken
      split at taken
      · next waiting =>
          cases taken
          exact .answered id _ _ waiting rfl
      · contradiction

/-! ## The two servers -/

def OperationSeen.ofApi : OperationSeen → Option AdminSeen
  | .api seen => some seen
  | _ => none

def OperationSeen.ofServer : OperationSeen → Option LoginSeen
  | .server seen => some seen
  | _ => none

/-- What is observed of the AdminApi. -/
def apiHistory (history : List OperationSeen) : List AdminSeen :=
  history.filterMap OperationSeen.ofApi

/-- What is observed of the LoginServer. -/
def loginHistory (history : List OperationSeen) : List LoginSeen :=
  history.filterMap OperationSeen.ofServer

theorem operations_projects_api (config : AdminApiConfig) (library : PasswordLibrary)
    (keepAliveTimeout : Nat) :
    (operations config library keepAliveTimeout).Projects (admin config library)
      (fun ops => some ops.api) OperationSeen.ofApi := by
  apply Machine.Projects.component
  · rintro ops ⟨initial, _⟩
    exact initial
  · intro before event after seen taken
    cases operation_step_cases taken with
    | requested event stepped =>
        rw [filterMap_unwrapped OperationSeen.api _ (fun _ => rfl)]
        exact .one stepped
    | served event inside stepped =>
        rw [filterMap_wrapped OperationSeen.server _ (fun _ => rfl)]
        exact .rests rfl rfl
    | disconnected | began | replied | answered => exact .rests rfl rfl
    | published id message reply code =>
        refine .rests rfl ?_
        split <;> rfl

theorem operations_projects_server (config : AdminApiConfig) (library : PasswordLibrary)
    (keepAliveTimeout : Nat) :
    (operations config library keepAliveTimeout).Projects
      (server (LoginServer.service keepAliveTimeout))
      (fun ops => some ops.server) OperationSeen.ofServer := by
  apply Machine.Projects.component
  · rintro ops ⟨_, initial, _⟩
    exact initial
  · intro before event after seen taken
    cases operation_step_cases taken with
    | requested event stepped =>
        rw [filterMap_wrapped OperationSeen.api _ (fun _ => rfl)]
        exact .rests rfl rfl
    | served event inside stepped =>
        rw [filterMap_unwrapped OperationSeen.server _ (fun _ => rfl)]
        exact .one stepped
    | disconnected id http handler sessionId =>
        have step : (server (LoginServer.service keepAliveTimeout)).step before.server
            (.disconnect sessionId) = some (before.server.call (.disconnect sessionId)) := rfl
        exact .one step
    | began | replied | answered => exact .rests rfl rfl
    | published id message reply code =>
        refine .rests rfl ?_
        split <;> rfl

theorem reaches_api (run : (operations config library keepAliveTimeout).Reaches ops history) :
    (admin config library).Reaches ops.api (apiHistory history) :=
  (operations_projects_api config library keepAliveTimeout).reaches run rfl

theorem reaches_loginServer
    (run : (operations config library keepAliveTimeout).Reaches ops history) :
    (server (LoginServer.service keepAliveTimeout)).Reaches ops.server (loginHistory history) :=
  (operations_projects_server config library keepAliveTimeout).reaches run rfl

/-! ## Whose requests they are -/

theorem handle_entrusted {config : AdminApiConfig} {http : HttpRequest} {handler other : Handler}
    (phase : handle config http handler = .entrusted other) : handler = other := by
  cases handler with
  | login =>
      rw [handle] at phase
      split at phase
      · unfold login at phase
        split at phase
        · contradiction
        · split at phase <;> contradiction
      · contradiction
  | logout =>
      rw [handle, logout] at phase
      split at phase <;> contradiction
  | _ => exact Phase.entrusted.inj phase

theorem next_entrusted {config : AdminApiConfig} {http : HttpRequest} {handler : Handler}
    (phase : (next config http).phase = .entrusted handler) :
    .ran handler ∈ (next config http).seen ∧ http.asksFor handler := by
  unfold next at phase ⊢
  split at phase
  · contradiction
  · next method chosen leads =>
      split at phase
      · next serves =>
          have same := handle_entrusted phase
          subst same
          rw [if_pos serves]
          exact ⟨List.mem_singleton_self _, method, leads, serves⟩
      · contradiction

/-- A turn after which the handler is entrusted has run it, as the router has chosen it. -/
theorem resume_entrusted {config : AdminApiConfig} {http : HttpRequest}
    {keys : LeaseStore String String} {phase : Phase} {reply : Reply}
    {call : LeaseCall String String} {handler : Handler}
    (given : phase.command config = some call)
    (entrusted : (resume config http keys phase reply).phase = .entrusted handler) :
    .ran handler ∈ (resume config http keys phase reply).seen ∧ http.asksFor handler := by
  cases reply with
  | failed applied => contradiction
  | done =>
      cases phase with
      | validating key =>
          simp only [resume] at entrusted
          split at entrusted <;> contradiction
      | renewing key userId => exact next_entrusted entrusted
      | issuing | revoking => contradiction
      | querying | verifying | entrusted | finished => contradiction

/-- A request that is entrusted to a handler was so before, or the turn has run the handler. -/
theorem turn_entrusted {api : AdminApi} {turning id : RequestId} {other http : HttpRequest}
    {turn : Turn} {handler : Handler}
    (given : turn.phase = .entrusted handler →
      RequestSeen.ran handler ∈ turn.seen ∧ other.asksFor handler)
    (entrusted : (api.turn turning other turn).requests.get id = some ⟨http, .entrusted handler⟩) :
    api.requests.get id = some ⟨http, .entrusted handler⟩ ∨
      AdminSeen.request id (.ran handler) ∈ turn.seen.map (AdminSeen.request turning) ∧
        http.asksFor handler := by
  rw [AdminApi.turn, FiniteMap.get_insert] at entrusted
  split at entrusted
  · next same =>
      rw [Option.some.injEq, Progress.mk.injEq] at entrusted
      obtain ⟨ran, asked⟩ := given entrusted.2
      rw [same, ← entrusted.1]
      exact .inr ⟨List.mem_map_of_mem ran, asked⟩
  · exact .inl entrusted

theorem admin_entrusted {api next : AdminApi} {event : AdminEvent} {made : List AdminSeen}
    (taken : api.step config library event = some (next, made)) {id : RequestId}
    {http : HttpRequest} {handler : Handler}
    (entrusted : next.requests.get id = some ⟨http, .entrusted handler⟩) :
    api.requests.get id = some ⟨http, .entrusted handler⟩ ∨
      .request id (.ran handler) ∈ made ∧ http.asksFor handler := by
  cases admin_step_cases taken with
  | arrived turning other =>
      have given : (requireSessionKey config other).phase = .entrusted handler →
          .ran handler ∈ (requireSessionKey config other).seen ∧ other.asksFor handler := by
        intro phase
        unfold requireSessionKey at phase ⊢
        split at phase
        · next exempt =>
            rw [if_pos exempt]
            exact next_entrusted phase
        · split at phase
          · contradiction
          · rw [validate] at phase
            split at phase <;> contradiction
      exact (turn_entrusted given entrusted).imp_right (And.imp_left (List.mem_cons_of_mem _))
  | commanded turning progress reply present command carried =>
      rcases turn_entrusted (resume_entrusted command) entrusted with before | ⟨ran, asked⟩
      · exact .inl before
      · exact .inr ⟨List.mem_append_right _ ran, asked⟩
  | answered turning other req row =>
      refine turn_entrusted (fun phase => ?_) entrusted
      cases row <;> simp [onRow] at phase
  | verified turning other req storedHash salt key =>
      refine turn_entrusted (fun phase => ?_) entrusted
      simp only [onVerified] at phase
      split at phase <;> contradiction
  | failed turning progress =>
      refine turn_entrusted (fun phase => ?_) entrusted
      simp [internalError] at phase
  | expired | elapsed => exact .inl entrusted

/-- A session disconnects nobody. -/
theorem observeAll_spares {state : LoginState} {sessionId other : SessionId} {kick : KickToken}
    {made : List (Seen LoginServer.Session LoginServer.Work LoginServer.Reply
      LoginServer.LoginOutcome)} {cancelled : List KickToken} :
    .registry ⟨.disconnect other, cancelled⟩ ∉ (state.observeAll sessionId kick made).2 := by
  induction made generalizing state with
  | nil => exact List.not_mem_nil
  | cons first rest inductionHypothesis =>
      rw [ServerState.observeAll, List.mem_append, not_or]
      refine ⟨?_, inductionHypothesis⟩
      unfold ServerState.observe
      split
      · next call calls =>
          intro member
          rcases List.mem_cons.mp member with same | member
          · contradiction
          · rw [ServerState.call, List.mem_singleton, ServerSeen.registry.injEq,
              CallSeen.mk.injEq] at member
            rw [← member.1] at calls
            cases first <;> simp [Seen.registryCall] at calls
      · split <;> simp

/-- Inside the server nothing disconnects a session. -/
theorem server_spares {state next : LoginState} {event : ServerEvent LoginServer.Reply}
    {made : List LoginSeen}
    (taken : (server (LoginServer.service keepAliveTimeout)).step state event = some (next, made))
    (inside : disconnects event = false) (sessionId : SessionId) (cancelled : List KickToken) :
    .registry ⟨.disconnect sessionId, cancelled⟩ ∉ made := by
  cases server_step_cases taken with
  | drawn | shutDown => exact List.not_mem_nil
  | accepted => simp
  | moved => exact observeAll_spares
  | disconnected => contradiction

/-- The request carries a key under which a user was found, and the handler that its method and
path lead to was run for it. -/
structure Requested (config : AdminApiConfig) (history : List OperationSeen) (id : RequestId)
    (http : HttpRequest) (handler : Handler) : Prop where
  arrived : .api (.request id (.arrived http)) ∈ history
  asked : http.asksFor handler
  ran : .api (.request id (.ran handler)) ∈ history
  admitted : Admitted config (apiHistory history) id http

/-- The request is one for this notice, which is not blank. -/
def AsksNotice (config : AdminApiConfig) (history : List OperationSeen) (id : RequestId)
    (message : String) : Prop :=
  ∃ http, Requested config history id http .notice ∧ http.body.notice = some ⟨message⟩ ∧
    message.toList.all isWhitespace = false

/-- The request is one to disconnect this session. -/
def AsksDisconnect (config : AdminApiConfig) (history : List OperationSeen) (id : RequestId)
    (sessionId : SessionId) : Prop :=
  ∃ http, Requested config history id http .disconnect ∧ http.sessionId = some sessionId

/-- What an observation rests on. -/
def Rests (config : AdminApiConfig) (earlier : List OperationSeen) : OperationSeen → Prop
  | .server (.registry ⟨.disconnect sessionId, _⟩) =>
      ∃ id, AsksDisconnect config earlier id sessionId
  | .disconnected id sessionId _ => AsksDisconnect config earlier id sessionId
  | .published id message => AsksNotice config earlier id message
  | _ => True

theorem Requested.grow {id : RequestId} {http : HttpRequest} {handler : Handler}
    (requested : Requested config history id http handler) (more : List OperationSeen) :
    Requested config (history ++ more) id http handler where
  arrived := List.mem_append_left _ requested.arrived
  asked := requested.asked
  ran := List.mem_append_left _ requested.ran
  admitted := by
    rw [apiHistory, List.filterMap_append]
    exact requested.admitted.grow _

theorem AsksNotice.grow {id : RequestId} {message : String}
    (asks : AsksNotice config history id message) (more : List OperationSeen) :
    AsksNotice config (history ++ more) id message := by
  obtain ⟨http, requested, named, legible⟩ := asks
  exact ⟨http, requested.grow more, named, legible⟩

theorem AsksDisconnect.grow {id : RequestId} {sessionId : SessionId}
    (asks : AsksDisconnect config history id sessionId) (more : List OperationSeen) :
    AsksDisconnect config (history ++ more) id sessionId := by
  obtain ⟨http, requested, named⟩ := asks
  exact ⟨http, requested.grow more, named⟩

/-- Everything in the state and in the history has what it rests on. -/
structure Evident (config : AdminApiConfig) (ops : Operations) (history : List OperationSeen) :
    Prop where
  ran : ∀ id http handler, ops.api.requests.get id = some ⟨http, .entrusted handler⟩ →
    .api (.request id (.ran handler)) ∈ history ∧ http.asksFor handler
  publishing : ∀ id message, ops.handlers.get id = some (.waits (.publishing message)) →
    AsksNotice config history id message
  rests : Justified (Rests config) history

namespace Evident

variable (evident : Evident config ops history)

include evident

/-- A request whose handler has its turn has been admitted. -/
theorem requested (supported : Supported config library ops.api (apiHistory history))
    {id : RequestId} {http : HttpRequest} {handler : Handler} (unlikeHealth : handler ≠ .health)
    (entrusted : ops.api.requests.get id = some ⟨http, .entrusted handler⟩) :
    Requested config history id http handler where
  arrived := by
    obtain ⟨entry, member, own⟩ := List.mem_filterMap.mp (supported.arrived id _ entrusted)
    cases entry with
    | api seen =>
        cases own
        exact member
    | _ => contradiction
  asked := (evident.ran id http handler entrusted).2
  ran := (evident.ran id http handler entrusted).1
  admitted := (supported.warranted id _ entrusted).resolve_left unlikeHealth

/-- A step that leaves the handlers alone. -/
theorem aside (handlers : after.handlers = ops.handlers)
    (ran : ∀ id http handler,
      after.api.requests.get id = some ⟨http, .entrusted handler⟩ →
        ops.api.requests.get id = some ⟨http, .entrusted handler⟩ ∨
          .api (.request id (.ran handler)) ∈ seen ∧ http.asksFor handler)
    (free : ∀ earlier, ∀ entry ∈ seen, Rests config earlier entry) :
    Evident config after (history ++ seen) where
  ran := fun id http handler found => by
    rcases ran id http handler found with before | made
    · exact (evident.ran id http handler before).imp_left (List.mem_append_left _)
    · exact made.imp_left (List.mem_append_right _)
  publishing := fun id message waiting => by
    rw [handlers] at waiting
    exact (evident.publishing id message waiting).grow seen
  rests := evident.rests.append_free free

/-- A step of one handler. -/
theorem handler {id : RequestId} {phase : HandlerPhase}
    (handlers : after.handlers = ops.handlers.insert id phase) (api : after.api = ops.api)
    (publishing : ∀ message, phase = .waits (.publishing message) →
      AsksNotice config history id message)
    (rests : ∀ entry ∈ seen, ∀ front, Rests config (history ++ front) entry) :
    Evident config after (history ++ seen) where
  ran := fun other http handler found => by
    rw [api] at found
    exact (evident.ran other http handler found).imp_left (List.mem_append_left _)
  publishing := fun other message waiting => by
    rw [handlers, FiniteMap.get_insert] at waiting
    split at waiting
    · next same =>
        rw [Option.some.injEq] at waiting
        rw [same]
        exact (publishing message waiting).grow seen
    · exact (evident.publishing other message waiting).grow seen
  rests := evident.rests.append fun front entry member => rests entry member front

/-- A handler answers. -/
theorem answers {id : RequestId} {answer : Answer}
    (handlers : after.handlers = ops.handlers.insert id (.answered answer))
    (api : after.api = ops.api)
    (rests : ∀ entry ∈ seen, ∀ front, Rests config (history ++ front) entry) :
    Evident config after (history ++ seen) := by
  refine evident.handler handlers api ?_ rests
  intro message other
  contradiction

theorem stepped (supported : Supported config library ops.api (apiHistory history))
    (stepped : OperationStepped config library keepAliveTimeout ops event after seen) :
    Evident config after (history ++ seen) := by
  cases stepped with
  | requested event taken =>
      refine evident.aside rfl ?_ ?_
      · intro other found handler present
        rcases admin_entrusted taken present with before | ⟨ran, asked⟩
        · exact .inl before
        · exact .inr ⟨List.mem_map_of_mem ran, asked⟩
      · intro earlier entry member
        obtain ⟨own, _, rfl⟩ := List.mem_map.mp member
        trivial
  | served event inside taken =>
      refine evident.aside rfl (fun _ _ _ => .inl) ?_
      intro earlier entry member
      obtain ⟨own, among, rfl⟩ := List.mem_map.mp member
      cases own with
      | session => trivial
      | registry call =>
          obtain ⟨call, cancelled⟩ := call
          cases call with
          | disconnect sessionId => exact absurd among (server_spares taken inside _ _)
          | _ => trivial
  | disconnected id http handler sessionId entrusted new begins =>
      obtain ⟨rfl, named⟩ := invoke_disconnects begins
      have asks : AsksDisconnect config history id sessionId :=
        ⟨http, evident.requested supported nofun entrusted, named⟩
      refine evident.answers rfl rfl ?_
      intro entry member front
      simp only [List.mem_cons, List.not_mem_nil, or_false] at member
      rcases member with rfl | rfl | rfl
      · exact ⟨id, asks.grow front⟩
      · exact asks.grow front
      · trivial
  | began id http handler wait entrusted new publishing =>
      refine evident.handler rfl rfl ?_ (fun _ member => absurd member List.not_mem_nil)
      intro message waits
      rw [HandlerPhase.waits.injEq] at waits
      obtain ⟨rfl, named, legible⟩ := invoke_publishes (publishing message waits)
      exact ⟨http, evident.requested supported nofun entrusted, named, legible⟩
  | replied => exact evident.answers rfl rfl (by simp [Rests])
  | published id message reply code waiting =>
      have asks := evident.publishing id message waiting
      refine evident.answers rfl rfl ?_
      intro entry member front
      rcases List.mem_append.mp member with member | member
      · split at member
        · rw [List.mem_singleton.mp member]
          exact asks.grow front
        · contradiction
      · rw [List.mem_singleton.mp member]
        trivial
  | answered => exact evident.answers rfl rfl (by simp [Rests])

end Evident

theorem reaches_evident
    (run : (operations config library keepAliveTimeout).Reaches ops history) :
    Evident config ops history := by
  apply run.invariant
  · rintro start ⟨⟨requests, _⟩, _, handlers⟩
    exact ⟨by simp [requests], by simp [handlers], .nil⟩
  · intro before earlier event after seen run evident taken
    exact evident.stepped (reaches_supported (reaches_api run)) (operation_step_cases taken)

/-! ## Once for each request -/

/-- The request whose handler has done something to the outside. -/
def OperationSeen.acts : OperationSeen → Option RequestId
  | .disconnected id _ _ | .published id _ => some id
  | _ => none

def OperationSeen.answers : OperationSeen → Option RequestId
  | .answered id _ => some id
  | _ => none

/-- The handler of the request is done. -/
def Operations.done (ops : Operations) (id : RequestId) : Prop :=
  ∃ answer, ops.handlers.get id = some (.answered answer)

/-- What is observed of handlers as they get done. -/
def Settling (read : OperationSeen → Option RequestId) (ops after : Operations)
    (seen : List OperationSeen) : Prop :=
  seen.filterMap read = [] ∨
    ∃ id, seen.filterMap read = [id] ∧ ¬ ops.done id ∧ after.done id

theorem done_insert {id : RequestId} (unfinished : ¬ ops.done id) (answer : Answer)
    (handlers : after.handlers = ops.handlers.insert id (.answered answer)) :
    ¬ ops.done id ∧ after.done id := by
  refine ⟨unfinished, answer, ?_⟩
  rw [handlers, FiniteMap.get_insert, if_pos rfl]

theorem not_done_of_new {id : RequestId} (new : ops.handlers.get id = none) : ¬ ops.done id := by
  rintro ⟨answer, found⟩
  rw [new] at found
  contradiction

theorem not_done_of_waiting {id : RequestId} {wait : Wait}
    (waiting : ops.handlers.get id = some (.waits wait)) : ¬ ops.done id := by
  rintro ⟨answer, found⟩
  rw [waiting] at found
  cases found

/-- A handler that is done stays so. -/
theorem done_step (stepped : OperationStepped config library keepAliveTimeout ops event after seen)
    {id : RequestId} (done : ops.done id) : after.done id := by
  have kept : ∀ (other : RequestId) (phase : HandlerPhase), ¬ ops.done other →
      after.handlers = ops.handlers.insert other phase → after.done id := by
    intro other phase unfinished handlers
    obtain ⟨answer, found⟩ := done
    refine ⟨answer, ?_⟩
    rw [handlers, FiniteMap.get_insert, if_neg, found]
    rintro rfl
    exact unfinished ⟨answer, found⟩
  cases stepped with
  | requested | served => exact done
  | disconnected other http handler sessionId entrusted new begins =>
      exact kept other _ (not_done_of_new new) rfl
  | began other http handler wait entrusted new =>
      exact kept other _ (not_done_of_new new) rfl
  | replied other http handler answer entrusted new =>
      exact kept other _ (not_done_of_new new) rfl
  | published other message reply code waiting =>
      exact kept other _ (not_done_of_waiting waiting) rfl
  | answered other wait answer waiting => exact kept other _ (not_done_of_waiting waiting) rfl

theorem acts_settling
    (stepped : OperationStepped config library keepAliveTimeout ops event after seen) :
    Settling OperationSeen.acts ops after seen := by
  cases stepped with
  | requested => exact .inl (filterMap_wrapped OperationSeen.api _ (fun _ => rfl) _)
  | served => exact .inl (filterMap_wrapped OperationSeen.server _ (fun _ => rfl) _)
  | disconnected id http handler sessionId entrusted new =>
      exact .inr ⟨id, rfl, done_insert (not_done_of_new new) _ rfl⟩
  | began | replied | answered => exact .inl rfl
  | published id message reply code waiting =>
      cases reply.applied with
      | false => exact .inl rfl
      | true => exact .inr ⟨id, rfl, done_insert (not_done_of_waiting waiting) _ rfl⟩

theorem answers_settling
    (stepped : OperationStepped config library keepAliveTimeout ops event after seen) :
    Settling OperationSeen.answers ops after seen := by
  cases stepped with
  | requested => exact .inl (filterMap_wrapped OperationSeen.api _ (fun _ => rfl) _)
  | served => exact .inl (filterMap_wrapped OperationSeen.server _ (fun _ => rfl) _)
  | began => exact .inl rfl
  | disconnected id http handler sessionId entrusted new =>
      exact .inr ⟨id, rfl, done_insert (not_done_of_new new) _ rfl⟩
  | replied id http handler answer entrusted new =>
      exact .inr ⟨id, rfl, done_insert (not_done_of_new new) _ rfl⟩
  | published id message reply code waiting =>
      right
      refine ⟨id, ?_, done_insert (not_done_of_waiting waiting) _ rfl⟩
      split <;> rfl
  | answered id wait answer waiting =>
      exact .inr ⟨id, rfl, done_insert (not_done_of_waiting waiting) _ rfl⟩

/-- What handlers are observed of as they get done is observed once of each. -/
theorem reaches_once {read : OperationSeen → Option RequestId}
    (settling : ∀ ops event after seen,
      OperationStepped config library keepAliveTimeout ops event after seen →
        Settling read ops after seen)
    (run : (operations config library keepAliveTimeout).Reaches ops history) :
    (history.filterMap read).Nodup ∧ ∀ id ∈ history.filterMap read, ops.done id := by
  apply run.invariant
  · rintro start _
    exact ⟨List.nodup_nil, nofun⟩
  · rintro before earlier event after seen _ ⟨distinct, all⟩ taken
    have stepped := operation_step_cases taken
    rw [List.filterMap_append]
    rcases settling _ _ _ _ stepped with silent | ⟨id, one, unfinished, done⟩
    · rw [silent, List.append_nil]
      exact ⟨distinct, fun other member => done_step stepped (all other member)⟩
    · rw [one]
      constructor
      · refine List.nodup_append.mpr ⟨distinct, List.nodup_singleton id, ?_⟩
        intro other member last own
        rw [List.mem_singleton.mp own]
        rintro rfl
        exact unfinished (all other member)
      · intro other member
        rcases List.mem_append.mp member with member | own
        · exact done_step stepped (all other member)
        · rw [List.mem_singleton.mp own]
          exact done

/-! ## Authority -/

/-- The request carries a key that was valid when it was looked up. -/
def Authorized (config : AdminApiConfig) (library : PasswordLibrary) (history : List AdminSeen)
    (id : RequestId) (http : HttpRequest) : Prop :=
  .request id (.arrived http) ∈ history ∧
    ∃ key userId now before between, http.key = some key ∧
      history = before ++ .redis (some id) (.read (config.redisKey key) userId now) :: between ∧
      Valid config library before (config.redisKey key) userId now

theorem Requested.authorized
    (run : (operations config library keepAliveTimeout).Reaches ops history)
    {earlier later : List OperationSeen} (shape : history = earlier ++ later) {id : RequestId}
    {http : HttpRequest} {handler : Handler}
    (requested : Requested config earlier id http handler) :
    Authorized config library (apiHistory earlier) id http := by
  obtain ⟨key, userId, now, carries, found⟩ := requested.admitted
  obtain ⟨before, between, split⟩ := List.append_of_mem found
  have whole : apiHistory history =
      before ++ .redis (some id) (.read (config.redisKey key) userId now) ::
        (between ++ apiHistory later) := by
    rw [shape, apiHistory, List.filterMap_append]
    show apiHistory earlier ++ _ = _
    rw [split, List.append_assoc, List.cons_append]
    rfl
  exact ⟨List.mem_filterMap.mpr ⟨_, requested.arrived, rfl⟩, key, userId, now, before, between,
    carries, split, read_valid (reaches_api run) whole⟩

/-- A session that is disconnected is one that a request has asked to disconnect. -/
def DisconnectAuthorized (config : AdminApiConfig) (library : PasswordLibrary)
    (earlier : List OperationSeen) (id : RequestId) (sessionId : SessionId) : Prop :=
  ∃ http, Authorized config library (apiHistory earlier) id http ∧
    http.asksFor .disconnect ∧ .api (.request id (.ran .disconnect)) ∈ earlier ∧
    http.sessionId = some sessionId

/-- A notice that is published is one that a request has asked to publish. -/
def NoticeAuthorized (config : AdminApiConfig) (library : PasswordLibrary)
    (earlier : List OperationSeen) (id : RequestId) (message : String) : Prop :=
  ∃ http, Authorized config library (apiHistory earlier) id http ∧
    http.asksFor .notice ∧ .api (.request id (.ran .notice)) ∈ earlier ∧
    http.body.notice = some ⟨message⟩ ∧ message.toList.all isWhitespace = false

theorem published_authorized
    (run : (operations config library keepAliveTimeout).Reaches ops history)
    {earlier later : List OperationSeen} {id : RequestId} {message : String}
    (shape : history = earlier ++ .published id message :: later) :
    NoticeAuthorized config library earlier id message := by
  obtain ⟨http, requested, named, legible⟩ := (reaches_evident run).rests _ _ _ shape
  exact ⟨http, requested.authorized run shape, requested.asked, requested.ran, named, legible⟩

/-- A session is disconnected through the AdminApi only by `disconnect`, for a request whose
method and path lead there and whose path names this session, and a notice published only by
`notice`, for a request that leads there and whose body is this notice.  Each of them carries a
key that was valid when it was looked up: an admin had logged in for it with the right password,
and it had neither been revoked nor expired.  Each request does so at most once and is answered
at most once. -/
theorem operations_authorized
    (run : (operations config library keepAliveTimeout).Reaches ops history) :
    (∀ earlier sessionId cancelled later,
      history = earlier ++ .server (.registry ⟨.disconnect sessionId, cancelled⟩) :: later →
      ∃ id, DisconnectAuthorized config library earlier id sessionId) ∧
    (∀ earlier id message later, history = earlier ++ .published id message :: later →
      NoticeAuthorized config library earlier id message) ∧
    (history.filterMap OperationSeen.acts).Nodup ∧
    (history.filterMap OperationSeen.answers).Nodup := by
  refine ⟨?_, fun _ _ _ _ shape => published_authorized run shape,
    (reaches_once (fun _ _ _ _ => acts_settling) run).1,
    (reaches_once (fun _ _ _ _ => answers_settling) run).1⟩
  intro earlier sessionId cancelled later shape
  obtain ⟨id, http, requested, named⟩ := (reaches_evident run).rests _ _ _ shape
  exact ⟨id, http, requested.authorized run shape, requested.asked, requested.ran, named⟩

/-- Before the first connection and the first request. -/
def idle : Operations :=
  ⟨⟨.empty, ⟨.empty, [], 0⟩⟩, ⟨.default, .empty, 0, [], [], false⟩, .empty⟩

/-- An admin logs in, disconnects the one session there is, and publishes a notice. -/
def disconnectAndNotice : List OperationEvent :=
  [.server .generate, .server (.accept 1 ⟨0⟩ 0), .server (.session 1 .greet),
    .api (.arrive 0 postLogin),
    .api (.database 0
      (some (some ("wdgbpMaVE+H0YMtxoj2GZmOYxSQHeR5hknzgli8KcO8=", "c2FsdA==")))),
    .api (.blocking 0 (some "k")), .api (.redis 0 .done),
    .api (.arrive 1 (withKey .post "/api/sessions/1/disconnect")),
    .api (.redis 1 .done), .api (.redis 1 .done), .handler 1,
    .api (.arrive 2 { withKey .post "/api/notice" with body := { notice := some ⟨"hi"⟩ } }),
    .api (.redis 2 .done), .api (.redis 2 .done), .handler 2, .publish 2 (.failed true)]

theorem operations_authorized_disconnectAndNotice :
    ∃ ops history,
      (operations sampleConfig sampleLibrary 10).exec idle disconnectAndNotice =
        some (ops, history) ∧
      (∃ cancelled, history[11]? = some (.server (.registry ⟨.disconnect 1, cancelled⟩))) ∧
      ∃ id, DisconnectAuthorized sampleConfig sampleLibrary (history.take 11) id 1 := by
  have runs : ∃ ops history cancelled,
      (operations sampleConfig sampleLibrary 10).exec idle disconnectAndNotice =
        some (ops, history) ∧
      history[11]? = some (.server (.registry ⟨.disconnect 1, cancelled⟩)) :=
    ⟨_, _, _, rfl, rfl⟩
  obtain ⟨ops, history, cancelled, executed, disconnected⟩ := runs
  have initial : (operations sampleConfig sampleLibrary 10).Initial idle :=
    ⟨⟨rfl, rfl, rfl⟩, rfl, rfl⟩
  have run : (operations sampleConfig sampleLibrary 10).Reaches ops history :=
    Machine.reaches_of_exec initial executed
  exact ⟨ops, history, executed, ⟨cancelled, disconnected⟩,
    (operations_authorized run).1 _ 1 cancelled _ (split_at disconnected)⟩

end RustGameserver.Admin
