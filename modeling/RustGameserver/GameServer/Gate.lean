import RustGameserver.GameServer.Conservation
import RustGameserver.Session.Ownership

/-!
Contract: a GameServer session whose client has not authenticated.

Owns:
- what such a session has said, spawned and stored;
- that every message behind the gate ends it.

Does not own: how a client authenticates.
-/

namespace RustGameserver.GameServer

open RustGameserver.Foundation
open RustGameserver.Net
open RustGameserver.Proto
open RustGameserver.Session

variable {keepAliveTimeout : Nat}
  {task prepared before after : Task Session Work Reply InnerMessage}
  {history seen : List (Seen Session Work Reply InnerMessage)}

/-- What a client that has not authenticated may be told after the greeting. -/
def IsRefusal (payload : Payload) : Prop :=
  payload = .gameConnectResponse ⟨false, 1⟩ ∨ payload = .errorResponse ⟨3⟩

/-- A reaction that gives nothing to a client which has not authenticated. -/
def Harmless (session : Session) (reaction : Reaction Session Work) : Prop :=
  reaction.fields.position = session.position ∧ reaction.fields.worldId = session.worldId ∧
    match reaction with
    | .send _ payload => IsRefusal payload
    | .spawn _ work => ∃ token, work = .takeAuthToken token
    | .authenticate fields _ _ => fields.account ≠ none
    | .proceed _ | .stop _ => True

theorem Session.Handles.harmless {session : Session} {now : Nat} {message : MessageWrapper}
    {reaction : Reaction Session Work} (handles : session.Handles now message reaction)
    (anonymous : session.account = none) : Harmless session reaction := by
  cases handles with
  | rejected => exact ⟨rfl, rfl, .inl rfl⟩
  | lookedUp req => exact ⟨rfl, rfl, req.authToken, rfl⟩
  | keptAlive => exact ⟨rfl, rfl, trivial⟩
  | gated => exact ⟨rfl, rfl, trivial⟩
  | moved req account _ authenticated =>
      rw [anonymous] at authenticated
      contradiction
  | entered req account _ authenticated =>
      rw [anonymous] at authenticated
      contradiction
  | reported report account _ authenticated =>
      rw [anonymous] at authenticated
      contradiction
  | ignored account _ authenticated =>
      rw [anonymous] at authenticated
      contradiction

theorem Session.Answers.harmless {session : Session} {now : Nat} {message : InnerMessage}
    {reaction : Reaction Session Work} (answers : session.Answers now message reaction)
    (unsaved : message ≠ .scoreSaved) : Harmless session reaction := by
  cases answers with
  | authenticated value account => exact ⟨rfl, rfl, by simp⟩
  | invalid => exact ⟨rfl, rfl, .inl rfl⟩
  | saved => contradiction
  | failed => exact ⟨rfl, rfl, .inr rfl⟩

/-- A session that has done nothing for its client but to greet it, look tokens up
and refuse. -/
structure Idle (task : Task Session Work Reply InnerMessage)
    (history : List (Seen Session Work Reply InnerMessage)) : Prop where
  position : task.fields.position = (.zero, .zero)
  worldId : task.fields.worldId = 0
  spawned : ∀ job work, .spawned job work ∈ history → ∃ token, work = .takeAuthToken token
  said : task.stage ≠ .greeting → ∃ refusals,
    accepted history = .connectedResponse ⟨0⟩ :: refusals ∧
      ∀ payload ∈ refusals, IsRefusal payload

namespace Idle

/-- A step that says nothing and spawns at most token lookups. -/
theorem quiet (idle : Idle before history)
    (position : after.fields.position = before.fields.position)
    (worldId : after.fields.worldId = before.fields.worldId)
    (greeted : after.stage ≠ .greeting → before.stage ≠ .greeting)
    (said : accepted seen = [])
    (spawned : ∀ job work, .spawned job work ∈ seen → ∃ token, work = .takeAuthToken token) :
    Idle after (history ++ seen) where
  position := position.trans idle.position
  worldId := worldId.trans idle.worldId
  spawned := fun job work member => by
    rcases List.mem_append.mp member with member | member
    · exact idle.spawned job work member
    · exact spawned job work member
  said := fun late => by
    rw [accepted_append, said, List.append_nil]
    exact idle.said (greeted late)

/-- Carrying out a reaction of that kind. -/
theorem performed {cause : Cause} {reaction : Reaction Session Work} (idle : Idle before history)
    (harmless : Harmless before.fields reaction) (greeted : before.stage ≠ .greeting)
    (performed : Task.Performed before cause reaction after seen)
    (anonymous : after.fields.account = none) : Idle after (history ++ seen) := by
  obtain ⟨position, worldId, kind⟩ := harmless
  cases performed with
  | proceed => exact idle.quiet position worldId (fun _ => greeted) rfl nofun
  | stop => exact idle.quiet position worldId (fun _ => greeted) rfl nofun
  | refuse => exact idle.quiet position worldId (fun _ => greeted) rfl (by simp)
  | spawn fields work =>
      refine idle.quiet position worldId (fun _ => greeted) rfl fun job found member => ?_
      rw [List.mem_singleton, Seen.spawned.injEq] at member
      rw [member.2]
      exact kind
  | send fields payload =>
      refine ⟨position.trans idle.position, worldId.trans idle.worldId, ?_, fun _ => ?_⟩
      · simpa using idle.spawned
      · obtain ⟨refusals, said, refused⟩ := idle.said greeted
        refine ⟨refusals ++ [payload], ?_, ?_⟩
        · rw [accepted_append, said]
          rfl
        · intro other member
          rcases List.mem_append.mp member with member | member
          · exact refused other member
          · rw [List.mem_singleton.mp member]
            exact kind
  | authenticate => exact absurd anonymous kind
  | authenticateRefuse => exact absurd anonymous kind

/-- The greeting itself. -/
theorem greet (idle : Idle before history) (nothing : before.path = .spawn ∧ history = [])
    (performed : Task.Performed before .connection
      (.send before.fields (.connectedResponse ⟨0⟩)) after seen) :
    Idle after (history ++ seen) := by
  cases performed with
  | send fields payload sent =>
      refine ⟨idle.position, idle.worldId, by simp [nothing.2], fun _ => ⟨[], ?_, nofun⟩⟩
      rw [nothing.2]
      rfl
  | refuse fields payload refused =>
      -- the queue of a new session has room
      rw [nothing.1] at refused
      contradiction

end Idle

/-- As long as a session has no account, it is idle. -/
def Anonymous (task : Task Session Work Reply InnerMessage)
    (history : List (Seen Session Work Reply InnerMessage)) : Prop :=
  task.fields.account = none → Idle task history

/-- An account is never lost. -/
theorem anonymous_before {cause : Cause} {reaction : Reaction Session Work}
    {said : List (Seen Session Work Reply InnerMessage)}
    (takes : Task.Takes (service keepAliveTimeout) before prepared said cause reaction)
    (performed : Task.Performed prepared cause reaction after seen)
    (anonymous : after.fields.account = none) : before.fields.account = none := by
  have user : reaction.fields.user = reaction.userAfter prepared.fields.user := takes_user takes
  have fields := performed.frame_eq.1
  rw [takes.frame_eq.2.1, ← fields] at user
  have nobody : after.fields.user = none := by rw [Session.user, anonymous]; rfl
  rw [nobody] at user
  cases reaction with
  | authenticate => contradiction
  | _ => exact Option.map_eq_none_iff.mp user.symm

/-- No score is saved for a session that is idle, so none of its tasks returns
`ScoreSaved`. -/
theorem Idle.unsaved (idle : Idle task history)
    (run : (machine (service keepAliveTimeout)).Reaches task history) {job : Nat}
    {message : InnerMessage} {inner : Channel (Nat × InnerMessage) maxMessageChannelCapacity}
    (received : task.inner.tryRecv = some ((job, message), inner)) : message ≠ .scoreSaved := by
  rintro rfl
  have tracked := reaches_tracked run
  have queue := (Channel.tryRecv_some received).1
  obtain ⟨record, present, ended⟩ := tracked.delivered job .scoreSaved (by simp [queue])
  have recorded := tracked.recorded job record present
  obtain ⟨work, reply, calls, _, returns⟩ := (ran_single recorded.ran).2 .scoreSaved (.inr ended)
  obtain ⟨first, head, spawned⟩ := recorded.spawned
  rw [calls, List.head?_cons, Option.some.injEq] at head
  obtain ⟨token, lookup⟩ := idle.spawned job first spawned
  obtain ⟨_, _, _, _, saves, _⟩ := resume_scoreSaved returns
  rw [← head, saves] at lookup
  contradiction

theorem Anonymous.stepped (anonymous : Anonymous before history)
    (run : (machine (service keepAliveTimeout)).Reaches before history)
    (stepped : Task.Stepped (service keepAliveTimeout) before after seen) :
    Anonymous after (history ++ seen) := by
  intro none
  cases stepped.moves with
  | rests rests =>
      rw [rests.fields] at none
      refine (anonymous none).quiet (by rw [rests.fields]) (by rw [rests.fields]) ?_
        (accepted_of_silent rests.silent) ?_
      · intro late early
        exact late (rests.greeting early)
      · intro job work member
        exact absurd (rests.silent _ member) (by simp [Seen.ofHandler])
  | @ran prepared said more cause reaction takes performed shape =>
      have nobody := anonymous_before takes performed none
      have idle := anonymous nobody
      rw [shape]
      cases takes with
      | greeting stage =>
          obtain ⟨path, _, empty⟩ := reaches_untouched run stage
          exact idle.greet ⟨path, empty⟩ performed
      | frame now message stage =>
          have greeted : before.stage ≠ .greeting := by simp [stage]
          have handled : Idle { before with clock := now }
              (history ++ [.handled before.fields message]) :=
            idle.quiet rfl rfl (fun _ => greeted) rfl (by simp)
          have harmless := (before.fields.onRemote_cases now message).harmless nobody
          rw [← List.append_assoc]
          exact handled.performed harmless greeted performed none
      | @result inner now job message stage later received =>
          have greeted : before.stage ≠ .greeting := by simp [stage]
          have consumed : Idle { before with clock := now, inner }
              (history ++ [.consumed job message]) :=
            idle.quiet rfl rfl (fun _ => greeted) rfl (by simp)
          have harmless := (before.fields.onInner_cases now message).harmless
            (idle.unsaved run received)
          rw [← List.append_assoc]
          exact consumed.performed harmless greeted performed none

theorem reaches_anonymous (run : (machine (service keepAliveTimeout)).Reaches task history) :
    Anonymous task history := by
  apply run.invariant
  · rintro state ⟨sessionId, kick, now, rfl⟩ _
    exact ⟨rfl, rfl, nofun, fun late => absurd rfl late⟩
  · intro before history event after seen run anonymous taken
    exact anonymous.stepped run (Task.step_cases taken)

/-- The tasks of an idle session are token lookups. -/
theorem Idle.calls (idle : Idle task history)
    (run : (machine (service keepAliveTimeout)).Reaches task history)
    {record : Job Work Reply InnerMessage} (member : record ∈ task.jobs) :
    ∃ token, record.calls = [.takeAuthToken token] := by
  obtain ⟨index, present⟩ := List.mem_iff_getElem?.mp member
  have recorded := (reaches_tracked run).recorded index record present
  have single : ∃ work, record.calls = [work] := by
    have ran := ran_single recorded.ran
    cases state : record.state with
    | running work => exact ⟨work, (ran.1 work state).1⟩
    | finished message =>
        obtain ⟨work, _, calls, _⟩ := ran.2 message (.inl state)
        exact ⟨work, calls⟩
    | ended message =>
        obtain ⟨work, _, calls, _⟩ := ran.2 message (.inr state)
        exact ⟨work, calls⟩
  obtain ⟨work, calls⟩ := single
  obtain ⟨first, head, spawned⟩ := recorded.spawned
  rw [calls, List.head?_cons, Option.some.injEq] at head
  obtain ⟨token, lookup⟩ := idle.spawned index first spawned
  exact ⟨token, by rw [calls, head, lookup]⟩

/-! ## In a server -/

variable {state : ServerState Session Work Reply InnerMessage}
  {served : List (ServerSeen Session Work Reply InnerMessage)}

/-- A message behind the gate does nothing but end the event loop. -/
theorem gated_step {sessionId : SessionId} (present : state.tasks.get sessionId = some task)
    (anonymous : task.fields.account = none) {now : Nat} {message : MessageWrapper}
    (gate : passesGate message.payload = false)
    {next : ServerState Session Work Reply InnerMessage}
    {seen : List (ServerSeen Session Work Reply InnerMessage)}
    (taken : (server (service keepAliveTimeout)).step state
      (.session sessionId (.select now (some (.message message)))) = some (next, seen)) :
    next = { state with tasks := state.tasks.insert sessionId { task with clock := now }.leave } ∧
      seen = [.session sessionId (.handled task.fields message)] := by
  have stops : (service keepAliveTimeout).onRemote task.fields now message = .stop task.fields :=
    task.fields.onRemote_gated now message anonymous gate
  simp only [server, ServerState.step, present, ServerState.admits, if_true, Task.step,
    Task.select, Task.onFrame] at taken
  rw [stops] at taken
  split at taken
  · contradiction
  · next moved made ran =>
      rw [Option.ite_none_right_eq_some, Option.some.injEq, Prod.mk.injEq] at ran
      obtain ⟨_, rfl, rfl⟩ := ran
      cases taken
      exact ⟨rfl, rfl⟩

/-- Nothing happens for a client of a GameServer that has not authenticated. -/
theorem unauthenticated_idle (run : (server (service keepAliveTimeout)).Reaches state served)
    {sessionId : SessionId} (present : state.tasks.get sessionId = some task)
    (anonymous : task.fields.account = none) :
    task.fields.position = (.zero, .zero) ∧ task.fields.worldId = 0 ∧
      -- no score was or is being saved, in fact only tokens were looked up
      (∀ job work, .spawned job work ∈ historyOf sessionId served →
        ∃ token, work = .takeAuthToken token) ∧
      (∀ record ∈ task.jobs, ∃ token, record.calls = [.takeAuthToken token]) ∧
      (∀ entry, state.registry.sessions.get sessionId = some entry → entry.userId = none) ∧
      -- the client was told of its connection, and then of refusals
      (if task.stage = .greeting then accepted (historyOf sessionId served) = []
        else ∃ refusals, accepted (historyOf sessionId served) =
          .connectedResponse ⟨0⟩ :: refusals ∧ ∀ payload ∈ refusals, IsRefusal payload) ∧
      -- any other message ends the event loop and does nothing else
      (∀ now message next seen, passesGate message.payload = false →
        (server (service keepAliveTimeout)).step state
            (.session sessionId (.select now (some (.message message)))) = some (next, seen) →
          next = { state with
            tasks := state.tasks.insert sessionId { task with clock := now }.leave } ∧
          seen = [.session sessionId (.handled task.fields message)]) := by
  have own := reaches_session run present
  have idle := reaches_anonymous own anonymous
  refine ⟨idle.position, idle.worldId, idle.spawned, fun record member => idle.calls own member,
    ?_, ?_, ?_⟩
  · intro entry listing
    have owned := reaches_owned run
    obtain ⟨found, same, registered⟩ := owned.listed sessionId entry listing
    obtain ⟨other, lookup, _, user⟩ := owned.entries sessionId found same registered
    rw [present, Option.some.injEq] at same
    rw [listing, Option.some.injEq] at lookup
    rw [lookup, user, ← same]
    exact Option.map_eq_none_iff.mpr anonymous
  · split
    · next greeting =>
        rw [(reaches_untouched own greeting).2.2]
        rfl
    · next late => exact idle.said late
  · intro now message next seen gate taken
    exact gated_step present anonymous gate taken

/-- A client whose token is not found tries to move. -/
def gatecrasher : List (ServerEvent Reply) :=
  [.generate, .accept 1 ⟨0⟩ 0, .session 1 .greet, .session 1 (.poll false),
    .session 1 (.select 1 (some (.message ⟨0, some (.gameConnectRequest ⟨"t"⟩)⟩))),
    .session 1 (.reply 0 (.token (.ok none))), .session 1 (.deliver 0),
    .session 1 (.poll false), .session 1 (.select 2 none), .session 1 (.poll false)]

theorem unauthenticated_idle_gatecrasher :
    ∃ state history task,
      (server (service 10)).exec ⟨.default, .empty, 0, [], [], false⟩ gatecrasher =
        some (state, history) ∧
      state.tasks.get 1 = some task ∧ task.fields.worldId = 0 ∧
      accepted (historyOf 1 history) = [.connectedResponse ⟨0⟩, .gameConnectResponse ⟨false, 1⟩] ∧
      ∀ next seen, (server (service 10)).step state (.session 1 (.select 3
          (some (.message ⟨0, some (.moveRequest ⟨.zero, .zero⟩)⟩)))) = some (next, seen) →
        next = { state with tasks := state.tasks.insert 1 { task with clock := 3 }.leave } := by
  have runs : ∃ state history task,
      (server (service 10)).exec ⟨.default, .empty, 0, [], [], false⟩ gatecrasher =
        some (state, history) ∧
      state.tasks.get 1 = some task ∧ task.fields.account = none ∧
      accepted (historyOf 1 history) =
        [.connectedResponse ⟨0⟩, .gameConnectResponse ⟨false, 1⟩] :=
    ⟨_, _, _, rfl, rfl, rfl, rfl⟩
  obtain ⟨state, history, task, executed, present, anonymous, said⟩ := runs
  have start : (server (service 10)).Initial ⟨.default, .empty, 0, [], [], false⟩ := rfl
  have idle := unauthenticated_idle (Machine.reaches_of_exec start executed) present anonymous
  obtain ⟨_, worldId, _, _, _, _, gated⟩ := idle
  refine ⟨state, history, task, executed, present, worldId, said, ?_⟩
  intro next seen taken
  exact (gated 3 _ next seen rfl taken).1

end RustGameserver.GameServer
