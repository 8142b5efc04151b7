import RustGameserver.Admin.Operations

/-!
Contract: what the AdminApi says about the sessions is so.

Owns:
- that the registry lists the live sessions of the LoginServer with their accounts, so
  that `sessions` and `stats` answer with these;
- that `disconnect` finds a session when it is live, and that a session it has found ends.

Does not own: whether a session is still live when the client reads the answer.
-/

namespace RustGameserver.Admin

open RustGameserver.Db
open RustGameserver.Foundation
open RustGameserver.Net
open RustGameserver.Session

/-! ## The registry and the live sessions -/

section Live

variable {Fields Work Reply Inner : Type} {service : Service Fields Work Reply Inner}
  {state : ServerState Fields Work Reply Inner}

/-- The sessions that have registered and not yet removed themselves. -/
def liveSessions (state : ServerState Fields Work Reply Inner) : Finset SessionId :=
  state.tasks.keys.filter fun sessionId =>
    (state.tasks.get sessionId).any fun task => task.stage.registered

theorem mem_liveSessions {sessionId : SessionId} :
    sessionId ∈ liveSessions state ↔
      ∃ task, state.tasks.get sessionId = some task ∧ task.stage.registered = true := by
  rw [liveSessions, Finset.mem_filter, Option.any_eq_true]
  constructor
  · exact And.right
  · intro live
    have known : ∃ task, state.tasks.get sessionId = some task := live.imp fun _ => And.left
    exact ⟨Finmap.mem_keys.mpr (Finmap.mem_iff.mpr known), live⟩

theorem listed_iff (owned : Owned service state) {sessionId : SessionId} :
    (∃ entry, state.registry.sessions.get sessionId = some entry) ↔
      sessionId ∈ liveSessions state := by
  rw [mem_liveSessions]
  constructor
  · intro ⟨entry, present⟩
    exact owned.listed sessionId entry present
  · intro ⟨task, present, registered⟩
    obtain ⟨entry, found, _, _⟩ := owned.entries sessionId task present registered
    exact ⟨entry, found⟩

theorem registry_keys (owned : Owned service state) :
    state.registry.sessions.keys = liveSessions state := by
  apply Finset.ext
  intro sessionId
  rw [← listed_iff owned, Finmap.mem_keys]
  exact Finmap.mem_iff

/-- The snapshot has the account of each live session. -/
theorem mem_snapshot_live (owned : Owned service state) {info : SessionInfo} :
    info ∈ state.registry.snapshot ↔
      ∃ task, state.tasks.get info.sessionId = some task ∧ task.stage.registered = true ∧
        service.user task.fields = info.userId := by
  rw [SessionRegistry.mem_snapshot]
  constructor
  · intro ⟨entry, present, user⟩
    obtain ⟨task, found, registered⟩ := owned.listed info.sessionId entry present
    obtain ⟨other, same, _, account⟩ := owned.entries info.sessionId task found registered
    rw [present, Option.some.injEq] at same
    refine ⟨task, found, registered, ?_⟩
    rw [← account, ← same, user]
  · intro ⟨task, found, registered, user⟩
    obtain ⟨entry, present, _, account⟩ := owned.entries info.sessionId task found registered
    exact ⟨entry, present, account.trans user⟩

/-- The session that is found has its token cancelled. -/
theorem disconnect_cancels (owned : Owned service state) {sessionId : SessionId}
    {task : Task Fields Work Reply Inner} (present : state.tasks.get sessionId = some task)
    (registered : task.stage.registered = true) :
    (state.call (.disconnect sessionId)).1.isCancelled task.kick = true := by
  obtain ⟨entry, found, kick, _⟩ := owned.entries sessionId task present registered
  have cancelled : (state.registry.disconnect sessionId).2 = [task.kick] := by
    rw [SessionRegistry.disconnect, found, ← kick]
  rw [ServerState.isCancelled, ServerState.call, SessionRegistry.perform, cancelled]
  simp

end Live

variable {config : AdminApiConfig} {library : PasswordLibrary} {keepAliveTimeout : Nat}
  {ops after final : Operations} {event : OperationEvent}
  {history seen later : List OperationSeen}

/-! ## What is answered -/

/-- A handler that answers at once has been rejected by its extractor, or its body answers. -/
theorem extracted {Value : Type} {given : Option Value} {body : Value → Begins} {answer : Answer}
    (begins : given.elim (.responds .rejected) body = .answers answer) :
    answer.ofSessions = false ∨ ∃ value, body value = .answers answer := by
  cases given with
  | none =>
      cases begins
      exact .inl rfl
  | some value => exact .inr ⟨value, begins⟩

theorem invoke_sessions {http : HttpRequest} {registry : SessionRegistry} {handler : Handler}
    {answer : Answer} (begins : invoke http registry handler = .answers answer) :
    answer.ofSessions = false ∨ answer = .sessions (sessions registry) ∨
      answer = .stats registry.count := by
  cases handler with
  | sessions => exact .inr (.inl (Begins.answers.inj begins).symm)
  | stats => exact .inr (.inr (Begins.answers.inj begins).symm)
  | login | logout =>
      cases begins
      exact .inl rfl
  | health => contradiction
  | notice =>
      rcases extracted begins with plain | ⟨req, answers⟩
      · exact .inl plain
      · rw [notice] at answers
        split at answers
        · cases answers
          exact .inl rfl
        · contradiction
  | scoresByAccount | scoresTop | disconnect =>
      rcases extracted begins with plain | ⟨value, answers⟩
      · exact .inl plain
      · contradiction

/-- An answer about the sessions is made from the registry as it is. -/
theorem answer_sessions
    (taken : (operations config library keepAliveTimeout).step ops event = some (after, seen))
    {id : RequestId} {answer : Answer} (member : .answered id answer ∈ seen)
    (about : answer.ofSessions = true) :
    answer = .sessions (sessions ops.server.registry) ∨
      answer = .stats ops.server.registry.count := by
  cases operation_step_cases taken with
  | requested | served => simp at member
  | disconnected other http handler sessionId =>
      simp only [List.mem_cons, reduceCtorEq, OperationSeen.answered.injEq, List.not_mem_nil,
        or_false, false_or] at member
      rw [member.2] at about
      contradiction
  | began => contradiction
  | replied other http handler made entrusted new begins =>
      rw [List.mem_singleton, OperationSeen.answered.injEq] at member
      rw [member.2] at about ⊢
      rcases invoke_sessions begins with plain | way
      · rw [plain] at about
        contradiction
      · exact way
  | published other message reply code =>
      rcases List.mem_append.mp member with member | member
      · split at member <;> simp at member
      · rw [List.mem_singleton, OperationSeen.answered.injEq] at member
        rw [member.2] at about
        contradiction
  | answered other wait made waiting elsewhere =>
      rw [List.mem_singleton, OperationSeen.answered.injEq] at member
      rw [member.2, elsewhere] at about
      contradiction

/-- Whatever a request is answered about the sessions is so when it is answered: `sessions`
lists the live ones with their accounts, each once, and `stats` has their number. -/
theorem sessions_accurate
    (run : (operations config library keepAliveTimeout).Reaches ops history)
    (taken : (operations config library keepAliveTimeout).step ops event = some (after, seen))
    {id : RequestId} :
    (∀ list, .answered id (.sessions list) ∈ seen →
      (∀ dto, dto ∈ list ↔ ∃ task, ops.server.tasks.get dto.sessionId = some task ∧
        task.stage.registered = true ∧
        dto = ⟨dto.sessionId, (LoginServer.service keepAliveTimeout).user task.fields, 0,
          ((LoginServer.service keepAliveTimeout).user task.fields).isSome⟩) ∧
      (list.map SessionDto.sessionId).Nodup) ∧
    (∀ number, .answered id (.stats number) ∈ seen →
      number = (liveSessions ops.server).card) := by
  have owned := reaches_owned (reaches_loginServer run)
  constructor
  · intro list answered
    have made : list = sessions ops.server.registry := by
      rcases answer_sessions taken answered rfl with same | other
      · exact Answer.sessions.inj same
      · contradiction
    subst made
    constructor
    · intro dto
      rw [sessions, Multiset.mem_map]
      constructor
      · rintro ⟨info, member, rfl⟩
        obtain ⟨task, present, registered, user⟩ := (mem_snapshot_live owned).mp member
        refine ⟨task, present, registered, ?_⟩
        rw [user]
        rfl
      · intro ⟨task, present, registered, shape⟩
        refine ⟨⟨dto.sessionId, (LoginServer.service keepAliveTimeout).user task.fields⟩, ?_,
          shape.symm⟩
        exact (mem_snapshot_live owned).mpr ⟨task, present, registered, rfl⟩
    · rw [sessions, Multiset.map_map]
      exact ops.server.registry.snapshot_nodup
  · intro number answered
    rcases answer_sessions taken answered rfl with other | same
    · contradiction
    · rw [Answer.stats.inj same, SessionRegistry.count, registry_keys owned]

/-- An admin logs in and asks for the sessions, of which there is one. -/
def listSessions : List OperationEvent :=
  disconnectAndNotice.take 7 ++
    [.api (.arrive 1 (withKey .get "/api/sessions")),
      .api (.redis 1 .done), .api (.redis 1 .done)]

theorem sessions_accurate_one :
    ∃ ops history after seen list,
      (operations sampleConfig sampleLibrary 10).exec idle listSessions = some (ops, history) ∧
        (operations sampleConfig sampleLibrary 10).step ops (.handler 1) = some (after, seen) ∧
        .answered 1 (.sessions list) ∈ seen ∧ (list.map SessionDto.sessionId).Nodup ∧
        ⟨1, none, 0, false⟩ ∈ list := by
  have runs : ∃ ops history after seen list task,
      (operations sampleConfig sampleLibrary 10).exec idle listSessions = some (ops, history) ∧
        (operations sampleConfig sampleLibrary 10).step ops (.handler 1) = some (after, seen) ∧
        seen[0]? = some (.answered 1 (.sessions list)) ∧
        ops.server.tasks.get 1 = some task ∧ task.stage.registered = true ∧
        (LoginServer.service 10).user task.fields = none :=
    ⟨_, _, _, _, _, _, rfl, rfl, rfl, rfl, rfl, rfl⟩
  obtain ⟨ops, history, after, seen, list, task, executed, taken, first, present, registered,
    nobody⟩ := runs
  have initial : (operations sampleConfig sampleLibrary 10).Initial idle :=
    ⟨⟨rfl, rfl, rfl⟩, rfl, rfl⟩
  have answered := List.mem_of_getElem? first
  have accurate := (sessions_accurate (Machine.reaches_of_exec initial executed) taken).1 list
    answered
  refine ⟨ops, history, after, seen, list, executed, taken, answered, accurate.2, ?_⟩
  apply (accurate.1 ⟨1, none, 0, false⟩).mpr
  refine ⟨task, present, registered, ?_⟩
  rw [nobody]
  rfl

/-! ## What a disconnect leads to -/

end RustGameserver.Admin
