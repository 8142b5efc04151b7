import RustGameserver.LoginServer.Session
import RustGameserver.Session.KeepAlive

/-!
Contract: how often a LoginServer session authenticates.

Owns:
- what a step does when it hands the session the result of a successful login;
- the one kind of step after which a session has authenticated twice;
- a client that asks twice before the first answer.

Does not own: how many logins a client may have under way.
-/

namespace RustGameserver.LoginServer

open RustGameserver.Foundation
open RustGameserver.Net
open RustGameserver.Proto
open RustGameserver.Session

variable {keepAliveTimeout : Nat} {task after : Task Session Work Reply LoginOutcome}
  {event : Event Reply} {seen : List (Seen Session Work Reply LoginOutcome)}

/-- The payload of a successful login. -/
def successResponse (token : String) : Payload := .loginResponse ⟨true, 0, token⟩

/-- How many of the payloads accepted report a success. -/
def successes (seen : List (Seen Session Work Reply LoginOutcome)) : Nat :=
  (accepted seen).countP isSuccess

theorem successes_append (seen later : List (Seen Session Work Reply LoginOutcome)) :
    successes (seen ++ later) = successes seen + successes later := by
  rw [successes, accepted_append, List.countP_append]
  rfl

/-- The step hands the session the result of a login that succeeded. -/
def Resolves (task : Task Session Work Reply LoginOutcome) (event : Event Reply)
    (account : Account) (token : String) : Prop :=
  ∃ now job inner, event = .select now none ∧
    task.inner.tryRecv = some ((job, .success account token), inner)

/-- A session that already has an account is handed another success, which names a
different user or for which the outbox takes the response. -/
def Repeats (task : Task Session Work Reply LoginOutcome) (event : Event Reply) : Prop :=
  ∃ account token old, Resolves task event account token ∧ task.fields.user = some old ∧
    (old ≠ account.userId ∨ (task.path.send (successResponse token)).isSome = true)

/-- The step leaves the user id of an authenticated session alone. -/
def KeepsUser (keepAliveTimeout : Nat) (task : Task Session Work Reply LoginOutcome)
    (event : Event Reply) : Prop :=
  ∀ after seen userId, task.step (service keepAliveTimeout) event = some (after, seen) →
    task.fields.user = some userId → after.fields.user = some userId

/-! ## One step -/

/-- A success makes the session the user's, and is told if the outbox takes it. -/
theorem resolves_step {account : Account} {token : String}
    (resolves : Resolves task event account token)
    (taken : task.step (service keepAliveTimeout) event = some (after, seen)) :
    task.stage.inLoop = true ∧ after.fields.user = some account.userId ∧
      after.stage.inLoop = (task.path.send (successResponse token)).isSome ∧
      successes seen = (task.path.send (successResponse token)).isSome.toNat := by
  obtain ⟨now, job, inner, rfl, received⟩ := resolves
  simp only [Task.step, Option.ite_none_right_eq_some, Option.some.injEq] at taken
  obtain ⟨⟨stage, _⟩, outcome⟩ := taken
  have inLoop : task.stage.inLoop = true := by
    rw [stage]
    rfl
  refine ⟨inLoop, ?_⟩
  simp only [Task.select, received] at outcome
  cases sent : task.path.send (successResponse token) with
  | none =>
      simp only [service, Session.onLoginOutcome, Task.perform, Task.sendFlow] at outcome
      rw [show task.path.send (.loginResponse ⟨true, LoginErrorCode.success.toInt32, token⟩) = none
        from sent] at outcome
      cases outcome
      exact ⟨rfl, rfl, rfl⟩
  | some path =>
      simp only [service, Session.onLoginOutcome, Task.perform, Task.sendFlow] at outcome
      rw [show task.path.send (.loginResponse ⟨true, LoginErrorCode.success.toInt32, token⟩) =
        some path from sent] at outcome
      cases outcome
      exact ⟨rfl, rfl, rfl⟩

/-- A handler that does not authenticate leaves the account alone and tells of no
success. -/
theorem quiet_handler {prepared : Task Session Work Reply LoginOutcome}
    {said more : List (Seen Session Work Reply LoginOutcome)} {cause : Cause}
    {reaction : Reaction Session Work}
    (takes : Task.Takes (service keepAliveTimeout) task prepared said cause reaction)
    (performed : Task.Performed prepared cause reaction after more)
    (plain : reaction.renews = false) :
    after.fields.user = task.fields.user ∧ successes (said ++ more) = 0 := by
  have user : reaction.fields.user = reaction.userAfter task.fields.user := by
    cases takes with
    | greeting => rfl
    | frame now message => exact (service keepAliveTimeout).onRemote_user task.fields now message
    | result now job outcome =>
        exact (service keepAliveTimeout).onInner_user task.fields now outcome
  have failure : ∀ fields payload, reaction = .send fields payload → isSuccess payload = false := by
    intro fields payload same
    cases takes with
    | greeting =>
        cases same
        rfl
    | frame now message =>
        exact (service keepAliveTimeout).onRemote_success task.fields now message fields payload
          same
    | result now job outcome =>
        exact (service keepAliveTimeout).onInner_success task.fields now outcome fields payload same
  have first : successes said = 0 := by
    cases takes <;> rfl
  rw [performed.frame_eq.1, user, successes_append, first]
  cases performed with
  | send fields payload =>
      have quiet := failure fields payload rfl
      simp [successes, accepted, Seen.acceptedPayload, quiet, Reaction.userAfter]
  | authenticate => contradiction
  | authenticateRefuse => contradiction
  | _ => exact ⟨rfl, rfl⟩

theorem Session.Handles.plain {session : Session} {now : Nat} {message : MessageWrapper}
    {reaction : Reaction Session Work} (handles : session.Handles now message reaction) :
    reaction.renews = false := by
  cases handles <;> rfl

/-- Any step but a success leaves the account alone and tells of no success. -/
theorem quiet_step (taken : task.step (service keepAliveTimeout) event = some (after, seen))
    (unresolved : ∀ account token, ¬ Resolves task event account token) :
    (after.stage.inLoop = true → task.stage.inLoop = true) ∧
      after.fields.user = task.fields.user ∧ successes seen = 0 := by
  cases (Task.step_cases taken).moves with
  | rests rests =>
      refine ⟨rests.inLoop, by rw [rests.fields], ?_⟩
      rw [successes, accepted_of_silent rests.silent]
      rfl
  | @ran prepared said more cause reaction takes performed shape =>
      have plain : reaction.renews = false := by
        cases takes with
        | greeting => rfl
        | frame now message =>
            exact (task.fields.onRemote_cases now message).plain
        | @result inner now job outcome stage later received =>
            have made := Task.step_madeBy taken (.consumed job outcome) (by rw [shape]; simp)
            cases outcome with
            | failure code => rfl
            | dbError => rfl
            | success account token =>
                exfalso
                cases event with
                | select now frame =>
                    cases frame with
                    | none => exact unresolved account token ⟨now, job, inner, rfl, received⟩
                    | some frame => exact made
                | _ => exact made
      rw [shape]
      exact ⟨fun _ => takes.inLoop, quiet_handler takes performed plain⟩

/-! ## Runs -/

/-- What a session knows after it has told of so many successes, as long as none was
repeated. -/
structure Counts (task : Task Session Work Reply LoginOutcome) (told : Nat) : Prop where
  atMost : told ≤ 1
  anonymous : task.fields.user = none → told = 0
  authenticated : task.stage.inLoop = true → ∀ userId, task.fields.user = some userId → told = 1

variable {told : Nat}

/-- The first success of a session without a user is told at most once. -/
theorem Counts.first (known : Counts task told) {account : Account} {token : String}
    (resolves : Resolves task event account token)
    (taken : task.step (service keepAliveTimeout) event = some (after, seen))
    (anonymous : task.fields.user = none) : Counts after (told + successes seen) := by
  obtain ⟨_, user, goesOn, told_eq⟩ := resolves_step resolves taken
  rw [told_eq, known.anonymous anonymous, Nat.zero_add]
  constructor
  · exact Bool.toNat_le _
  · intro nobody
    rw [user] at nobody
    contradiction
  · intro listening userId _
    rw [goesOn] at listening
    rw [listening]
    rfl

/-- A further success for the same user that the outbox does not take is not told. -/
theorem Counts.again (known : Counts task told) {account : Account} {token old : String}
    (resolves : Resolves task event account token)
    (taken : task.step (service keepAliveTimeout) event = some (after, seen))
    (own : task.fields.user = some old) (once : ¬ Repeats task event) :
    Counts after (told + successes seen) ∧ after.fields.user = some old := by
  obtain ⟨_, user, goesOn, told_eq⟩ := resolves_step resolves taken
  have same : old = account.userId := by
    by_contra different
    exact once ⟨account, token, old, resolves, own, .inl different⟩
  have refused : (task.path.send (successResponse token)).isSome = false := by
    by_contra sent
    rw [Bool.not_eq_false] at sent
    exact once ⟨account, token, old, resolves, own, .inr sent⟩
  rw [refused] at goesOn told_eq
  rw [told_eq, same]
  refine ⟨⟨known.atMost, ?_, ?_⟩, user⟩
  · intro nobody
    rw [user] at nobody
    contradiction
  · intro listening
    rw [goesOn] at listening
    contradiction

theorem Counts.quiet (known : Counts task told)
    (taken : task.step (service keepAliveTimeout) event = some (after, seen))
    (unresolved : ∀ account token, ¬ Resolves task event account token) :
    Counts after (told + successes seen) ∧ after.fields.user = task.fields.user := by
  obtain ⟨inLoop, user, nothing⟩ := quiet_step taken unresolved
  rw [nothing]
  refine ⟨⟨known.atMost, ?_, ?_⟩, user⟩
  · intro nobody
    rw [user] at nobody
    exact known.anonymous nobody
  · intro listening userId found
    rw [user] at found
    exact known.authenticated (inLoop listening) userId found

/-- A step that repeats no success keeps the user and adds at most the first success. -/
theorem Counts.once (known : Counts task told)
    (taken : task.step (service keepAliveTimeout) event = some (after, seen))
    (once : ¬ Repeats task event) :
    Counts after (told + successes seen) ∧ KeepsUser keepAliveTimeout task event := by
  have keeps (kept : ∀ userId, task.fields.user = some userId →
      after.fields.user = some userId) : KeepsUser keepAliveTimeout task event := by
    intro other made userId stepped own
    have same := taken.symm.trans stepped
    rw [Option.some.injEq, Prod.mk.injEq] at same
    rw [← same.1]
    exact kept userId own
  by_cases resolved : ∃ account token, Resolves task event account token
  · obtain ⟨account, token, resolves⟩ := resolved
    cases own : task.fields.user with
    | none => exact ⟨known.first resolves taken own, keeps (by simp [own])⟩
    | some old =>
        obtain ⟨counts, user⟩ := known.again resolves taken own once
        refine ⟨counts, keeps fun userId found => ?_⟩
        rw [user, ← own]
        exact found
  · have unresolved : ∀ account token, ¬ Resolves task event account token :=
      fun account token resolves => resolved ⟨account, token, resolves⟩
    obtain ⟨counts, user⟩ := known.quiet taken unresolved
    exact ⟨counts, keeps fun userId found => user.trans found⟩

/-- A step that repeats a success changes the user or tells of a second success. -/
theorem Counts.twice (known : Counts task told)
    (taken : task.step (service keepAliveTimeout) event = some (after, seen))
    (repeats : Repeats task event) :
    ¬ KeepsUser keepAliveTimeout task event ∨ told + successes seen = 2 := by
  obtain ⟨account, token, old, resolves, own, again⟩ := repeats
  obtain ⟨inLoop, user, goesOn, told_eq⟩ := resolves_step resolves taken
  rcases again with different | sent
  · refine .inl fun keeps => ?_
    have same := keeps after seen old taken own
    rw [user, Option.some.injEq] at same
    exact different same.symm
  · rw [told_eq, sent, known.authenticated inLoop old own]
    exact .inr rfl

/-- From any such session on, the user is kept and no second success is told of in
exactly the runs in which none is repeated. -/
theorem counts_iff (events : List (Event Reply)) :
    ∀ {task final : Task Session Work Reply LoginOutcome} {told : Nat}
      {history : List (Seen Session Work Reply LoginOutcome)}, Counts task told →
      (machine (service keepAliveTimeout)).exec task events = some (final, history) →
      ((told + successes history ≤ 1 ∧
          (machine (service keepAliveTimeout)).EachStep (KeepsUser keepAliveTimeout) task events) ↔
        (machine (service keepAliveTimeout)).EachStep (fun task event => ¬ Repeats task event)
          task events) := by
  induction events with
  | nil =>
      intro task final told history known executed
      rw [Machine.exec, Option.some.injEq, Prod.mk.injEq] at executed
      rw [← executed.2]
      exact iff_of_true ⟨known.atMost, trivial⟩ trivial
  | cons event rest inductionHypothesis =>
      intro task final told history known executed
      obtain ⟨next, seen, later, taken, tail, rfl⟩ := Machine.exec_cons executed
      rw [Machine.eachStep_cons taken, Machine.eachStep_cons taken, successes_append,
        ← Nat.add_assoc]
      by_cases repeats : Repeats task event
      · have spoilt := known.twice taken repeats
        constructor
        · rintro ⟨atMost, keeps, _⟩
          rcases spoilt with loses | twice
          · exact absurd keeps loses
          · omega
        · rintro ⟨once, _⟩
          exact absurd repeats once
      · obtain ⟨counts, keeps⟩ := known.once taken repeats
        have onwards := inductionHypothesis counts tail
        constructor
        · rintro ⟨atMost, _, kept⟩
          exact ⟨repeats, onwards.mp ⟨atMost, kept⟩⟩
        · rintro ⟨_, each⟩
          obtain ⟨atMost, kept⟩ := onwards.mpr each
          exact ⟨atMost, keeps, kept⟩

/-- A LoginServer session hands out at most one success, and never changes its user,
in exactly the runs in which it is never handed a further success that it could tell
of or that names another user. -/
theorem authenticates_once_iff {keepAliveTimeout : Nat} {sessionId : SessionId}
    {kick : KickToken} {now : Nat} {events : List (Event Reply)}
    {task : Task Session Work Reply LoginOutcome}
    {history : List (Seen Session Work Reply LoginOutcome)}
    (executed : (machine (service keepAliveTimeout)).exec
      (.create (service keepAliveTimeout) sessionId kick now) events = some (task, history)) :
    ((accepted history).countP isSuccess ≤ 1 ∧
        (machine (service keepAliveTimeout)).EachStep (KeepsUser keepAliveTimeout)
          (.create (service keepAliveTimeout) sessionId kick now) events) ↔
      (machine (service keepAliveTimeout)).EachStep (fun task event => ¬ Repeats task event)
        (.create (service keepAliveTimeout) sessionId kick now) events := by
  have known : Counts (Task.create (service keepAliveTimeout) sessionId kick now) 0 :=
    ⟨Nat.zero_le 1, fun _ => rfl, nofun⟩
  have decided := counts_iff events known executed
  rw [Nat.zero_add] at decided
  exact decided

/-- A client asks once and is told of its success. -/
def answered : List (Event Reply) :=
  [.greet, .poll false, .select 1 (some (.message ⟨0, some (.loginRequest ⟨"alice", [1]⟩)⟩)),
    .reply 0 (.account (.ok (some ⟨7, "alice", "", "", 0⟩))), .reply 0 (.verified (.ok true)),
    .reply 0 (.touched (.ok ())), .reply 0 (.issued (.ok (some "a"))), .deliver 0,
    .poll false, .select 2 none]

theorem authenticates_once_iff_answered :
    ∃ task history,
      (machine (service 10)).exec (.create (service 10) 1 ⟨0⟩ 0) answered = some (task, history) ∧
      (((accepted history).countP isSuccess ≤ 1 ∧
          (machine (service 10)).EachStep (KeepsUser 10) (.create (service 10) 1 ⟨0⟩ 0) answered) ↔
        (machine (service 10)).EachStep (fun task event => ¬ Repeats task event)
          (.create (service 10) 1 ⟨0⟩ 0) answered) := by
  have runs : ∃ task history,
      (machine (service 10)).exec (.create (service 10) 1 ⟨0⟩ 0) answered = some (task, history) :=
    ⟨_, _, rfl⟩
  obtain ⟨task, history, executed⟩ := runs
  exact ⟨task, history, executed, authenticates_once_iff executed⟩

/-- A client asks for two accounts before the first answer. -/
def pipelined : List (Event Reply) :=
  [.greet, .poll false, .select 1 (some (.message ⟨0, some (.loginRequest ⟨"alice", [1]⟩)⟩)),
    .poll false, .select 2 (some (.message ⟨0, some (.loginRequest ⟨"bob", [2]⟩)⟩)),
    .reply 0 (.account (.ok (some ⟨7, "alice", "", "", 0⟩))), .reply 0 (.verified (.ok true)),
    .reply 0 (.touched (.ok ())), .reply 0 (.issued (.ok (some "a"))), .deliver 0,
    .reply 1 (.account (.ok (some ⟨8, "bob", "", "", 0⟩))), .reply 1 (.verified (.ok true)),
    .reply 1 (.touched (.ok ())), .reply 1 (.issued (.ok (some "b"))), .deliver 1,
    .poll false, .select 3 none, .poll false]

/-- Handing over the second result makes two successes and changes the user. -/
theorem authenticates_pipelined_false :
    ∃ task history next seen,
      (machine (service 10)).exec (.create (service 10) 1 ⟨0⟩ 0) pipelined =
        some (task, history) ∧
      task.step (service 10) (.select 4 none) = some (next, seen) ∧
      (accepted (history ++ seen)).countP isSuccess = 2 ∧
      accepted (history ++ seen) =
        [.connectedResponse ⟨0⟩, successResponse "a", successResponse "b"] ∧
      task.fields.user = some "alice" ∧ next.fields.user = some "bob" :=
  ⟨_, _, _, _, rfl, rfl, rfl, rfl, rfl, rfl⟩

end RustGameserver.LoginServer
