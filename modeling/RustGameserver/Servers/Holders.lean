import RustGameserver.Servers.Kicks

/-!
Contract: which session of a server holds a user id.

Owns:
- a session that holds a user id and has not been kicked is in both maps of the
  registry, alone, and authenticated last;
- it holds the user id before its client is told.

Does not own: how soon a kicked session ends.
-/

namespace RustGameserver.Servers

open RustGameserver.Foundation
open RustGameserver.Net
open RustGameserver.Proto
open RustGameserver.Session

variable {Fields Work Reply Inner : Type} {service : Service Fields Work Reply Inner}
  {state : ServerState Fields Work Reply Inner}
  {history : List (ServerSeen Fields Work Reply Inner)}

/-- The session is between `register` and `remove`, has authenticated as the user
and has not been kicked. -/
structure Holds (service : Service Fields Work Reply Inner)
    (state : ServerState Fields Work Reply Inner) (sessionId : SessionId) (userId : String)
    (task : Task Fields Work Reply Inner) : Prop where
  present : state.tasks.get sessionId = some task
  registered : task.stage.registered = true
  account : service.user task.fields = some userId
  unkicked : task.kick ∉ state.cancelled

theorem Holds.mapped (run : (server service).Reaches state history) {sessionId : SessionId}
    {userId : String} {task : Task Fields Work Reply Inner}
    (holds : Holds service state sessionId userId task) :
    state.registry.authenticated.get userId = some sessionId :=
  (reaches_owned run).mappings sessionId task userId holds.present holds.registered holds.account
    holds.unkicked

/-- A session that has just registered its account authenticated last. -/
theorem lastAuthenticated_announced (front : List (ServerSeen Fields Work Reply Inner))
    (sessionId : SessionId) (fields : Fields) (userId : String) (cancelled : List KickToken) :
    lastAuthenticated userId (callsOf (front ++ [.session sessionId (.authenticate fields userId),
      .registry ⟨.authenticate sessionId userId, cancelled⟩])) = some sessionId := by
  rw [callsOf_append]
  show lastAuthenticated userId
    (callsOf front ++ [⟨.authenticate sessionId userId, cancelled⟩]) = _
  rw [lastAuthenticated_snoc]
  exact if_pos rfl

/-- At most one registered session that has not been kicked holds a user id. -/
theorem holders_unique (run : (server service).Reaches state history) :
    (∀ sessionId userId task, Holds service state sessionId userId task →
      (∃ entry, state.registry.sessions.get sessionId = some entry ∧
        entry.userId = some userId ∧ entry.kick = task.kick) ∧
      state.registry.authenticated.get userId = some sessionId ∧
      lastAuthenticated userId (callsOf history) = some sessionId) ∧
    (∀ one other userId first second, Holds service state one userId first →
      Holds service state other userId second → one = other) ∧
    -- a success response is enqueued after the registration of the account
    (∀ earlier sessionId cause payload later,
      history = earlier ++ .session sessionId (.accepted cause payload) :: later →
        service.isSuccess payload = true →
          ∃ front fields userId cancelled,
            earlier = front ++ [.session sessionId (.authenticate fields userId),
              .registry ⟨.authenticate sessionId userId, cancelled⟩] ∧
            service.user fields = some userId ∧
            lastAuthenticated userId (callsOf earlier) = some sessionId) := by
  refine ⟨?_, ?_, ?_⟩
  · intro sessionId userId task holds
    have mapped := holds.mapped run
    obtain ⟨entry, present, kick, user⟩ :=
      (reaches_owned run).entries sessionId task holds.present holds.registered
    refine ⟨⟨entry, present, user.trans holds.account, kick⟩, mapped, ?_⟩
    exact (registryRuns_follows (reaches_registry run)).mappings userId sessionId mapped
  · intro one other userId first second here there
    have mapped := here.mapped run
    rw [there.mapped run, Option.some.injEq] at mapped
    exact mapped.symm
  · intro earlier sessionId cause payload later shape success
    obtain ⟨front, fields, userId, cancelled, rfl, user⟩ :=
      reaches_announced run earlier _ later shape success
    exact ⟨front, fields, userId, cancelled, rfl, user,
      lastAuthenticated_announced front sessionId fields userId cancelled⟩

/-- Of two clients that authenticate as one user, the second holds the user id. -/
theorem holders_unique_duplicateLogin :
    ∃ state history, (server (GameServer.service 10)).exec ⟨.default, .empty, 0, [], [], false⟩
        duplicateLogin = some (state, history) ∧
      (∃ task, Holds (GameServer.service 10) state 2 "user" task) ∧
      (∀ one task, Holds (GameServer.service 10) state one "user" task → one = 2) ∧
      lastAuthenticated "user" (callsOf history) = some 2 := by
  have runs : ∃ state history task,
      (server (GameServer.service 10)).exec ⟨.default, .empty, 0, [], [], false⟩
        duplicateLogin = some (state, history) ∧
      state.tasks.get 2 = some task ∧ task.stage.registered = true ∧
      (GameServer.service 10).user task.fields = some "user" ∧ task.kick = ⟨1⟩ ∧
      state.cancelled = [⟨0⟩] :=
    ⟨_, _, _, rfl, rfl, rfl, rfl, rfl, rfl⟩
  obtain ⟨state, history, task, executed, present, registered, account, kick, cancelled⟩ := runs
  have start : (server (GameServer.service 10)).Initial ⟨.default, .empty, 0, [], [], false⟩ := rfl
  have run := Machine.reaches_of_exec start executed
  have holds : Holds (GameServer.service 10) state 2 "user" task :=
    ⟨present, registered, account, by rw [kick, cancelled]; decide⟩
  have unique := holders_unique run
  refine ⟨state, history, executed, ⟨task, holds⟩, ?_, (unique.1 2 "user" task holds).2.2⟩
  intro one first here
  exact unique.2.1 one 2 "user" first task here holds

end RustGameserver.Servers
