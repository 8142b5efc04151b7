import RustGameserver.GameServer.Session
import RustGameserver.Session.Ownership

/-!
Contract: whom the registry of a server kicks.

Owns:
- whose token each registry call of a run cancels;
- that the token of a session task is the one its session registered with.

Does not own: what a cancelled token does to its session.
-/

namespace RustGameserver.Servers

open RustGameserver.Foundation
open RustGameserver.Net
open RustGameserver.Proto
open RustGameserver.Session

variable {Fields Work Reply Inner : Type} {service : Service Fields Work Reply Inner}
  {state : ServerState Fields Work Reply Inner}
  {history : List (ServerSeen Fields Work Reply Inner)}

/-- The observations of a session register nobody. -/
theorem observeAll_registered {seen : List (Seen Fields Work Reply Inner)}
    {sessionId owner : SessionId} {kick token : KickToken}
    (registered : Registered (callsOf (state.observeAll sessionId kick seen).2) owner token) :
    False := by
  obtain ⟨made, member, call⟩ := registered
  induction seen generalizing state with
  | nil => contradiction
  | cons first rest inductionHypothesis =>
      rw [ServerState.observeAll, callsOf_append, List.mem_append] at member
      rcases member with member | member
      · cases calls : first.registryCall sessionId with
        | none =>
            rw [callsOf, (ServerState.observe_silent state sessionId kick calls).2] at member
            contradiction
        | some other =>
            rw [callsOf, (ServerState.observe_calls state sessionId kick calls).2,
              List.mem_singleton] at member
            have own : other = .register owner token := by rw [← call, member]
            rw [own] at calls
            cases first <;> simp [Seen.registryCall] at calls
      · exact inductionHypothesis member

/-- The sessions and the tokens they have registered with. -/
theorem reaches_registered (run : (server service).Reaches state history)
    (sessionId : SessionId) (kick : KickToken) :
    Registered (callsOf history) sessionId kick ↔
      ∃ task, state.tasks.get sessionId = some task ∧ task.kick = kick := by
  apply run.invariant
  · rintro state rfl
    simp [Registered, callsOf]
  · intro before history event after seen _ known taken
    cases server_step_cases taken with
    | drawn => simpa using known
    | accepted newcomer newKick now newId =>
        rw [callsOf_append]
        show Registered (callsOf history ++ [⟨.register newcomer newKick, []⟩])
          sessionId kick ↔ _
        rw [registered_snoc, known, RegistryCall.register.injEq]
        simp only [FiniteMap.get_insert]
        by_cases same : sessionId = newcomer
        · subst same
          simp [newId, Task.create]
        · simp [same, Ne.symm same]
    | @moved moved seen other event task present admitted stepped =>
        rw [callsOf_append, registered_append_of_silent _ observeAll_registered, known]
        simp only [moved_tasks]
        by_cases same : sessionId = other
        · subst same
          simp [present, stepped_kick (Task.step_cases stepped)]
        · simp [same]
    | disconnected other =>
        rw [callsOf_append]
        show Registered (callsOf history ++ [⟨.disconnect other, _⟩]) sessionId kick ↔ _
        rw [registered_snoc, known]
        simp [ServerState.call]
    | shutDown => simpa using known

/-- Kicks are targeted: in every run, whatever the sessions and the AdminApi do. -/
theorem kicks_targeted (run : (server service).Reaches state history)
    {earlier later : List CallSeen} {seen : CallSeen}
    (shape : callsOf history = earlier ++ seen :: later) :
    -- a session is kicked by a disconnect of its own, or by another session that
    -- authenticates for the user id for which it was the last one to do so
    (∀ sessionId task, state.tasks.get sessionId = some task → task.kick ∈ seen.cancelled →
      seen.call = .disconnect sessionId ∨
        ∃ newcomer userId, seen.call = .authenticate newcomer userId ∧ newcomer ≠ sessionId ∧
          ∃ front cancelled since,
            earlier = front ++ ⟨.authenticate sessionId userId, cancelled⟩ :: since ∧
              ∀ entry ∈ since, ∀ other, entry.call ≠ .authenticate other userId) ∧
      -- every cancelled token belongs to a session
      (∀ kick ∈ seen.cancelled, ∃ sessionId task,
        state.tasks.get sessionId = some task ∧ task.kick = kick) ∧
      (∀ sessionId kick, seen.call = .register sessionId kick → seen.cancelled = []) ∧
      (∀ sessionId, seen.call = .remove sessionId → seen.cancelled = []) ∧
      seen.cancelled.length ≤ 1 := by
  have registry := reaches_registry run
  have targeted := registryRuns_targeted registry earlier seen later shape
  have whole {sessionId : SessionId} {kick : KickToken}
      (registered : Registered earlier sessionId kick) :
      Registered (callsOf history) sessionId kick := by
    rw [shape]
    exact registered.grow _
  refine ⟨?_, ?_, targeted.register, targeted.remove, targeted.single⟩
  · intro sessionId task present member
    obtain ⟨owner, own⟩ := targeted.owned task.kick member
    have registered := (reaches_registered run sessionId task.kick).mpr ⟨task, present, rfl⟩
    have same : owner = sessionId :=
      (registryRuns_follows registry).owner task.kick owner sessionId (whole own) registered
    rw [same] at own
    exact targeted.aimed task.kick member sessionId own
  · intro kick member
    obtain ⟨owner, own⟩ := targeted.owned kick member
    obtain ⟨task, present, token⟩ := (reaches_registered run owner kick).mp (whole own)
    exact ⟨owner, task, present, token⟩

/-- A client connects with a token and has its one lookup answered. -/
def connects (sessionId : SessionId) (value : String) : List (ServerEvent GameServer.Reply) :=
  [.session sessionId .greet, .session sessionId (.poll false),
    .session sessionId (.select 1 (some (.message ⟨0, some (.gameConnectRequest ⟨"t"⟩)⟩))),
    .session sessionId (.reply 0 (.token (.ok (some value)))), .session sessionId (.deliver 0),
    .session sessionId (.poll false), .session sessionId (.select 2 none)]

/-- Two clients authenticate as one user. -/
def duplicateLogin : List (ServerEvent GameServer.Reply) :=
  [.generate, .generate, .accept 1 ⟨0⟩ 0, .accept 2 ⟨1⟩ 0] ++ connects 1 "7:user" ++
    connects 2 "7:user"

/-- The calls of `duplicateLogin` before the second login. -/
def beforeKick : List CallSeen :=
  [⟨.register 1 ⟨0⟩, []⟩, ⟨.register 2 ⟨1⟩, []⟩, ⟨.authenticate 1 "user", []⟩]

theorem kicks_targeted_duplicateLogin :
    ∃ state history, (server (GameServer.service 10)).exec ⟨.default, .empty, 0, [], [], false⟩
        duplicateLogin = some (state, history) ∧
      callsOf history = beforeKick ++ [⟨.authenticate 2 "user", [⟨0⟩]⟩] ∧
      ∃ front cancelled since,
        beforeKick = front ++ ⟨.authenticate 1 "user", cancelled⟩ :: since ∧
          ∀ entry ∈ since, ∀ other, entry.call ≠ .authenticate other "user" := by
  have runs : ∃ state history task,
      (server (GameServer.service 10)).exec ⟨.default, .empty, 0, [], [], false⟩
        duplicateLogin = some (state, history) ∧
      callsOf history = beforeKick ++ [⟨.authenticate 2 "user", [⟨0⟩]⟩] ∧
      state.tasks.get 1 = some task ∧ task.kick = ⟨0⟩ :=
    ⟨_, _, _, rfl, rfl, rfl, rfl⟩
  obtain ⟨state, history, task, executed, calls, present, kick⟩ := runs
  have start : (server (GameServer.service 10)).Initial ⟨.default, .empty, 0, [], [], false⟩ := rfl
  have run := Machine.reaches_of_exec start executed
  have kicked := (kicks_targeted run calls).1 1 task present (by simp [kick])
  refine ⟨state, history, executed, calls, ?_⟩
  rcases kicked with disconnected | ⟨newcomer, userId, call, _, last⟩
  · contradiction
  · rw [RegistryCall.authenticate.injEq] at call
    rw [← call.2] at last
    exact last

end RustGameserver.Servers
