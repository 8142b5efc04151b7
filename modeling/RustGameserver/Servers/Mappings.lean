import RustGameserver.Servers.Kicks

/-!
Contract: the map from user ids to sessions, against the sessions themselves.

Owns:
- what the map must look like for every mapping to be live;
- the one kind of step after which it no longer does: a session that already has
  an account consumes the result of another login;
- a run in which such a mapping outlives every session.

Does not own: who holds a user id, which stays well defined all the same.
-/

namespace RustGameserver.Servers

open RustGameserver.Foundation
open RustGameserver.Net
open RustGameserver.Proto
open RustGameserver.Session

variable {Fields Work Reply Inner : Type} {service : Service Fields Work Reply Inner}

/-- Every mapping points to a live session that has authenticated as the user. -/
structure Represents (registry : SessionRegistry) : Prop where
  mapped : ∀ userId sessionId, registry.authenticated.get userId = some sessionId →
    ∃ entry, registry.sessions.get sessionId = some entry ∧ entry.userId = some userId
  /-- No session is the target of two user ids. -/
  single : ∀ one other sessionId, registry.authenticated.get one = some sessionId →
    registry.authenticated.get other = some sessionId → one = other
  /-- Without sessions there are no mappings. -/
  cleared : (∀ sessionId, registry.sessions.get sessionId = none) →
    ∀ userId, registry.authenticated.get userId = none

/-- The first part implies the others. -/
theorem represents_iff {registry : SessionRegistry} :
    Represents registry ↔
      ∀ userId sessionId, registry.authenticated.get userId = some sessionId →
        ∃ entry, registry.sessions.get sessionId = some entry ∧ entry.userId = some userId := by
  refine ⟨Represents.mapped, fun mapped => ⟨mapped, ?_, ?_⟩⟩
  · intro one other sessionId first second
    obtain ⟨entry, present, own⟩ := mapped one sessionId first
    obtain ⟨again, same, also⟩ := mapped other sessionId second
    rw [present, Option.some.injEq] at same
    rw [← same, own, Option.some.injEq] at also
    exact also
  · intro none userId
    cases target : registry.authenticated.get userId with
    | none => rfl
    | some sessionId =>
        obtain ⟨entry, present, _⟩ := mapped userId sessionId target
        rw [none sessionId] at present
        contradiction

/-! ## Steps that register an account -/

/-- The user id a handler registers. -/
def registers : Reaction Fields Work → Option String
  | .authenticate _ userId _ => some userId
  | .proceed _ | .stop _ | .send _ _ | .spawn _ _ => none

/-- The user id registered by the handler of the branch that `select!` takes. -/
def selectRegisters (service : Service Fields Work Reply Inner)
    (task : Task Fields Work Reply Inner) (now : Nat) : Option Frame → Option String
  | some (.message message) => registers (service.onRemote task.fields now message)
  | some .error | some .closed => none
  | none =>
      match task.inner.tryRecv with
      | some ((_, message), _) => registers (service.onInner task.fields now message)
      | none => none

/-- A session that has an account, to which its user id is mapped, consumes a
result that makes it register another user id. -/
def Displaces (service : Service Fields Work Reply Inner)
    (state : ServerState Fields Work Reply Inner) : ServerEvent Reply → Prop
  | .session sessionId (.select now frame) =>
      ∃ task userId old, state.tasks.get sessionId = some task ∧
        selectRegisters service task now frame = some userId ∧
        service.user task.fields = some old ∧ old ≠ userId ∧
        state.registry.authenticated.get old = some sessionId
  | _ => False

variable {task after : Task Fields Work Reply Inner} {seen : List (Seen Fields Work Reply Inner)}

theorem performed_calls (sessionId : SessionId) {cause : Cause}
    {reaction : Reaction Fields Work} (performed : Task.Performed task cause reaction after seen) :
    registryCalls sessionId seen =
      ((registers reaction).map (RegistryCall.authenticate sessionId)).toList := by
  cases performed <;> rfl

theorem onFrame_calls (sessionId : SessionId) (task : Task Fields Work Reply Inner) (now : Nat)
    (frame : Frame) :
    registryCalls sessionId (task.onFrame service now frame).2 =
      ((selectRegisters service task now (some frame)).map
        (RegistryCall.authenticate sessionId)).toList := by
  cases frame with
  | message message =>
      have performed := performed_calls sessionId
        (Task.perform_cases task .frame (service.onRemote task.fields now message))
      exact performed
  | error => rfl
  | closed => rfl

theorem select_calls (sessionId : SessionId) (task : Task Fields Work Reply Inner) (now : Nat)
    (frame : Option Frame) :
    registryCalls sessionId (task.select service now frame).2 =
      ((selectRegisters service task now frame).map
        (RegistryCall.authenticate sessionId)).toList := by
  cases frame with
  | some frame => exact onFrame_calls sessionId task now frame
  | none =>
      cases received : task.inner.tryRecv with
      | some taken =>
          obtain ⟨⟨job, message⟩, inner⟩ := taken
          have performed := performed_calls sessionId
            (Task.perform_cases { task with inner } (.result job)
              (service.onInner task.fields now message))
          simp only [Task.select, selectRegisters, received]
          exact performed
      | none =>
          simp only [Task.select, selectRegisters, received]
          split <;> rfl

/-- Outside `select!` no session registers an account. -/
theorem step_unregistered (sessionId : SessionId) {event : Event Reply}
    (other : ∀ now frame, event ≠ .select now frame)
    (taken : task.step service event = some (after, seen)) (userId : String) :
    registryCalls sessionId seen ≠ [.authenticate sessionId userId] := by
  intro calls
  obtain ⟨entry, member, call⟩ : ∃ entry ∈ seen,
      entry.registryCall sessionId = some (.authenticate sessionId userId) := by
    apply List.mem_filterMap.mp
    rw [show seen.filterMap _ = _ from calls]
    exact List.mem_singleton_self _
  have made := Task.step_madeBy taken entry member
  cases entry with
  | authenticate fields user =>
      cases event with
      | select now frame => exact other now frame rfl
      | _ => exact made
  | remove => simp [Seen.registryCall] at call
  | _ => contradiction

/-- A step registers an account exactly when its `select!` takes a branch that
does. -/
theorem step_registers (sessionId : SessionId) {event : Event Reply}
    (taken : task.step service event = some (after, seen)) (userId : String) :
    registryCalls sessionId seen = [.authenticate sessionId userId] ↔
      ∃ now frame, event = .select now frame ∧
        selectRegisters service task now frame = some userId := by
  by_cases select : ∃ now frame, event = .select now frame
  · obtain ⟨now, frame, rfl⟩ := select
    simp only [Task.step, Option.ite_none_right_eq_some, Option.some.injEq] at taken
    have calls : registryCalls sessionId ({ task with clock := now }.select service now frame).2 =
        ((selectRegisters service task now frame).map
          (RegistryCall.authenticate sessionId)).toList :=
      select_calls sessionId { task with clock := now } now frame
    rw [taken.2] at calls
    rw [show registryCalls sessionId seen = _ from calls]
    cases registered : selectRegisters service task now frame with
    | none => simp [registered]
    | some other => simp [registered]
  · have other : ∀ now frame, event ≠ .select now frame :=
      fun now frame same => select ⟨now, frame, same⟩
    refine iff_of_false (step_unregistered sessionId other taken userId) ?_
    rintro ⟨now, frame, same, _⟩
    exact other now frame same

/-! ## One step -/

variable {state next : ServerState Fields Work Reply Inner} {sessionId : SessionId}

/-- A new session leaves the mappings represented. -/
theorem Represents.register {registry : SessionRegistry} (represents : Represents registry)
    (kick : KickToken) (new : registry.sessions.get sessionId = none) :
    Represents (registry.register sessionId kick) := by
  rw [represents_iff]
  intro userId target mapped
  obtain ⟨entry, present, own⟩ := represents.mapped userId target mapped
  have different : target ≠ sessionId := by
    rintro rfl
    rw [new] at present
    contradiction
  rw [SessionRegistry.register_sessions, if_neg different]
  exact ⟨entry, present, own⟩

/-- So does the removal of a session. -/
theorem Represents.remove {registry : SessionRegistry} (represents : Represents registry)
    (sessionId : SessionId) : Represents (registry.remove sessionId) := by
  rw [represents_iff]
  intro userId target mapped
  rw [SessionRegistry.remove_authenticated] at mapped
  split at mapped
  · contradiction
  · next kept =>
      obtain ⟨entry, present, own⟩ := represents.mapped userId target mapped
      have different : target ≠ sessionId := by
        rintro rfl
        exact kept ⟨⟨entry, present, own⟩, mapped⟩
      rw [SessionRegistry.remove_sessions, if_neg different]
      exact ⟨entry, present, own⟩

/-- An authentication does exactly when it leaves no other user id mapped to the
session. -/
theorem Represents.authenticate {registry : SessionRegistry} (represents : Represents registry)
    {entry : Entry} (present : registry.sessions.get sessionId = some entry) (userId : String) :
    Represents (registry.authenticate sessionId userId).1 ↔
      ∀ old, old ≠ userId → registry.authenticated.get old ≠ some sessionId := by
  have sessions (other : SessionId) := registry.authenticate_sessions sessionId other userId
  have mappings (other : String) := registry.authenticate_authenticated sessionId userId other
  constructor
  · intro after old different mapped
    have still : (registry.authenticate sessionId userId).1.authenticated.get old =
        some sessionId := by
      rw [mappings, if_neg different]
      exact mapped
    obtain ⟨found, lookup, own⟩ := after.mapped old sessionId still
    rw [sessions, if_pos rfl, present, Option.map_some, Option.some.injEq] at lookup
    rw [← lookup, Option.some.injEq] at own
    exact different own.symm
  · intro free
    rw [represents_iff]
    intro other target mapped
    rw [mappings] at mapped
    split at mapped
    · next same =>
        rw [Option.some.injEq] at mapped
        rw [sessions, if_pos mapped.symm, present, same]
        exact ⟨_, rfl, rfl⟩
    · next different =>
        have elsewhere : target ≠ sessionId := by
          rintro rfl
          exact free other different mapped
        rw [sessions, if_neg elsewhere]
        exact represents.mapped other target mapped

/-- A step displaces a mapping through the account it registers. -/
theorem displaces_iff (sessionId : SessionId) {event : Event Reply}
    (present : state.tasks.get sessionId = some task)
    (taken : task.step service event = some (after, seen)) :
    Displaces service state (.session sessionId event) ↔
      ∃ userId old, registryCalls sessionId seen = [.authenticate sessionId userId] ∧
        service.user task.fields = some old ∧ old ≠ userId ∧
        state.registry.authenticated.get old = some sessionId := by
  constructor
  · intro displaces
    cases event with
    | select now frame =>
        obtain ⟨found, userId, old, lookup, registered, rest⟩ := displaces
        rw [present, Option.some.injEq] at lookup
        rw [← lookup] at registered rest
        have registers := (step_registers sessionId taken userId).mpr ⟨now, frame, rfl, registered⟩
        exact ⟨userId, old, registers, rest⟩
    | _ => exact displaces.elim
  · rintro ⟨userId, old, calls, rest⟩
    obtain ⟨now, frame, rfl, registered⟩ := (step_registers sessionId taken userId).mp calls
    exact ⟨task, userId, old, present, registered, rest⟩

/-- After one step the mappings are represented, unless the step displaces one. -/
theorem represents_step (owned : Owned service state) (represents : Represents state.registry)
    {event : ServerEvent Reply} {seen : List (ServerSeen Fields Work Reply Inner)}
    (taken : (server service).step state event = some (next, seen)) :
    Represents next.registry ↔ ¬ Displaces service state event := by
  cases server_step_cases taken with
  | drawn => exact iff_of_true represents nofun
  | accepted newcomer kick now newId =>
      refine iff_of_true (represents.register kick ?_) nofun
      cases listing : state.registry.sessions.get newcomer with
      | none => rfl
      | some entry =>
          obtain ⟨task, present, _⟩ := owned.listed _ entry listing
          rw [newId] at present
          contradiction
  | disconnected => exact iff_of_true represents nofun
  | shutDown => exact iff_of_true represents nofun
  | moved sessionId event task present admitted moved =>
      rw [displaces_iff sessionId present moved]
      cases stepped_effect sessionId (Task.step_cases moved) with
      | silent calls =>
          rw [(afterMove_silent state sessionId task.kick calls).registry]
          refine iff_of_true represents ?_
          rintro ⟨userId, old, registers, _⟩
          rw [calls] at registers
          contradiction
      | removes calls =>
          rw [(afterMove_call state sessionId task.kick calls).registry]
          refine iff_of_true (represents.remove sessionId) ?_
          rintro ⟨userId, old, registers, _⟩
          rw [calls] at registers
          simp at registers
      | authenticates userId calls _ was =>
          rw [(afterMove_call state sessionId task.kick calls).registry]
          obtain ⟨entry, lookup, _, own⟩ := owned.entries sessionId task present was
          show Represents (state.registry.authenticate sessionId userId).1 ↔ _
          rw [represents.authenticate lookup, calls]
          constructor
          · rintro free ⟨other, old, registers, _, different, mapped⟩
            simp only [List.cons.injEq, RegistryCall.authenticate.injEq, true_and, and_true]
              at registers
            rw [← registers] at different
            exact free old different mapped
          · intro keeps old different mapped
            -- whatever is mapped to the session is its own account
            obtain ⟨found, again, holds⟩ := represents.mapped old sessionId mapped
            rw [lookup, Option.some.injEq] at again
            rw [← again, own] at holds
            exact keeps ⟨userId, old, rfl, holds, different, mapped⟩

/-- The mappings are represented throughout a run exactly when no session that
has an account, to which its user id is mapped, registers another. -/
theorem represents_throughout_iff (service : Service Fields Work Reply Inner)
    (events : List (ServerEvent Reply)) :
    (server service).Throughout (fun state => Represents state.registry)
        ⟨.default, .empty, 0, [], [], false⟩ events ↔
      (server service).EachStep (fun state event => ¬ Displaces service state event)
        ⟨.default, .empty, 0, [], [], false⟩ events := by
  have represents : Represents .default := represents_iff.mpr (by simp [SessionRegistry.default])
  exact Machine.throughout_iff_eachStep
    (fun _ _ _ _ (owned : Owned service _) taken => owned.stepped (server_step_cases taken))
    (fun _ _ _ _ owned represents taken => represents_step owned represents taken)
    Owned.initial represents events

/-- A client asks for two accounts before the first answer, and then disconnects. -/
def pipelined : List (ServerEvent GameServer.Reply) :=
  [.generate, .accept 1 ⟨0⟩ 0, .session 1 .greet,
    .session 1 (.poll false),
    .session 1 (.select 1 (some (.message ⟨0, some (.gameConnectRequest ⟨"a"⟩)⟩))),
    .session 1 (.poll false),
    .session 1 (.select 2 (some (.message ⟨0, some (.gameConnectRequest ⟨"b"⟩)⟩))),
    .session 1 (.reply 0 (.token (.ok (some "7:alice")))), .session 1 (.deliver 0),
    .session 1 (.reply 1 (.token (.ok (some "8:bob")))), .session 1 (.deliver 1),
    .session 1 (.poll false), .session 1 (.select 3 none),
    .session 1 (.poll false), .session 1 (.select 4 none),
    .session 1 (.poll false), .session 1 (.select 5 (some .closed)),
    .session 1 .remove]

/-- The first of the two accounts stays mapped to the session that is gone. -/
theorem represents_pipelined_false :
    ∃ state history, (server (GameServer.service 10)).exec ⟨.default, .empty, 0, [], [], false⟩
        pipelined = some (state, history) ∧
      state.registry.sessions = .empty ∧ state.registry.authenticated.get "alice" = some 1 ∧
      ¬ Represents state.registry := by
  have runs : ∃ state history,
      (server (GameServer.service 10)).exec ⟨.default, .empty, 0, [], [], false⟩
        pipelined = some (state, history) ∧
      state.registry.sessions = .empty ∧ state.registry.authenticated.get "alice" = some 1 :=
    ⟨_, _, rfl, rfl, rfl⟩
  obtain ⟨state, history, executed, sessions, mapped⟩ := runs
  refine ⟨state, history, executed, sessions, mapped, fun represents => ?_⟩
  have cleared := represents.cleared (by simp [sessions]) "alice"
  rw [mapped] at cleared
  contradiction

end RustGameserver.Servers
