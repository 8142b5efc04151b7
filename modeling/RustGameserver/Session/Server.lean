import RustGameserver.Net.RegistryRuns
import RustGameserver.Session.Steps

/-!
Contract: a whole server, its sessions, its registry and its AdminApi, over every
interleaving.

Owns:
- the server as a machine: the start of a session task, any step of any session,
  a disconnect from the AdminApi, the shutdown;
- the registry calls and cancellations that follow from what a session does;
- the projections of a run to the run of each session and of the registry.

Does not own: what a session does by itself.
-/

namespace RustGameserver.Session

open RustGameserver.Foundation
open RustGameserver.Net

variable {Fields Work Reply Inner : Type}

structure ServerState (Fields Work Reply Inner : Type) where
  registry : SessionRegistry
  /-- Every session ever accepted; a finished one stays, so ids are not reused. -/
  tasks : FiniteMap SessionId (Task Fields Work Reply Inner)
  nextId : UInt64
  kicks : List KickToken
  cancelled : List KickToken
  shutdown : Bool

inductive ServerEvent (Reply : Type) where
  /-- A new session task draws its id. -/
  | generate
  /-- It makes its token and registers, perhaps after tasks that drew theirs later. -/
  | accept (sessionId : SessionId) (kick : KickToken) (now : Nat)
  | session (sessionId : SessionId) (event : Event Reply)
  | disconnect (sessionId : SessionId)
  | shutdown
deriving DecidableEq, Repr

inductive ServerSeen (Fields Work Reply Inner : Type) where
  | session (sessionId : SessionId) (seen : Seen Fields Work Reply Inner)
  | registry (seen : CallSeen)

/-- The registry call that an observation of a session stands for. -/
def Seen.registryCall (sessionId : SessionId) :
    Seen Fields Work Reply Inner → Option RegistryCall
  | .authenticate _ userId => some (.authenticate sessionId userId)
  | .remove => some (.remove sessionId)
  | .handled .. | .consumed .. | .accepted .. | .refused .. | .spawned .. | .replied ..
  | .left .. | .writer .. | .drainTimeout | .recordLogout .. | .record _ => none

/-- The writer of the session has cancelled the session's own token. -/
def Seen.cancelsKick : Seen Fields Work Reply Inner → Bool
  | .writer .cancelledKick => true
  | _ => false

namespace ServerState

/-- One registry call: the tokens it cancels stay cancelled. -/
def call (state : ServerState Fields Work Reply Inner) (call : RegistryCall) :
    ServerState Fields Work Reply Inner × List (ServerSeen Fields Work Reply Inner) :=
  let (registry, cancelled) := state.registry.perform call
  ({ state with registry, cancelled := state.cancelled ++ cancelled },
    [.registry ⟨call, cancelled⟩])

/-- What one observation of a session does to the rest of the server. -/
def observe (state : ServerState Fields Work Reply Inner) (sessionId : SessionId)
    (kick : KickToken) (seen : Seen Fields Work Reply Inner) :
    ServerState Fields Work Reply Inner × List (ServerSeen Fields Work Reply Inner) :=
  match seen.registryCall sessionId with
  | some call =>
      let (state, made) := state.call call
      (state, .session sessionId seen :: made)
  | none =>
      if seen.cancelsKick then
        ({ state with cancelled := state.cancelled ++ [kick] }, [.session sessionId seen])
      else
        (state, [.session sessionId seen])

/-- What the observations of one step do, in order. -/
def observeAll (state : ServerState Fields Work Reply Inner) (sessionId : SessionId)
    (kick : KickToken) :
    List (Seen Fields Work Reply Inner) →
      ServerState Fields Work Reply Inner × List (ServerSeen Fields Work Reply Inner)
  | [] => (state, [])
  | seen :: rest =>
      let (next, made) := state.observe sessionId kick seen
      let (final, later) := next.observeAll sessionId kick rest
      (final, made ++ later)

/-- The kick token of a session: cancelled itself, or a child of the shutdown token. -/
def isCancelled (state : ServerState Fields Work Reply Inner) (kick : KickToken) : Bool :=
  kick ∈ state.cancelled || state.shutdown

/-- What the task of a session may be told by the rest of the server. -/
def admits (state : ServerState Fields Work Reply Inner) (kick : KickToken) :
    Event Reply → Bool
  | .poll cancelled => cancelled == state.isCancelled kick
  | .record event => event.agrees state.shutdown
  | _ => true

def step (service : Service Fields Work Reply Inner)
    (state : ServerState Fields Work Reply Inner) :
    ServerEvent Reply →
      Option (ServerState Fields Work Reply Inner × List (ServerSeen Fields Work Reply Inner))
  | .generate =>
      -- the counter does not wrap around
      if state.nextId < generate state.nextId then
        some ({ state with nextId := generate state.nextId }, [])
      else none
  | .accept sessionId kick now =>
      -- the id has been drawn, and by no other task; tokens are new
      if (0 < sessionId ∧ sessionId ≤ state.nextId) ∧ state.tasks.get sessionId = none ∧
          kick ∉ state.kicks then
        some ({ state with
          tasks := state.tasks.insert sessionId (.create service sessionId kick now)
          kicks := kick :: state.kicks }.call (.register sessionId kick))
      else none
  | .session sessionId event =>
      match state.tasks.get sessionId with
      | none => none
      | some task =>
          if state.admits task.kick event then
            match task.step service event with
            | none => none
            | some (after, seen) =>
                some ({ state with tasks := state.tasks.insert sessionId after }.observeAll
                  sessionId task.kick seen)
          else none
  | .disconnect sessionId => some (state.call (.disconnect sessionId))
  | .shutdown => some ({ state with shutdown := true }, [])

/-! ## Frames -/

variable (state : ServerState Fields Work Reply Inner) (sessionId : SessionId) (kick : KickToken)

theorem observe_frame (seen : Seen Fields Work Reply Inner) :
    (state.observe sessionId kick seen).1.tasks = state.tasks ∧
      (state.observe sessionId kick seen).1.kicks = state.kicks := by
  unfold observe
  split
  · exact ⟨rfl, rfl⟩
  · split <;> exact ⟨rfl, rfl⟩

/-- What a session does leaves the tasks of all sessions to their own steps. -/
theorem observeAll_frame (seen : List (Seen Fields Work Reply Inner)) :
    (state.observeAll sessionId kick seen).1.tasks = state.tasks ∧
      (state.observeAll sessionId kick seen).1.kicks = state.kicks := by
  induction seen generalizing state with
  | nil => exact ⟨rfl, rfl⟩
  | cons entry rest inductionHypothesis =>
      obtain ⟨tasks, kicks⟩ := observe_frame state sessionId kick entry
      obtain ⟨laterTasks, laterKicks⟩ :=
        inductionHypothesis (state.observe sessionId kick entry).1
      exact ⟨laterTasks.trans tasks, laterKicks.trans kicks⟩

end ServerState

/-- A server as a machine. -/
def server (service : Service Fields Work Reply Inner) :
    Machine (ServerState Fields Work Reply Inner) (ServerEvent Reply)
      (ServerSeen Fields Work Reply Inner) where
  Initial := fun state => state = ⟨.default, .empty, 0, [], [], false⟩
  step := fun state event => state.step service event

/-! ## The run of one session -/

/-- The part of an observation that concerns one session. -/
def ServerSeen.ofSession (sessionId : SessionId) :
    ServerSeen Fields Work Reply Inner → Option (Seen Fields Work Reply Inner)
  | .session other seen => if other = sessionId then some seen else none
  | .registry _ => none

/-- The part of an observation that concerns the registry. -/
def ServerSeen.ofRegistry : ServerSeen Fields Work Reply Inner → Option CallSeen
  | .session .. => none
  | .registry seen => some seen

namespace ServerState

variable (state : ServerState Fields Work Reply Inner) (sessionId : SessionId) (kick : KickToken)

section Reading

variable {α : Type} {read : ServerSeen Fields Work Reply Inner → Option α}
  {observed : Seen Fields Work Reply Inner → Option α}

theorem observe_read (own : ∀ entry, read (.session sessionId entry) = observed entry)
    (registry : ∀ entry, read (.registry entry) = none) (seen : Seen Fields Work Reply Inner) :
    (state.observe sessionId kick seen).2.filterMap read = [seen].filterMap observed := by
  unfold observe
  split
  · simp [call, List.filterMap_cons, own, registry]
  · split <;> simp [List.filterMap_cons, own]

/-- What is read off the sessions is read off what the session has done. -/
theorem observeAll_read (own : ∀ entry, read (.session sessionId entry) = observed entry)
    (registry : ∀ entry, read (.registry entry) = none)
    (seen : List (Seen Fields Work Reply Inner)) :
    (state.observeAll sessionId kick seen).2.filterMap read = seen.filterMap observed := by
  induction seen generalizing state with
  | nil => rfl
  | cons entry rest inductionHypothesis =>
      have later := inductionHypothesis (state.observe sessionId kick entry).1
      simp only [observeAll, List.filterMap_append]
      rw [observe_read state sessionId kick own registry, later, ← List.filterMap_append]
      rfl

end Reading

theorem observeAll_ofSession (other : SessionId) (seen : List (Seen Fields Work Reply Inner)) :
    (state.observeAll sessionId kick seen).2.filterMap (ServerSeen.ofSession other) =
      if sessionId = other then seen else [] := by
  have own (entry : Seen Fields Work Reply Inner) :
      ServerSeen.ofSession other (.session sessionId entry) =
        if sessionId = other then some entry else none := rfl
  rw [observeAll_read state sessionId kick own fun _ => rfl]
  by_cases same : sessionId = other <;> simp [same]

/-- A session registers nobody, so its calls have no precondition. -/
theorem registryCall_step {seen : Seen Fields Work Reply Inner} {made : RegistryCall}
    (calls : seen.registryCall sessionId = some made) (registry : SessionRegistry)
    (kicks : List KickToken) :
    registryRuns.step ⟨registry, kicks⟩ made =
      some (⟨(registry.perform made).1, kicks⟩, [⟨made, (registry.perform made).2⟩]) := by
  cases seen with
  | authenticate after userId =>
      cases calls
      rfl
  | remove =>
      cases calls
      rfl
  | _ => contradiction

theorem observe_silent {seen : Seen Fields Work Reply Inner}
    (silent : seen.registryCall sessionId = none) :
    (state.observe sessionId kick seen).1.registry = state.registry ∧
      (state.observe sessionId kick seen).2.filterMap ServerSeen.ofRegistry = [] := by
  unfold observe
  rw [silent]
  simp only
  split <;> exact ⟨rfl, rfl⟩

theorem observe_calls {seen : Seen Fields Work Reply Inner} {made : RegistryCall}
    (calls : seen.registryCall sessionId = some made) :
    (state.observe sessionId kick seen).1.registry = (state.registry.perform made).1 ∧
      (state.observe sessionId kick seen).2.filterMap ServerSeen.ofRegistry =
        [⟨made, (state.registry.perform made).2⟩] := by
  unfold observe
  rw [calls]
  exact ⟨rfl, rfl⟩

/-- The registry makes the calls of a session's observations in their order. -/
theorem observeAll_registry (seen : List (Seen Fields Work Reply Inner)) :
    registryRuns.exec ⟨state.registry, state.kicks⟩
        (seen.filterMap (Seen.registryCall sessionId)) =
      some (⟨(state.observeAll sessionId kick seen).1.registry, state.kicks⟩,
        (state.observeAll sessionId kick seen).2.filterMap ServerSeen.ofRegistry) := by
  induction seen generalizing state with
  | nil => rfl
  | cons entry rest inductionHypothesis =>
      have later := inductionHypothesis (state.observe sessionId kick entry).1
      rw [(observe_frame state sessionId kick entry).2] at later
      simp only [observeAll, List.filterMap_append]
      cases made : entry.registryCall sessionId with
      | none =>
          obtain ⟨same, nothing⟩ := observe_silent state sessionId kick made
          rw [same] at later
          rw [List.filterMap_cons_none made, later, nothing, List.nil_append]
      | some call =>
          obtain ⟨performed, seen⟩ := observe_calls state sessionId kick made
          have first := registryCall_step sessionId made state.registry state.kicks
          rw [performed] at later
          rw [List.filterMap_cons_some made, Machine.exec, first]
          simp only
          rw [later, seen]

/-- Tokens stay cancelled, and what the registry cancels is cancelled. -/
theorem observe_cancelled (seen : Seen Fields Work Reply Inner) :
    state.cancelled ⊆ (state.observe sessionId kick seen).1.cancelled ∧
      ∀ made ∈ (state.observe sessionId kick seen).2.filterMap ServerSeen.ofRegistry,
        made.cancelled ⊆ (state.observe sessionId kick seen).1.cancelled := by
  cases calls : seen.registryCall sessionId with
  | some call =>
      rw [(observe_calls state sessionId kick calls).2]
      simp [observe, calls, ServerState.call]
  | none =>
      rw [(observe_silent state sessionId kick calls).2]
      simp only [observe, calls, List.not_mem_nil, false_implies, implies_true, and_true]
      split
      · exact List.subset_append_left _ _
      · exact List.Subset.refl _

theorem observeAll_cancelled (seen : List (Seen Fields Work Reply Inner)) :
    state.cancelled ⊆ (state.observeAll sessionId kick seen).1.cancelled ∧
      ∀ made ∈ (state.observeAll sessionId kick seen).2.filterMap ServerSeen.ofRegistry,
        made.cancelled ⊆ (state.observeAll sessionId kick seen).1.cancelled := by
  induction seen generalizing state with
  | nil => exact ⟨List.Subset.refl _, nofun⟩
  | cons entry rest inductionHypothesis =>
      obtain ⟨first, made⟩ := observe_cancelled state sessionId kick entry
      obtain ⟨later, more⟩ := inductionHypothesis (state.observe sessionId kick entry).1
      refine ⟨List.Subset.trans first later, fun call member => ?_⟩
      simp only [observeAll, List.filterMap_append, List.mem_append] at member
      rcases member with member | member
      · exact List.Subset.trans (made call member) later
      · exact more call member

end ServerState

/-- What a server does for one event. -/
inductive ServerStepped (service : Service Fields Work Reply Inner)
    (state : ServerState Fields Work Reply Inner) :
    ServerEvent Reply → ServerState Fields Work Reply Inner →
      List (ServerSeen Fields Work Reply Inner) → Prop where
  | drawn : ServerStepped service state .generate
      { state with nextId := generate state.nextId } []
  | accepted (sessionId : SessionId) (kick : KickToken) (now : Nat)
      (newId : state.tasks.get sessionId = none) (newKick : kick ∉ state.kicks) :
      ServerStepped service state (.accept sessionId kick now)
        { state with
          registry := state.registry.register sessionId kick
          tasks := state.tasks.insert sessionId (.create service sessionId kick now)
          kicks := kick :: state.kicks
          cancelled := state.cancelled ++ [] }
        [.registry ⟨.register sessionId kick, []⟩]
  | moved {after : Task Fields Work Reply Inner} {seen : List (Seen Fields Work Reply Inner)}
      (sessionId : SessionId) (event : Event Reply) (task : Task Fields Work Reply Inner)
      (present : state.tasks.get sessionId = some task)
      (admitted : state.admits task.kick event = true)
      (taken : task.step service event = some (after, seen)) :
      ServerStepped service state (.session sessionId event)
        ({ state with tasks := state.tasks.insert sessionId after }.observeAll sessionId
          task.kick seen).1
        ({ state with tasks := state.tasks.insert sessionId after }.observeAll sessionId
          task.kick seen).2
  | disconnected (sessionId : SessionId) :
      ServerStepped service state (.disconnect sessionId)
        (state.call (.disconnect sessionId)).1 (state.call (.disconnect sessionId)).2
  | shutDown : ServerStepped service state .shutdown { state with shutdown := true } []

theorem server_step_cases {service : Service Fields Work Reply Inner}
    {state after : ServerState Fields Work Reply Inner} {event : ServerEvent Reply}
    {seen : List (ServerSeen Fields Work Reply Inner)}
    (taken : (server service).step state event = some (after, seen)) :
    ServerStepped service state event after seen := by
  cases event with
  | generate =>
      simp only [server, ServerState.step, Option.ite_none_right_eq_some] at taken
      obtain ⟨_, outcome⟩ := taken
      cases outcome
      exact .drawn
  | accept sessionId kick now =>
      simp only [server, ServerState.step, Option.ite_none_right_eq_some] at taken
      obtain ⟨⟨_, newId, newKick⟩, outcome⟩ := taken
      cases outcome
      exact .accepted sessionId kick now newId newKick
  | session sessionId event =>
      simp only [server, ServerState.step] at taken
      split at taken
      · contradiction
      · next task present =>
          rw [Option.ite_none_right_eq_some] at taken
          obtain ⟨admitted, outcome⟩ := taken
          split at outcome
          · contradiction
          · next moved seen stepped =>
              rw [Option.some.injEq, Prod.ext_iff] at outcome
              obtain ⟨rfl, rfl⟩ := outcome
              exact .moved sessionId event task present admitted stepped
  | disconnect sessionId =>
      cases taken
      exact .disconnected sessionId
  | shutdown =>
      cases taken
      exact .shutDown

section Projections

variable {service : Service Fields Work Reply Inner}
  {state after : ServerState Fields Work Reply Inner}
  {seen : List (ServerSeen Fields Work Reply Inner)}

/-- The tasks after a step of one session. -/
theorem moved_tasks (state : ServerState Fields Work Reply Inner) (sessionId : SessionId)
    (kick : KickToken) (task : Task Fields Work Reply Inner)
    (seen : List (Seen Fields Work Reply Inner)) (other : SessionId) :
    ({ state with tasks := state.tasks.insert sessionId task }.observeAll sessionId kick
        seen).1.tasks.get other =
      if other = sessionId then some task else state.tasks.get other := by
  rw [(ServerState.observeAll_frame _ sessionId kick seen).1]
  exact FiniteMap.get_insert ..

/-- Every session of a server runs as a session does. -/
theorem server_projects_session (service : Service Fields Work Reply Inner)
    (sessionId : SessionId) :
    Machine.Projects (server service) (machine service)
      (fun state => state.tasks.get sessionId) (ServerSeen.ofSession sessionId) where
  initially := by
    rintro state rfl own present
    simp at present
  kept := by
    intro before event after seen taken absent
    cases server_step_cases taken with
    | drawn => exact ⟨absent, rfl⟩
    | accepted other kick now =>
        simp only [FiniteMap.get_insert] at absent
        split at absent
        · contradiction
        · exact ⟨absent, rfl⟩
    | moved other event task present =>
        simp only [moved_tasks] at absent
        split at absent
        · contradiction
        · next different =>
            rw [ServerState.observeAll_ofSession, if_neg (Ne.symm different)]
            exact ⟨absent, rfl⟩
    | disconnected => exact ⟨absent, rfl⟩
    | shutDown => exact ⟨absent, rfl⟩
  moves := by
    intro before event after seen new taken present
    cases server_step_cases taken with
    | drawn => exact .rests present rfl
    | accepted other kick now newId =>
        simp only [FiniteMap.get_insert] at present
        split at present
        · next same =>
            rw [Option.some.injEq] at present
            rw [same, ← present]
            exact .starts newId ⟨_, kick, now, rfl⟩ rfl
        · exact .rests present rfl
    | moved other event task was admitted stepped =>
        simp only [moved_tasks] at present
        rw [ServerState.observeAll_ofSession]
        split at present
        · next same =>
            rw [Option.some.injEq] at present
            rw [if_pos same.symm, same, ← present]
            exact .steps was (Machine.exec_singleton stepped)
        · next different =>
            rw [if_neg (Ne.symm different)]
            exact .rests present rfl
    | disconnected => exact .rests present rfl
    | shutDown => exact .rests present rfl

/-- The registry of a server runs as a registry does. -/
theorem server_projects_registry (service : Service Fields Work Reply Inner) :
    Machine.Projects (server service) registryRuns
      (fun state => some ⟨state.registry, state.kicks⟩) ServerSeen.ofRegistry := by
  apply Machine.Projects.component
  · rintro state rfl
    rfl
  · intro before event after seen taken
    cases server_step_cases taken with
    | drawn => exact .rests rfl rfl
    | accepted sessionId kick now newId newKick =>
        have registered : registryRuns.step ⟨before.registry, before.kicks⟩
            (.register sessionId kick) =
              some (⟨before.registry.register sessionId kick, kick :: before.kicks⟩,
                [⟨.register sessionId kick, []⟩]) := by
          simp [registryRuns, RegistryState.step, SessionRegistry.perform, newKick]
        exact .one registered
    | @moved task' made other event task was admitted stepped =>
        have calls := ServerState.observeAll_registry
          { before with tasks := before.tasks.insert other task' } other task.kick made
        have kicks := (ServerState.observeAll_frame
          { before with tasks := before.tasks.insert other task' } other task.kick made).2
        rw [kicks]
        exact .steps rfl calls
    | disconnected sessionId =>
        have disconnected : registryRuns.step ⟨before.registry, before.kicks⟩
            (.disconnect sessionId) =
              some (⟨before.registry, before.kicks⟩,
                [⟨.disconnect sessionId, (before.registry.disconnect sessionId).2⟩]) := rfl
        exact .one disconnected
    | shutDown => exact .rests rfl rfl

/-- What has been observed of one session, in order. -/
def historyOf (sessionId : SessionId) (history : List (ServerSeen Fields Work Reply Inner)) :
    List (Seen Fields Work Reply Inner) :=
  history.filterMap (ServerSeen.ofSession sessionId)

theorem mem_historyOf {sessionId : SessionId} {history : List (ServerSeen Fields Work Reply Inner)}
    {entry : Seen Fields Work Reply Inner} :
    entry ∈ historyOf sessionId history ↔ .session sessionId entry ∈ history := by
  rw [historyOf, List.mem_filterMap]
  constructor
  · rintro ⟨found, member, own⟩
    cases found with
    | registry => contradiction
    | session other inner =>
        simp only [ServerSeen.ofSession, Option.ite_none_right_eq_some, Option.some.injEq] at own
        rw [← own.1, ← own.2]
        exact member
  · intro member
    exact ⟨_, member, if_pos rfl⟩

/-- A task hears of a reply in the step in which it arrives. -/
theorem server_step_replied {event : ServerEvent Reply}
    (taken : (server service).step state event = some (after, seen)) {sessionId : SessionId}
    {job : Nat} {reply : Reply} (member : .session sessionId (.replied job reply) ∈ seen) :
    event = .session sessionId (.reply job reply) := by
  have own := mem_historyOf.mpr member
  cases server_step_cases taken with
  | drawn => contradiction
  | accepted => contradiction
  | disconnected => contradiction
  | shutDown => contradiction
  | moved other event task present admitted stepped =>
      rw [historyOf, ServerState.observeAll_ofSession] at own
      split at own
      · next same =>
          have made := Task.step_madeBy stepped _ own
          cases event with
          | reply =>
              obtain ⟨rfl, rfl⟩ := made
              rw [same]
          | _ => exact made.elim
      · contradiction

/-- A session of a server has run as a session does. -/
theorem reaches_session {history : List (ServerSeen Fields Work Reply Inner)}
    (run : (server service).Reaches state history) {sessionId : SessionId}
    {task : Task Fields Work Reply Inner} (present : state.tasks.get sessionId = some task) :
    (machine service).Reaches task (historyOf sessionId history) :=
  (server_projects_session service sessionId).reaches run present

/-- The registry calls of a run, in order. -/
def callsOf (history : List (ServerSeen Fields Work Reply Inner)) : List CallSeen :=
  history.filterMap ServerSeen.ofRegistry

theorem callsOf_append (history more : List (ServerSeen Fields Work Reply Inner)) :
    callsOf (history ++ more) = callsOf history ++ callsOf more :=
  List.filterMap_append

/-- The registry of a server has made the calls of the run. -/
theorem reaches_registry {history : List (ServerSeen Fields Work Reply Inner)}
    (run : (server service).Reaches state history) :
    registryRuns.Reaches ⟨state.registry, state.kicks⟩ (callsOf history) :=
  (server_projects_registry service).reaches run rfl

end Projections

end RustGameserver.Session
