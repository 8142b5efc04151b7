import Mathlib.Data.List.Basic

/-!
Contract: event-driven machines with observations, independent of any server.

Owns:
- machines given by a partial step function that consumes one event and emits
  the observations made during that step;
- reachability together with the history of everything observed on the way;
- the invariant rule for reachable states and their histories;
- the condition on steps that is exact for a property of every visited state;
- states together with the history of what led to them;
- stamping every observation with a reading of the state, such as a clock;
- the projection rule, by which a run of a whole system is also a run of each
  of its parts.

Does not own: any concrete state, event or observation.
-/

namespace RustGameserver.Foundation

universe u v w u' v' w'

/-- A machine whose next state is a function of the event it is handed.  The
choice between interleavings is the choice of the next event. -/
structure Machine (State : Type u) (Event : Type v) (Seen : Type w) where
  Initial : State → Prop
  step : State → Event → Option (State × List Seen)

namespace Machine

variable {State : Type u} {Event : Type v} {Seen : Type w}

/-- The states a run can end in, with the observations of the run in order. -/
inductive Reaches (machine : Machine State Event Seen) :
    State → List Seen → Prop where
  | initial {state : State} (start : machine.Initial state) :
      Reaches machine state []
  | step {before after : State} {history seen : List Seen} {event : Event}
      (run : Reaches machine before history)
      (taken : machine.step before event = some (after, seen)) :
      Reaches machine after (history ++ seen)

/-- Run a list of events from one state. -/
def exec (machine : Machine State Event Seen) :
    State → List Event → Option (State × List Seen)
  | state, [] => some (state, [])
  | state, event :: rest =>
      match machine.step state event with
      | none => none
      | some (next, seen) =>
          match exec machine next rest with
          | none => none
          | some (final, later) => some (final, seen ++ later)

/-- The first event of an execution is taken, and the others from there. -/
theorem exec_cons {machine : Machine State Event Seen} {start final : State} {event : Event}
    {rest : List Event} {history : List Seen}
    (executed : machine.exec start (event :: rest) = some (final, history)) :
    ∃ next seen later, machine.step start event = some (next, seen) ∧
      machine.exec next rest = some (final, later) ∧ history = seen ++ later := by
  simp only [exec] at executed
  split at executed
  · contradiction
  · next next seen taken =>
      split at executed
      · contradiction
      · next last later tail =>
          rw [Option.some.injEq, Prod.mk.injEq] at executed
          obtain ⟨rfl, rfl⟩ := executed
          exact ⟨next, seen, later, taken, tail, rfl⟩

/-- An execution of two lists is one of the first and, from where that ends, one
of the second. -/
theorem exec_append {machine : Machine State Event Seen} {start final : State}
    {front back : List Event} {history : List Seen} :
    machine.exec start (front ++ back) = some (final, history) ↔
      ∃ middle earlier later, machine.exec start front = some (middle, earlier) ∧
        machine.exec middle back = some (final, later) ∧ history = earlier ++ later := by
  induction front generalizing start history with
  | nil => simp [exec]
  | cons event rest inductionHypothesis =>
      constructor
      · intro executed
        obtain ⟨next, seen, later, taken, tail, rfl⟩ := exec_cons executed
        obtain ⟨middle, between, last, first, second, rfl⟩ := inductionHypothesis.mp tail
        refine ⟨middle, seen ++ between, last, ?_, second, (List.append_assoc ..).symm⟩
        simp only [exec, taken, first]
      · rintro ⟨middle, earlier, later, first, second, rfl⟩
        obtain ⟨next, seen, between, taken, tail, rfl⟩ := exec_cons first
        have whole := inductionHypothesis.mpr ⟨middle, between, later, tail, second, rfl⟩
        simp only [List.cons_append, exec, taken, whole, List.append_assoc]

/-- An execution around a few events in its middle. -/
theorem exec_around {machine : Machine State Event Seen} {start final : State}
    {front few back : List Event} {history : List Seen} :
    machine.exec start (front ++ (few ++ back)) = some (final, history) ↔
      ∃ middle next earlier seen later, machine.exec start front = some (middle, earlier) ∧
        machine.exec middle few = some (next, seen) ∧
        machine.exec next back = some (final, later) ∧
        history = earlier ++ (seen ++ later) := by
  constructor
  · intro executed
    obtain ⟨middle, earlier, rest, first, second, rfl⟩ := exec_append.mp executed
    obtain ⟨next, seen, later, between, last, rfl⟩ := exec_append.mp second
    exact ⟨middle, next, earlier, seen, later, first, between, last, rfl⟩
  · rintro ⟨middle, next, earlier, seen, later, first, between, last, rfl⟩
    have second := exec_append.mpr ⟨next, seen, later, between, last, rfl⟩
    exact exec_append.mpr ⟨middle, earlier, _, first, second, rfl⟩

theorem Reaches.exec {machine : Machine State Event Seen} {events : List Event} :
    ∀ {before after : State} {history seen : List Seen},
      machine.Reaches before history →
      machine.exec before events = some (after, seen) →
      machine.Reaches after (history ++ seen) := by
  induction events with
  | nil =>
      intro before after history seen run executed
      simp only [Machine.exec, Option.some.injEq, Prod.mk.injEq] at executed
      obtain ⟨rfl, rfl⟩ := executed
      simpa using run
  | cons event rest inductionHypothesis =>
      intro before after history seen run executed
      obtain ⟨middle, first, later, taken, tail, rfl⟩ := exec_cons executed
      simpa using inductionHypothesis (run.step taken) tail

theorem exec_singleton {machine : Machine State Event Seen} {before after : State}
    {event : Event} {seen : List Seen} (taken : machine.step before event = some (after, seen)) :
    machine.exec before [event] = some (after, seen) := by
  simp [Machine.exec, taken]

/-- A complete execution from an initial state is a run. -/
theorem reaches_of_exec {machine : Machine State Event Seen} {start final : State}
    {events : List Event} {history : List Seen}
    (initial : machine.Initial start)
    (executed : machine.exec start events = some (final, history)) :
    machine.Reaches final history := by
  simpa using (Reaches.initial initial).exec executed

/-- The invariant rule.  The step obligation may use that the state before the
step is itself reachable. -/
theorem Reaches.invariant {machine : Machine State Event Seen}
    {Holds : State → List Seen → Prop}
    (initially : ∀ state, machine.Initial state → Holds state [])
    (preserved : ∀ before history event after seen,
      machine.Reaches before history → Holds before history →
      machine.step before event = some (after, seen) →
      Holds after (history ++ seen))
    {state : State} {history : List Seen}
    (run : machine.Reaches state history) : Holds state history := by
  induction run with
  | initial start => exact initially _ start
  | step run taken inductionHypothesis =>
      exact preserved _ _ _ _ _ run inductionHypothesis taken

/-! ## Conditions along a run -/

/-- Every state that a run of these events visits is as required. -/
def Throughout (machine : Machine State Event Seen) (Holds : State → Prop) :
    State → List Event → Prop
  | state, [] => Holds state
  | state, event :: rest =>
      Holds state ∧ ∀ next seen, machine.step state event = some (next, seen) →
        machine.Throughout Holds next rest

/-- Every step that a run of these events takes meets the condition. -/
def EachStep (machine : Machine State Event Seen) (Meets : State → Event → Prop) :
    State → List Event → Prop
  | _, [] => True
  | state, event :: rest =>
      ∀ next seen, machine.step state event = some (next, seen) →
        Meets state event ∧ machine.EachStep Meets next rest

/-- The condition is one on the step that is taken and on those from there. -/
theorem eachStep_cons {machine : Machine State Event Seen} {Meets : State → Event → Prop}
    {state next : State} {event : Event} {seen : List Seen} {rest : List Event}
    (taken : machine.step state event = some (next, seen)) :
    machine.EachStep Meets state (event :: rest) ↔
      Meets state event ∧ machine.EachStep Meets next rest := by
  constructor
  · intro each
    exact each next seen taken
  · intro both other made stepped
    have same := taken.symm.trans stepped
    rw [Option.some.injEq, Prod.mk.injEq] at same
    rw [← same.1]
    exact both

/-- A property that a step keeps exactly when it meets the condition holds
throughout exactly the runs all of whose steps do. -/
theorem throughout_iff_eachStep {machine : Machine State Event Seen}
    {Known Holds : State → Prop} {Meets : State → Event → Prop}
    (known : ∀ state event next seen, Known state →
      machine.step state event = some (next, seen) → Known next)
    (decides : ∀ state event next seen, Known state → Holds state →
      machine.step state event = some (next, seen) → (Holds next ↔ Meets state event))
    {state : State} (start : Known state) (holds : Holds state) (events : List Event) :
    machine.Throughout Holds state events ↔ machine.EachStep Meets state events := by
  induction events generalizing state with
  | nil => exact iff_of_true holds trivial
  | cons event rest inductionHypothesis =>
      constructor
      · rintro ⟨_, throughout⟩ next seen taken
        have later := throughout next seen taken
        have kept : Holds next := by
          cases rest with
          | nil => exact later
          | cons => exact later.1
        have further := inductionHypothesis (known state event next seen start taken) kept
        exact ⟨(decides state event next seen start holds taken).mp kept, further.mp later⟩
      · intro each
        refine ⟨holds, fun next seen taken => ?_⟩
        obtain ⟨meets, later⟩ := each next seen taken
        have kept := (decides state event next seen start holds taken).mpr meets
        exact (inductionHypothesis (known state event next seen start taken) kept).mpr later

/-- Of a run all of whose steps meet the condition, each step does. -/
theorem EachStep.at {machine : Machine State Event Seen} {Meets : State → Event → Prop}
    {front back : List Event} {event : Event} :
    ∀ {start middle next : State} {history seen : List Seen},
      machine.EachStep Meets start (front ++ event :: back) →
      machine.exec start front = some (middle, history) →
      machine.step middle event = some (next, seen) → Meets middle event := by
  induction front with
  | nil =>
      intro start middle next history seen each executed taken
      rw [Machine.exec, Option.some.injEq, Prod.mk.injEq] at executed
      rw [← executed.1] at taken ⊢
      exact (each next seen taken).1
  | cons first rest inductionHypothesis =>
      intro start middle next history seen each executed taken
      obtain ⟨second, earlier, later, stepped, tail, _⟩ := exec_cons executed
      exact inductionHypothesis (each second earlier stepped).2 tail taken

/-- A condition that implies another one on every step that is taken. -/
theorem EachStep.imp {machine : Machine State Event Seen} {Meets Passes : State → Event → Prop}
    (implies : ∀ state event next seen, machine.step state event = some (next, seen) →
      Meets state event → Passes state event) {start : State} {events : List Event}
    (each : machine.EachStep Meets start events) : machine.EachStep Passes start events := by
  induction events generalizing start with
  | nil => trivial
  | cons event rest inductionHypothesis =>
      intro next seen taken
      obtain ⟨meets, later⟩ := each next seen taken
      exact ⟨implies start event next seen taken meets, inductionHypothesis later⟩

/-- Conditions that agree on every step that is taken are met by the same runs. -/
theorem eachStep_congr {machine : Machine State Event Seen} {Meets Passes : State → Event → Prop}
    (agree : ∀ state event next seen, machine.step state event = some (next, seen) →
      (Meets state event ↔ Passes state event)) (start : State) (events : List Event) :
    machine.EachStep Meets start events ↔ machine.EachStep Passes start events := by
  constructor
  · intro each
    exact each.imp fun state event next seen taken => (agree state event next seen taken).mp
  · intro each
    exact each.imp fun state event next seen taken => (agree state event next seen taken).mpr

/-- What holds throughout a run holds where it ends. -/
theorem Throughout.last {machine : Machine State Event Seen} {Holds : State → Prop}
    {events : List Event} :
    ∀ {start final : State} {history : List Seen}, machine.Throughout Holds start events →
      machine.exec start events = some (final, history) → Holds final := by
  induction events with
  | nil =>
      intro start final history throughout executed
      rw [Machine.exec, Option.some.injEq, Prod.mk.injEq] at executed
      rw [← executed.1]
      exact throughout
  | cons event rest inductionHypothesis =>
      intro start final history throughout executed
      obtain ⟨next, seen, later, taken, tail, _⟩ := exec_cons executed
      exact inductionHypothesis (throughout.2 next seen taken) tail

/-! ## Histories in the state -/

section Recorded

variable {machine : Machine State Event Seen}

/-- The same machine, its states together with everything observed up to them. -/
def recorded (machine : Machine State Event Seen) : Machine (State × List Seen) Event Seen where
  Initial := fun (state, history) => machine.Initial state ∧ history = []
  step := fun (state, history) event =>
    (machine.step state event).map fun (next, seen) => ((next, history ++ seen), seen)

theorem recorded_step {before after : State × List Seen} {event : Event} {seen : List Seen}
    (taken : machine.recorded.step before event = some (after, seen)) :
    machine.step before.1 event = some (after.1, seen) ∧ after.2 = before.2 ++ seen := by
  obtain ⟨⟨next, made⟩, stepped, outcome⟩ := Option.map_eq_some_iff.mp taken
  cases outcome
  exact ⟨stepped, rfl⟩

theorem recorded_exec {events : List Event} :
    ∀ {start final : State} {seen : List Seen} (history : List Seen),
      machine.exec start events = some (final, seen) →
      machine.recorded.exec (start, history) events = some ((final, history ++ seen), seen) := by
  induction events with
  | nil =>
      intro start final seen history executed
      rw [exec, Option.some.injEq, Prod.mk.injEq] at executed
      rw [exec, ← executed.1, ← executed.2, List.append_nil]
  | cons event rest inductionHypothesis =>
      intro start final seen history executed
      obtain ⟨next, first, later, taken, tail, rfl⟩ := exec_cons executed
      have onwards := inductionHypothesis (history ++ first) tail
      have stepped : machine.recorded.step (start, history) event =
          some ((next, history ++ first), first) := by
        simp only [recorded, taken, Option.map_some]
      simp only [exec, stepped, onwards, List.append_assoc]

end Recorded

/-! ## Stamped observations -/

section Stamped

variable {Stamp : Type u'} {machine : Machine State Event Seen} {read : State → Stamp}

/-- The same machine, each observation stamped with what is read off the state
after its step. -/
def stamped (machine : Machine State Event Seen) (read : State → Stamp) :
    Machine State Event (Stamp × Seen) where
  Initial := machine.Initial
  step := fun state event =>
    (machine.step state event).map fun (next, seen) => (next, seen.map (Prod.mk (read next)))

theorem stamped_step {before after : State} {event : Event} {made : List (Stamp × Seen)}
    (taken : (machine.stamped read).step before event = some (after, made)) :
    ∃ seen, machine.step before event = some (after, seen) ∧
      made = seen.map (Prod.mk (read after)) := by
  simp only [stamped, Option.map_eq_some_iff, Prod.mk.injEq] at taken
  obtain ⟨⟨next, seen⟩, stepped, rfl, rfl⟩ := taken
  exact ⟨seen, stepped, rfl⟩

@[simp] theorem map_snd_stamp {α : Type u} {β : Type v} (stamp : α) (list : List β) :
    (list.map (Prod.mk stamp)).map Prod.snd = list := by
  rw [List.map_map]
  exact List.map_id list

/-- Without the stamps it is a run of the machine. -/
theorem Reaches.unstamped {state : State} {history : List (Stamp × Seen)}
    (run : (machine.stamped read).Reaches state history) :
    machine.Reaches state (history.map Prod.snd) := by
  induction run with
  | initial start => exact .initial start
  | step _ taken inductionHypothesis =>
      obtain ⟨seen, stepped, rfl⟩ := stamped_step taken
      rw [List.map_append, map_snd_stamp]
      exact inductionHypothesis.step stepped

/-- Every run can be stamped. -/
theorem Reaches.stamp {state : State} {history : List Seen} (read : State → Stamp)
    (run : machine.Reaches state history) :
    ∃ stamped, (machine.stamped read).Reaches state stamped ∧
      stamped.map Prod.snd = history := by
  induction run with
  | initial start => exact ⟨[], .initial start, rfl⟩
  | @step before after history seen event _ taken inductionHypothesis =>
      obtain ⟨earlier, reached, rfl⟩ := inductionHypothesis
      have stepped : (machine.stamped read).step before event =
          some (after, seen.map (Prod.mk (read after))) := by
        simp [Machine.stamped, taken]
      exact ⟨_, reached.step stepped, by rw [List.map_append, map_snd_stamp]⟩

end Stamped

/-! ## Projections -/

section Projection

variable {Part : Type u'} {PartEvent : Type v'} {PartSeen : Type w'}

/-- How one part of a machine takes part in one of its steps: the part does not
move, the part takes steps of its own, or the part comes into being. -/
inductive Moves (part : Machine Part PartEvent PartSeen)
    (before : Option Part) (after : Part) (seen : List PartSeen) : Prop where
  | rests (same : before = some after) (silent : seen = [])
  | steps {old : Part} {events : List PartEvent} (was : before = some old)
      (taken : part.exec old events = some (after, seen))
  | starts (absent : before = none) (initial : part.Initial after) (silent : seen = [])

/-- A machine of which `part` is one component, seen through `view` and `seeing`. -/
structure Projects (whole : Machine State Event Seen)
    (part : Machine Part PartEvent PartSeen)
    (view : State → Option Part) (seeing : Seen → Option PartSeen) : Prop where
  initially : ∀ state, whole.Initial state → ∀ own, view state = some own → part.Initial own
  kept : ∀ before event after seen, whole.step before event = some (after, seen) →
    view after = none → view before = none ∧ seen.filterMap seeing = []
  moves : ∀ before event after seen new, whole.step before event = some (after, seen) →
    view after = some new → part.Moves (view before) new (seen.filterMap seeing)

/-- The part takes a single step of its own. -/
theorem Moves.one {part : Machine Part PartEvent PartSeen} {before after : Part}
    {event : PartEvent} {seen : List PartSeen}
    (taken : part.step before event = some (after, seen)) : part.Moves (some before) after seen :=
  .steps rfl (exec_singleton taken)

/-- A component that is there all along starts and moves with the whole. -/
theorem Projects.component {whole : Machine State Event Seen}
    {part : Machine Part PartEvent PartSeen} {view : State → Part}
    {seeing : Seen → Option PartSeen}
    (initially : ∀ state, whole.Initial state → part.Initial (view state))
    (moves : ∀ before event after seen, whole.step before event = some (after, seen) →
      part.Moves (some (view before)) (view after) (seen.filterMap seeing)) :
    whole.Projects part (fun state => some (view state)) seeing where
  initially := by
    intro state start own present
    rw [Option.some.injEq] at present
    rw [← present]
    exact initially state start
  kept := by
    intro before event after seen taken absent
    contradiction
  moves := by
    intro before event after seen own taken present
    rw [Option.some.injEq] at present
    rw [← present]
    exact moves before event after seen taken

private theorem Projects.run {whole : Machine State Event Seen}
    {part : Machine Part PartEvent PartSeen}
    {view : State → Option Part} {seeing : Seen → Option PartSeen}
    (projects : Projects whole part view seeing)
    {state : State} {history : List Seen} (run : whole.Reaches state history) :
    (view state = none → history.filterMap seeing = []) ∧
      ∀ own, view state = some own → part.Reaches own (history.filterMap seeing) := by
  induction run with
  | initial start =>
      exact ⟨fun _ => rfl, fun own present => .initial (projects.initially _ start own present)⟩
  | @step before after history seen event _ taken inductionHypothesis =>
      obtain ⟨silent, reached⟩ := inductionHypothesis
      constructor
      · intro absent
        obtain ⟨earlier, nothing⟩ := projects.kept _ _ _ _ taken absent
        simp [silent earlier, nothing]
      · intro own present
        rw [List.filterMap_append]
        cases projects.moves _ _ _ _ own taken present with
        | rests same nothing => simpa [nothing] using reached own same
        | steps was moved => exact (reached _ was).exec moved
        | starts absent initial nothing =>
            rw [silent absent, nothing]
            exact Reaches.initial initial

/-- Every run of the whole is, seen through the projection, a run of the part. -/
theorem Projects.reaches {whole : Machine State Event Seen}
    {part : Machine Part PartEvent PartSeen}
    {view : State → Option Part} {seeing : Seen → Option PartSeen}
    (projects : Projects whole part view seeing)
    {state : State} {history : List Seen} (run : whole.Reaches state history)
    {own : Part} (present : view state = some own) :
    part.Reaches own (history.filterMap seeing) :=
  (projects.run run).2 own present

/-- Seen through the projection, an execution of the whole is one of the part that is there. -/
theorem Projects.exec {whole : Machine State Event Seen}
    {part : Machine Part PartEvent PartSeen}
    {view : State → Option Part} {seeing : Seen → Option PartSeen}
    (projects : Projects whole part view seeing) {events : List Event} :
    ∀ {start final : State} {history : List Seen} {own : Part},
      whole.exec start events = some (final, history) → view start = some own →
      ∃ last partEvents, view final = some last ∧
        part.exec own partEvents = some (last, history.filterMap seeing) := by
  induction events with
  | nil =>
      intro start final history own executed present
      rw [Machine.exec, Option.some.injEq, Prod.mk.injEq] at executed
      obtain ⟨rfl, rfl⟩ := executed
      exact ⟨own, [], present, rfl⟩
  | cons event rest inductionHypothesis =>
      intro start final history own executed present
      obtain ⟨middle, seen, later, taken, tail, rfl⟩ := exec_cons executed
      cases there : view middle with
      | none =>
          have absent := (projects.kept _ _ _ _ taken there).1
          rw [present] at absent
          contradiction
      | some next =>
          obtain ⟨last, back, found, onwards⟩ := inductionHypothesis tail there
          rw [List.filterMap_append]
          cases projects.moves _ _ _ _ next taken there with
          | rests same silent =>
              rw [present, Option.some.injEq] at same
              rw [same, silent]
              exact ⟨last, back, found, onwards⟩
          | steps was moved =>
              rw [present, Option.some.injEq] at was
              rw [was]
              exact ⟨last, _, found, exec_append.mpr ⟨_, _, _, moved, onwards, rfl⟩⟩
          | starts absent =>
              rw [present] at absent
              contradiction

/-- A part that has been observed is there. -/
theorem Projects.present {whole : Machine State Event Seen}
    {part : Machine Part PartEvent PartSeen}
    {view : State → Option Part} {seeing : Seen → Option PartSeen}
    (projects : Projects whole part view seeing)
    {state : State} {history : List Seen} (run : whole.Reaches state history)
    {observed : PartSeen} (member : observed ∈ history.filterMap seeing) :
    ∃ own, view state = some own := by
  cases shape : view state with
  | some own => exact ⟨own, rfl⟩
  | none =>
      rw [(projects.run run).1 shape] at member
      contradiction

end Projection

end Machine

end RustGameserver.Foundation
