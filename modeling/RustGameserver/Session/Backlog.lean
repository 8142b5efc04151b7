import RustGameserver.Session.Once

/-!
Contract: how many results of its own tasks a session still has to consume.

Owns:
- the number of tasks whose results have not been consumed, and how a step changes it;
- the runs in which it stays within the capacity of the inner channel.

Does not own: for which messages a server starts a task.
-/

namespace RustGameserver.Session

open RustGameserver.Foundation
open RustGameserver.Net
open RustGameserver.Proto

variable {Fields Work Reply Inner : Type} {service : Service Fields Work Reply Inner}
  {before after : Task Fields Work Reply Inner}
  {history seen : List (Seen Fields Work Reply Inner)} {event : Event Reply}

/-- How many tasks have been spawned whose results have not been consumed. -/
def unconsumed (history : List (Seen Fields Work Reply Inner)) : Nat :=
  (spawnedJobs history).length - (consumed history).length

/-- The event hands the session a message that asks for a task. -/
def Event.asks (asking : Fields → MessageWrapper → Bool) (fields : Fields) : Event Reply → Bool
  | .select _ (some (.message message)) => asking fields message
  | _ => false

/-- Handlers spawn a task for the messages that ask for one, and for nothing else. -/
structure Spawning (service : Service Fields Work Reply Inner)
    (asking : Fields → MessageWrapper → Bool) : Prop where
  remote : ∀ fields now message,
    (service.onRemote fields now message).spawns = asking fields message
  inner : ∀ fields now message, (service.onInner fields now message).spawns = false

variable {asking : Fields → MessageWrapper → Bool}

/-! ## One step -/

/-- A session that spawns a task goes on with its loop, and has consumed nothing. -/
theorem Task.Performed.spawning {cause : Cause} {reaction : Reaction Fields Work}
    (performed : Task.Performed before cause reaction after seen)
    (spawns : reaction.spawns = true) :
    consumed seen = [] ∧ after.stage.inLoop = true := by
  cases performed with
  | spawn => exact ⟨rfl, rfl⟩
  | _ => contradiction

/-- A message is handled only when it has come in. -/
theorem Seen.madeBy_handled {fields : Fields} {message : MessageWrapper}
    (made : (.handled fields message : Seen Fields Work Reply Inner).madeBy event) :
    ∃ now, event = .select now (some (.message message)) := by
  cases event with
  | select now frame =>
      rcases frame with _ | frame
      · contradiction
      · cases frame with
        | message received =>
            have same : message = received := made
            exact ⟨now, by rw [same]⟩
        | error | closed => contradiction
  | _ => contradiction

/-- Without a message no task is spawned. -/
theorem Spawning.unasked (spawning : Spawning service asking)
    (taken : before.step service event = some (after, seen))
    (other : ∀ now message, event ≠ .select now (some (.message message))) :
    (spawnedJobs seen).length = 0 := by
  cases (Task.step_cases taken).moves with
  | rests rests =>
      rw [spawnedJobs_of_silent rests.silent, List.length_nil]
  | ran takes performed shape =>
      have spawned := performed.spawnedJobs_length
      rw [shape, spawnedJobs_append, List.length_append, spawned]
      cases takes with
      | greeting => rfl
      | result now job message =>
          rw [spawning.inner]
          rfl
      | frame now message =>
          have made := Task.step_madeBy taken (.handled before.fields message) (by simp [shape])
          obtain ⟨time, arrived⟩ := Seen.madeBy_handled made
          exact absurd arrived (other time message)

/-- A step spawns a task exactly when its event asks for one, and then goes on. -/
theorem Spawning.step (spawning : Spawning service asking)
    (taken : before.step service event = some (after, seen)) :
    (spawnedJobs seen).length = (event.asks asking before.fields).toNat ∧
      (event.asks asking before.fields = true → consumed seen = [] ∧
        after.stage.inLoop = true) := by
  by_cases message : ∃ now message, event = .select now (some (.message message))
  · obtain ⟨now, message, rfl⟩ := message
    simp only [Task.step, Option.ite_none_right_eq_some, Option.some.injEq] at taken
    obtain ⟨_, outcome⟩ := taken
    cases outcome
    have performed := Task.perform_cases { before with clock := now } .frame
      (service.onRemote before.fields now message)
    have asked := spawning.remote before.fields now message
    refine ⟨?_, fun asks => ?_⟩
    · have spawned := performed.spawnedJobs_length
      rw [asked] at spawned
      exact spawned
    · exact performed.spawning (asked.trans asks)
  · have other : ∀ now message, event ≠ .select now (some (.message message)) :=
      fun now received same => message ⟨now, received, same⟩
    have silent : event.asks asking before.fields = false := by
      unfold Event.asks
      split
      · next now received => exact absurd rfl (other now received)
      · rfl
    rw [spawning.unasked taken other, silent]
    exact ⟨rfl, fun asks => by contradiction⟩

/-! ## Runs -/

theorem unconsumed_step (run : (machine service).Reaches before history)
    (taken : before.step service event = some (after, seen)) :
    unconsumed (history ++ seen) + (consumed seen).length =
      unconsumed history + (spawnedJobs seen).length := by
  have earlier := consumed_length_le run
  have later := consumed_length_le (run.step taken)
  have spawned := congrArg List.length (spawnedJobs_eq_range run)
  have more := congrArg List.length (spawnedJobs_eq_range (run.step taken))
  rw [List.length_range] at spawned more
  rw [spawnedJobs_append, List.length_append] at more
  rw [consumed_append, List.length_append] at later
  simp only [unconsumed, spawnedJobs_append, consumed_append, List.length_append]
  omega

/-- A session with its history. -/
abbrev WithHistory (Fields Work Reply Inner : Type) : Type :=
  Task Fields Work Reply Inner × List (Seen Fields Work Reply Inner)

/-- No more results are outstanding than the inner channel has room for. -/
def Within (state : WithHistory Fields Work Reply Inner) : Prop :=
  unconsumed state.2 ≤ maxMessageChannelCapacity

/-- The event asks for a task although no further result may be outstanding. -/
def Overfills (asking : Fields → MessageWrapper → Bool)
    (state : WithHistory Fields Work Reply Inner) (event : Event Reply) : Prop :=
  unconsumed state.2 = maxMessageChannelCapacity ∧ event.asks asking state.1.fields = true

/-- An event that asks for one task too many ends the session. -/
def EndsOverfull (service : Service Fields Work Reply Inner)
    (asking : Fields → MessageWrapper → Bool) (state : WithHistory Fields Work Reply Inner)
    (event : Event Reply) : Prop :=
  Overfills asking state event → ∀ after seen,
    state.1.step service event = some (after, seen) → after.stage.inLoop = false

/-- The results outstanding stay within the capacity, and a request beyond it ends the
session. -/
structure Contained (service : Service Fields Work Reply Inner)
    (asking : Fields → MessageWrapper → Bool) (start : Task Fields Work Reply Inner)
    (events : List (Event Reply)) : Prop where
  within : (machine service).recorded.Throughout Within (start, []) events
  ends : (machine service).recorded.EachStep (EndsOverfull service asking) (start, []) events

/-- A step stays within the capacity exactly when it does not ask for one task too many. -/
theorem Spawning.decides (spawning : Spawning service asking)
    {state next : WithHistory Fields Work Reply Inner}
    (run : (machine service).Reaches state.1 state.2) (within : Within state)
    (taken : (machine service).recorded.step state event = some (next, seen)) :
    Within next ↔ ¬ Overfills asking state event := by
  obtain ⟨stepped, grown⟩ := Machine.recorded_step taken
  have balance := unconsumed_step run stepped
  obtain ⟨spawned, asked⟩ := spawning.step stepped
  rw [spawned, ← grown] at balance
  unfold Within Overfills at *
  cases asks : event.asks asking state.1.fields with
  | true =>
      rw [(asked asks).1, asks, List.length_nil, Bool.toNat_true] at balance
      constructor
      · rintro stays ⟨full, _⟩
        omega
      · intro room
        have different : unconsumed state.2 ≠ maxMessageChannelCapacity :=
          fun full => room ⟨full, rfl⟩
        omega
  | false =>
      rw [asks, Bool.toNat_false] at balance
      exact iff_of_true (by omega) fun overfills => by simp at overfills

/-- The results outstanding are contained in exactly the runs in which no message asks
for a task while as many are outstanding as the channel has room for. -/
theorem Spawning.contained_iff (spawning : Spawning service asking)
    {start : Task Fields Work Reply Inner} (initial : (machine service).Initial start)
    (events : List (Event Reply)) :
    Contained service asking start events ↔
      (machine service).recorded.EachStep (fun state event => ¬ Overfills asking state event)
        (start, []) events := by
  have reached : ∀ (state : WithHistory Fields Work Reply Inner) (event : Event Reply)
      (next : WithHistory Fields Work Reply Inner) (seen : List (Seen Fields Work Reply Inner)),
      (machine service).Reaches state.1 state.2 →
      (machine service).recorded.step state event = some (next, seen) →
      (machine service).Reaches next.1 next.2 := by
    intro state event next seen run taken
    obtain ⟨stepped, grown⟩ := Machine.recorded_step taken
    rw [grown]
    exact run.step stepped
  have empty : Within ((start, []) : WithHistory Fields Work Reply Inner) := Nat.zero_le _
  have exactly := Machine.throughout_iff_eachStep reached
    (fun state event next seen run within taken => spawning.decides run within taken)
    (Machine.Reaches.initial initial) empty events
  constructor
  · intro contained
    exact exactly.mp contained.within
  · intro each
    exact ⟨exactly.mpr each, each.imp fun _ _ _ _ _ never full => absurd full never⟩

end RustGameserver.Session
