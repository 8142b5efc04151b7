import RustGameserver.Session.Provenance

/-!
Contract: what directly follows the messages of a session, over timed runs.

Owns:
- that every message is directly followed by the observations of the reaction to it;
- how many tasks a reaction spawns, and that spawned tasks can be counted by the
  messages that ask for one.

Does not own: which messages a server answers through a task.
-/

namespace RustGameserver.Session

open RustGameserver.Foundation
open RustGameserver.Net
open RustGameserver.Proto

variable {Fields Work Reply Inner : Type} {service : Service Fields Work Reply Inner}
  {task prepared before after : Task Fields Work Reply Inner}
  {said seen more : List (Seen Fields Work Reply Inner)} {cause : Cause}
  {reaction : Reaction Fields Work}

/-- A message is directly followed by what the reaction to it is observed to do. -/
def Reacts (service : Service Fields Work Reply Inner) :
    Nat × Seen Fields Work Reply Inner → List (Nat × Seen Fields Work Reply Inner) → Prop
  | (now, .handled before message), later =>
      ∃ (prepared after : Task Fields Work Reply Inner)
        (made : List (Seen Fields Work Reply Inner))
        (rest : List (Nat × Seen Fields Work Reply Inner)),
        Task.Performed prepared .frame (service.onRemote before now message) after made ∧
          later = made.map (Prod.mk now) ++ rest
  | _, _ => True

theorem Reacts.append {entry : Nat × Seen Fields Work Reply Inner}
    {later : List (Nat × Seen Fields Work Reply Inner)} (reacts : Reacts service entry later)
    (block : List (Nat × Seen Fields Work Reply Inner)) :
    Reacts service entry (later ++ block) := by
  obtain ⟨now, seen⟩ := entry
  cases seen with
  | handled before message =>
      obtain ⟨prepared, after, made, rest, performed, rfl⟩ := reacts
      exact ⟨prepared, after, made, rest ++ block, performed, List.append_assoc ..⟩
  | _ => trivial

/-- Carrying out a reaction handles no message. -/
theorem Task.Performed.handles_nothing
    (performed : Task.Performed task cause reaction after seen) (fields : Fields)
    (message : MessageWrapper) : .handled fields message ∉ seen := by
  cases performed <;> simp

/-- Observations among which there is no message. -/
theorem followed_of_unhandled
    (silent : ∀ fields message, .handled fields message ∉ seen) (now : Nat) :
    Followed (Reacts service) (seen.map (Prod.mk now)) := by
  intro earlier entry later shape
  obtain ⟨stamp, observed⟩ := entry
  cases observed with
  | handled fields message =>
      have member : (stamp, Seen.handled fields message) ∈ seen.map (Prod.mk now) := by
        rw [shape]
        simp
      obtain ⟨found, among, same⟩ := List.mem_map.mp member
      rw [Prod.mk.injEq] at same
      rw [same.2] at among
      exact absurd among (silent fields message)
  | _ => trivial

theorem reacts_stepped (stepped : Task.Stepped service before after seen) :
    Followed (Reacts service) (seen.map (Prod.mk after.clock)) := by
  cases stepped.moves with
  | rests rests =>
      exact followed_of_unhandled rests.unhandled _
  | ran takes performed shape =>
      have unhandled : Followed (Reacts service) _ :=
        followed_of_unhandled performed.handles_nothing after.clock
      rw [shape]
      cases takes with
      | greeting => exact unhandled
      | result now job message =>
          refine followed_of_unhandled (fun fields other member => ?_) _
          rw [List.singleton_append, List.mem_cons] at member
          rcases member with first | rest
          · contradiction
          · exact performed.handles_nothing fields other rest
      | frame now message =>
          have clock : after.clock = now := performed.frame_eq.2.2
          intro earlier entry later split
          rw [List.map_append, clock] at split
          cases earlier with
          | nil =>
              rw [List.nil_append, List.map_singleton, List.singleton_append,
                List.cons.injEq] at split
              rw [← split.1, ← split.2]
              exact ⟨_, after, _, [], performed, (List.append_nil _).symm⟩
          | cons first rest =>
              rw [List.map_singleton, List.singleton_append, List.cons_append,
                List.cons.injEq] at split
              rw [clock] at unhandled
              exact unhandled rest entry later split.2

/-- In every run each message is directly followed by the reaction to it. -/
theorem reaches_reacts {timed : List (Nat × Seen Fields Work Reply Inner)}
    (run : ((machine service).stamped Task.clock).Reaches task timed) :
    Followed (Reacts service) timed := by
  apply run.invariant
  · intro state _ earlier entry later shape
    simp at shape
  · intro before history event after made _ followed taken
    obtain ⟨seen, stepped, rfl⟩ := Machine.stamped_step taken
    exact followed.append (reacts_stepped (Task.step_cases stepped))
      fun _ _ reacts => reacts.append _

/-! ## Counting spawned tasks -/

def Reaction.spawns : Reaction Fields Work → Bool
  | .spawn .. => true
  | .proceed _ | .stop _ | .send .. | .authenticate .. => false

/-- The message, handled at this time, asks for a task. -/
def Seen.asks (asking : Fields → Nat → MessageWrapper → Bool) :
    Nat × Seen Fields Work Reply Inner → Bool
  | (now, .handled before message) => asking before now message
  | _ => false

theorem Task.Performed.spawnedJobs_length
    (performed : Task.Performed task cause reaction after seen) :
    (spawnedJobs seen).length = reaction.spawns.toNat := by
  cases performed <;> rfl

/-- Observations that no message is among ask for nothing. -/
theorem asks_of_unhandled (asking : Fields → Nat → MessageWrapper → Bool)
    (silent : ∀ fields message, .handled fields message ∉ seen) (now : Nat) :
    (seen.map (Prod.mk now)).countP (Seen.asks asking) = 0 := by
  rw [List.countP_eq_zero]
  intro entry member
  obtain ⟨found, among, rfl⟩ := List.mem_map.mp member
  cases found with
  | handled fields message => exact absurd among (silent fields message)
  | _ => exact Bool.false_ne_true

/-- If handlers spawn a task at the messages that ask for one, and at nothing else,
then a step spawns as many tasks as it is asked for. -/
theorem spawnedJobs_stepped {asking : Fields → Nat → MessageWrapper → Bool}
    (remote : ∀ fields now message,
      (service.onRemote fields now message).spawns = asking fields now message)
    (inner : ∀ fields now message, (service.onInner fields now message).spawns = false)
    (stepped : Task.Stepped service before after seen) :
    (spawnedJobs seen).length =
      (seen.map (Prod.mk after.clock)).countP (Seen.asks asking) := by
  cases stepped.moves with
  | rests rests =>
      rw [spawnedJobs_of_silent rests.silent, asks_of_unhandled asking rests.unhandled]
      rfl
  | ran takes performed shape =>
      have spawned := performed.spawnedJobs_length
      have quiet := asks_of_unhandled asking performed.handles_nothing after.clock
      rw [shape, spawnedJobs_append, List.map_append, List.countP_append, List.length_append,
        spawned, quiet]
      cases takes with
      | greeting => rfl
      | frame now message =>
          have clock : after.clock = now := performed.frame_eq.2.2
          rw [remote, clock]
          show 0 + _ = [(now, Seen.handled before.fields message)].countP _ + 0
          rw [List.countP_singleton]
          show 0 + _ = (if asking before.fields now message = true then 1 else 0) + 0
          cases asking before.fields now message <;> rfl
      | result now job message =>
          rw [inner]
          rfl

/-- In every run as many tasks have been spawned as messages have asked for one. -/
theorem spawnedJobs_length_eq {asking : Fields → Nat → MessageWrapper → Bool}
    (remote : ∀ fields now message,
      (service.onRemote fields now message).spawns = asking fields now message)
    (inner : ∀ fields now message, (service.onInner fields now message).spawns = false)
    {timed : List (Nat × Seen Fields Work Reply Inner)}
    (run : ((machine service).stamped Task.clock).Reaches task timed) :
    (spawnedJobs (timed.map Prod.snd)).length = timed.countP (Seen.asks asking) := by
  apply run.invariant
  · intro state _
    rfl
  · intro before history event after made _ counted taken
    obtain ⟨seen, stepped, rfl⟩ := Machine.stamped_step taken
    rw [List.map_append, Machine.map_snd_stamp, spawnedJobs_append, List.length_append,
      List.countP_append, counted,
      spawnedJobs_stepped remote inner (Task.step_cases stepped)]

end RustGameserver.Session
