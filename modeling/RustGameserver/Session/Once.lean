import RustGameserver.Session.Link
import RustGameserver.Session.Reactions

/-!
Contract: what a session does once.

Owns:
- that a session greets its client once;
- that a session authenticates no more often than it is asked to start a task.

Does not own: for which messages a server starts a task.
-/

namespace RustGameserver.Session

open RustGameserver.Foundation
open RustGameserver.Net
open RustGameserver.Proto

variable {Fields Work Reply Inner : Type} {service : Service Fields Work Reply Inner}
  {task prepared before after : Task Fields Work Reply Inner}
  {history said seen : List (Seen Fields Work Reply Inner)} {cause : Cause}
  {reaction : Reaction Fields Work}

/-- The payload that a handler hands to the outbox. -/
def Reaction.payload : Reaction Fields Work → Option Payload
  | .send _ payload | .authenticate _ _ payload => some payload
  | .proceed _ | .stop _ | .spawn .. => none

def Reaction.authenticates : Reaction Fields Work → Bool
  | .authenticate .. => true
  | .proceed _ | .stop _ | .send .. | .spawn .. => false

def isGreeting : Payload → Bool
  | .connectedResponse _ => true
  | _ => false

/-- What the handlers of a server do only when they are prompted: they never greet,
authenticate on a result only, and start a task only for a message that asks for one. -/
structure Prompted (service : Service Fields Work Reply Inner) (asks : MessageWrapper → Bool) :
    Prop where
  remote_payload : ∀ fields now message payload,
    (service.onRemote fields now message).payload = some payload → isGreeting payload = false
  inner_payload : ∀ fields now message payload,
    (service.onInner fields now message).payload = some payload → isGreeting payload = false
  remote_authenticates : ∀ fields now message,
    (service.onRemote fields now message).authenticates = false
  remote_spawns : ∀ fields now message,
    (service.onRemote fields now message).spawns = true → asks message = true
  inner_spawns : ∀ fields now message, (service.onInner fields now message).spawns = false

variable {asks : MessageWrapper → Bool}

/-! ## The greeting -/

/-- A session accepts at most the payload of its reaction. -/
theorem accepted_performed (performed : Task.Performed task cause reaction after seen) :
    (accepted seen).Sublist reaction.payload.toList := by
  cases performed <;> first | exact List.Sublist.refl _ | exact List.nil_sublist _

theorem greetings_performed (performed : Task.Performed task cause reaction after seen)
    (never : ∀ payload, reaction.payload = some payload → isGreeting payload = false) :
    (accepted seen).countP isGreeting = 0 := by
  rw [List.countP_eq_zero]
  intro payload member
  have own := (accepted_performed performed).subset member
  rw [Option.mem_toList] at own
  rw [never payload own]
  exact Bool.false_ne_true

/-- A session greets its client at most once. -/
theorem greets_once (prompted : Prompted service asks)
    (run : (machine service).Reaches task history) : (accepted history).countP isGreeting ≤ 1 := by
  apply run.invariant
  · intro state _
    exact Nat.zero_le 1
  · intro before history event after seen run once taken
    cases (Task.step_cases taken).moves with
    | rests rests =>
        rw [accepted_append, accepted_of_silent rests.silent, List.append_nil]
        exact once
    | @ran prepared said more cause reaction takes performed shape =>
        rw [shape, accepted_append, accepted_append, List.countP_append, List.countP_append]
        cases takes with
        | greeting stage =>
            have bound : (accepted more).countP isGreeting ≤ 1 :=
              List.countP_le_length.trans (accepted_performed performed).length_le
            rw [(reaches_untouched run stage).2.2]
            show 0 + (0 + (accepted more).countP isGreeting) ≤ 1
            omega
        | frame now message =>
            rw [greetings_performed performed (prompted.remote_payload _ _ _)]
            exact once
        | result now job message =>
            rw [greetings_performed performed (prompted.inner_payload _ _ _)]
            exact once

/-! ## Authentications -/

def Seen.isAuthentication : Seen Fields Work Reply Inner → Bool
  | .authenticate .. => true
  | _ => false

/-- How often the session has authenticated. -/
def authentications (history : List (Seen Fields Work Reply Inner)) : Nat :=
  history.countP Seen.isAuthentication

theorem authentications_append (history more : List (Seen Fields Work Reply Inner)) :
    authentications (history ++ more) = authentications history + authentications more :=
  List.countP_append

theorem authentications_of_silent (silent : ∀ entry ∈ seen, entry.ofHandler = false) :
    authentications seen = 0 := by
  rw [authentications, List.countP_eq_zero]
  intro entry member
  have quiet := silent entry member
  cases entry <;> first | contradiction | exact Bool.false_ne_true

theorem authentications_performed (performed : Task.Performed task cause reaction after seen) :
    authentications seen = reaction.authenticates.toNat := by
  cases performed <;> rfl

/-- Every authentication follows a result. -/
theorem authentications_le_consumed (prompted : Prompted service asks)
    (run : (machine service).Reaches task history) :
    authentications history ≤ (consumed history).length := by
  apply run.invariant
  · intro state _
    exact Nat.le_refl 0
  · intro before history event after seen _ bounded taken
    rw [authentications_append, consumed_append, List.length_append]
    cases (Task.step_cases taken).moves with
    | rests rests =>
        rw [authentications_of_silent rests.silent]
        omega
    | ran takes performed shape =>
        rw [shape, authentications_append, authentications_performed performed, consumed_append,
          List.length_append]
        cases takes with
        | greeting =>
            show authentications history + (0 + 0) ≤ _
            omega
        | frame now message =>
            rw [prompted.remote_authenticates]
            show authentications history + (0 + 0) ≤ _
            omega
        | result now job message =>
            have single := Bool.toNat_le (service.onInner before.fields now message).authenticates
            show authentications history + (0 + _) ≤ (consumed history).length + (1 + _)
            omega

/-- A task delivers one result at most. -/
theorem consumed_length_le (run : (machine service).Reaches task history) :
    (consumed history).length ≤ task.jobs.length := by
  have tracked := reaches_tracked run
  have once := tracked.once
  rw [List.map_append] at once
  have among : (consumed history).map Prod.fst ⊆ List.range task.jobs.length := by
    intro index member
    obtain ⟨⟨job, message⟩, found, rfl⟩ := List.mem_map.mp member
    obtain ⟨record, present, _⟩ := tracked.delivered job message (List.mem_append_left _ found)
    exact List.mem_range.mpr (List.getElem?_eq_some_iff.mp present).1
  have distinct := once.sublist (List.sublist_append_left _ _)
  simpa using (distinct.subperm among).length_le

/-- As many tasks are started as messages ask for, at most. -/
theorem spawnedJobs_le (prompted : Prompted service asks)
    (run : (machine service).Reaches task history) :
    (spawnedJobs history).length ≤ (handledMessages history).countP asks := by
  apply run.invariant
  · intro state _
    exact Nat.le_refl 0
  · intro before history event after seen _ bounded taken
    rw [spawnedJobs_append, List.length_append, handledMessages_append, List.countP_append]
    cases (Task.step_cases taken).moves with
    | rests rests =>
        rw [spawnedJobs_of_silent rests.silent, List.length_nil]
        omega
    | ran takes performed shape =>
        have spawned := performed.spawnedJobs_length
        rw [shape, spawnedJobs_append, List.length_append, spawned, handledMessages_append,
          List.countP_append]
        cases takes with
        | greeting =>
            show (spawnedJobs history).length + (0 + 0) ≤ _
            omega
        | frame now message =>
            show (spawnedJobs history).length + (0 + _) ≤ _ + ([message].countP asks + _)
            rw [List.countP_singleton]
            cases spawns : (service.onRemote before.fields now message).spawns with
            | false =>
                simp only [Bool.toNat_false]
                omega
            | true =>
                rw [if_pos (prompted.remote_spawns _ _ _ spawns), Bool.toNat_true]
                omega
        | result now job message =>
            rw [prompted.inner_spawns]
            show (spawnedJobs history).length + (0 + 0) ≤ _
            omega

/-- A session authenticates no more often than it is asked to start a task. -/
theorem authentications_le (prompted : Prompted service asks)
    (run : (machine service).Reaches task history) :
    authentications history ≤ (handledMessages history).countP asks := by
  calc authentications history ≤ (consumed history).length :=
        authentications_le_consumed prompted run
    _ ≤ task.jobs.length := consumed_length_le run
    _ = (spawnedJobs history).length := by rw [spawnedJobs_eq_range run, List.length_range]
    _ ≤ (handledMessages history).countP asks := spawnedJobs_le prompted run

end RustGameserver.Session
