import RustGameserver.Foundation.History
import RustGameserver.Foundation.Machine

/-!
Contract: `record_logout`, in which `run` of a GameServer session ends, without its clock.

Owns:
- its loop, one step for each answer of the database and each end of a wait;
- what its attempts come to, and how it ends;
- that the next answer lets it return, once it succeeds or the server shuts down.

Does not own: how long it waits between two attempts.
-/

namespace RustGameserver.Session

open RustGameserver.Foundation

/-- Where `record_logout` stands. -/
inductive Recording where
  | attempting   -- in `touch_last_login`
  | waiting      -- in the `select!` after a failure
deriving DecidableEq, Repr

inductive RecordEvent where
  /-- `touch_last_login` returns.  The `select!` after a failure polls the shutdown at
  once, when the delay cannot have elapsed. -/
  | answered (saved shutDown : Bool)
  | slept
  /-- `shutdown.cancelled()`, which the `select!` may pass over for the delay -/
  | cancelled
deriving DecidableEq, Repr

/-- The event can happen when the shutdown has been asked for, or has not. -/
def RecordEvent.agrees (shutdown : Bool) : RecordEvent → Bool
  | .answered _ shutDown => shutDown == shutdown
  | .slept => true
  | .cancelled => shutdown

/-- What the database says. -/
def RecordEvent.answer : RecordEvent → Option Bool
  | .answered saved _ => some saved
  | .slept | .cancelled => none

inductive RecordSeen where
  | answered (saved : Bool)
  | abandoned
deriving DecidableEq, Repr

/-- `record_logout`, which is nowhere before it is called and after it has returned. -/
def Recording.step (recording : Option Recording) :
    RecordEvent → Option (Option Recording × List RecordSeen)
  | .answered saved shutDown =>
      if recording = some .attempting then
        if saved then some (none, [.answered true])
        else if shutDown then some (none, [.answered false, .abandoned])
        else some (some .waiting, [.answered false])
      else none
  | .slept => if recording = some .waiting then some (some .attempting, []) else none
  | .cancelled => if recording = some .waiting then some (none, [.abandoned]) else none

/-- `record_logout` as a machine. -/
def recordingLogout : Machine (Option Recording) RecordEvent RecordSeen where
  Initial := fun recording => recording = some .attempting
  step := Recording.step

namespace Recording

/-- What one step of `record_logout` can do. -/
inductive Stepped : Option Recording → RecordEvent → Option Recording → List RecordSeen → Prop where
  | saved (shutDown : Bool) :
      Stepped (some .attempting) (.answered true shutDown) none [.answered true]
  | gaveUp : Stepped (some .attempting) (.answered false true) none [.answered false, .abandoned]
  | failed : Stepped (some .attempting) (.answered false false) (some .waiting) [.answered false]
  | slept : Stepped (some .waiting) .slept (some .attempting) []
  | cancelled : Stepped (some .waiting) .cancelled none [.abandoned]

variable {before after : Option Recording} {event : RecordEvent} {history seen : List RecordSeen}

theorem step_cases (taken : Recording.step before event = some (after, seen)) :
    Stepped before event after seen := by
  cases event with
  | answered saved shutDown =>
      simp only [Recording.step, Option.ite_none_right_eq_some] at taken
      obtain ⟨rfl, outcome⟩ := taken
      cases saved with
      | true =>
          cases outcome
          exact .saved shutDown
      | false =>
          cases shutDown with
          | true =>
              cases outcome
              exact .gaveUp
          | false =>
              cases outcome
              exact .failed
  | slept =>
      simp only [Recording.step, Option.ite_none_right_eq_some] at taken
      obtain ⟨rfl, outcome⟩ := taken
      cases outcome
      exact .slept
  | cancelled =>
      simp only [Recording.step, Option.ite_none_right_eq_some] at taken
      obtain ⟨rfl, outcome⟩ := taken
      cases outcome
      exact .cancelled

/-- A call that has returned has returned for good. -/
theorem Stepped.running (stepped : Stepped before event after seen) : before.isSome = true := by
  cases stepped <;> rfl

end Recording

/-! ## How it ends -/

variable {before after : Option Recording} {event : RecordEvent} {history seen : List RecordSeen}

/-- Some attempts have failed. -/
def failures (count : Nat) : List RecordSeen := List.replicate count (.answered false)

/-- What has been observed of a call of `record_logout` that stands here. -/
def Attempts (recording : Option Recording) (history : List RecordSeen) : Prop :=
  match recording with
  | some .attempting => ∃ count, history = failures count
  | some .waiting => ∃ count, history = failures (count + 1)
  | none => ∃ count, history = failures count ++ [.answered true] ∨
      history = failures (count + 1) ++ [.abandoned]

theorem failures_succ (count : Nat) : failures (count + 1) = failures count ++ [.answered false] :=
  List.replicate_succ'

theorem Attempts.step (attempts : Attempts before history)
    (stepped : Recording.Stepped before event after seen) : Attempts after (history ++ seen) := by
  cases stepped with
  | saved =>
      obtain ⟨count, rfl⟩ := attempts
      exact ⟨count, .inl rfl⟩
  | gaveUp =>
      obtain ⟨count, rfl⟩ := attempts
      refine ⟨count, .inr ?_⟩
      rw [failures_succ, List.append_assoc]
      rfl
  | failed =>
      obtain ⟨count, rfl⟩ := attempts
      exact ⟨count, (failures_succ count).symm⟩
  | slept =>
      obtain ⟨count, rfl⟩ := attempts
      exact ⟨count + 1, List.append_nil _⟩
  | cancelled =>
      obtain ⟨count, rfl⟩ := attempts
      exact ⟨count, .inr rfl⟩

/-- It is given up only after the shutdown. -/
theorem abandoned_shutdown (stepped : Recording.Stepped before event after seen) {shutdown : Bool}
    (agrees : event.agrees shutdown = true) (abandoned : .abandoned ∈ seen) : shutdown = true := by
  cases stepped with
  | saved | failed | slept => simp at abandoned
  | gaveUp => exact (eq_of_beq agrees).symm
  | cancelled => exact agrees

end RustGameserver.Session
