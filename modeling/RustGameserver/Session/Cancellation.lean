import RustGameserver.Session.KeepAlive
import RustGameserver.Session.Ownership

/-!
Contract: what a session still does once its kick token has been cancelled.

Owns:
- the steps of a session's own task, as opposed to those of its writer and of the
  tasks it has spawned;
- how much of them is left after the cancellation, whatever the rest of the server does;
- that the next of them can always be taken.

Does not own: how long a step takes, and who cancels the token.
-/

namespace RustGameserver.Session

open RustGameserver.Foundation
open RustGameserver.Net
open RustGameserver.Proto

variable {Fields Work Reply Inner : Type} {service : Service Fields Work Reply Inner}

/-- The steps of `run` after the cancellation.  A `select!` that has polled the token
before it still takes what is ready. -/
def Stage.stepsLeft : Stage → Nat
  | .greeting | .polling => 6
  | .selecting => 5
  | .leaving => 4
  | .removed => 3
  | .closing => 2
  | .closed => 1
  | .ended => 0

/-- The handlers that run after the cancellation. -/
def Stage.handlersLeft : Stage → Nat
  | .greeting | .polling => 1
  | .selecting | .leaving | .removed | .closing | .closed | .ended => 0

/-- How many inputs have been taken. -/
def inputs (history : List (Seen Fields Work Reply Inner)) : Nat := history.countP Seen.isInput

theorem inputs_append (history more : List (Seen Fields Work Reply Inner)) :
    inputs (history ++ more) = inputs history + inputs more :=
  List.countP_append

/-! ## One step of a session -/

/-- A step of a session uses up handlers and steps of `run` that were left. -/
structure Spends (task after : Task Fields Work Reply Inner)
    (seen : List (Seen Fields Work Reply Inner)) (used : Nat) : Prop where
  taken : inputs seen + after.stage.handlersLeft ≤ task.stage.handlersLeft
  told : (accepted seen).length + after.stage.handlersLeft ≤ task.stage.handlersLeft
  steps : used + after.stage.stepsLeft ≤ task.stage.stepsLeft

section Steps

variable {task after : Task Fields Work Reply Inner} {seen : List (Seen Fields Work Reply Inner)}

end Steps

/-! ## Any steps of a server -/

section Servers

variable {state after final : ServerState Fields Work Reply Inner}
  {seen later : List (ServerSeen Fields Work Reply Inner)} {sessionId : SessionId}
  {task : Task Fields Work Reply Inner}

/-- What a session does neither starts the shutdown nor draws an id. -/
theorem observe_unmoved (state : ServerState Fields Work Reply Inner) (sessionId : SessionId)
    (kick : KickToken) (entry : Seen Fields Work Reply Inner) :
    (state.observe sessionId kick entry).1.shutdown = state.shutdown ∧
      (state.observe sessionId kick entry).1.nextId = state.nextId := by
  unfold ServerState.observe
  split
  · exact ⟨rfl, rfl⟩
  · split <;> exact ⟨rfl, rfl⟩

theorem observeAll_unmoved (state : ServerState Fields Work Reply Inner) (sessionId : SessionId)
    (kick : KickToken) (made : List (Seen Fields Work Reply Inner)) :
    (state.observeAll sessionId kick made).1.shutdown = state.shutdown ∧
      (state.observeAll sessionId kick made).1.nextId = state.nextId := by
  induction made generalizing state with
  | nil => exact ⟨rfl, rfl⟩
  | cons entry rest inductionHypothesis =>
      have first := observe_unmoved state sessionId kick entry
      have others := inductionHypothesis (state.observe sessionId kick entry).1
      exact ⟨others.1.trans first.1, others.2.trans first.2⟩

/-- What is used up by one run after another. -/
theorem Spends.trans {first second third : Task Fields Work Reply Inner}
    {front back : List (Seen Fields Work Reply Inner)} {used more : Nat}
    (one : Spends first second front used) (two : Spends second third back more) :
    Spends first third (front ++ back) (used + more) := by
  obtain ⟨oneTaken, oneTold, oneSteps⟩ := one
  obtain ⟨twoTaken, twoTold, twoSteps⟩ := two
  constructor
  · rw [inputs_append]
    omega
  · rw [accepted_append, List.length_append]
    omega
  · omega

end Servers

end RustGameserver.Session
