import RustGameserver.Session.Server

/-!
Contract: what a session does does not depend on what its tasks are doing.

Owns:
- a session with its tasks replaced by as many others;
- that every step but those of the tasks themselves is the same step then, and adds
  the same tasks;
- the same for a server whose sessions are replaced.

Does not own: the steps of the tasks.
-/

namespace RustGameserver.Session

open RustGameserver.Foundation
open RustGameserver.Net
open RustGameserver.Proto

variable {Fields Work Reply Inner : Type}

/-- The tasks a reaction adds. -/
def Reaction.newJobs : Reaction Fields Work → List (Job Work Reply Inner)
  | .spawn _ work => [⟨[work], [], .running work⟩]
  | .proceed _ | .stop _ | .send .. | .authenticate .. => []

/-- The event is a step of one of the session's tasks. -/
def Event.ofJob : Event Reply → Bool
  | .reply .. | .deliver _ => true
  | .greet | .poll _ | .select .. | .write _ | .remove | .dropOutbox | .writerJoined
  | .drainTimeout | .finish | .record _ => false

namespace Task

variable (service : Service Fields Work Reply Inner) (task : Task Fields Work Reply Inner)
  (jobs : List (Job Work Reply Inner))

/-- The session with other tasks. -/
def withJobs : Task Fields Work Reply Inner := { task with jobs }

/-- The reaction of the handler in the branch that `select!` takes. -/
def reactionTo (now : Nat) : Option Frame → Option (Reaction Fields Work)
  | some (.message message) => some (service.onRemote task.fields now message)
  | some .error | some .closed => none
  | none => task.inner.tryRecv.map fun taken => service.onInner task.fields now taken.1.2

/-- The tasks a step adds. -/
def newJobs : Event Reply → List (Job Work Reply Inner)
  | .select now frame => (task.reactionTo service now frame).elim [] Reaction.newJobs
  | _ => []

theorem sendFlow_withJobs (cause : Cause) (payload : Payload) :
    (task.withJobs jobs).sendFlow cause payload =
      ((task.sendFlow cause payload).1.withJobs jobs, (task.sendFlow cause payload).2) := by
  simp only [sendFlow, withJobs]
  cases task.path.send payload <;> rfl

variable {jobs}

theorem perform_withJobs (length : jobs.length = task.jobs.length) (cause : Cause)
    (reaction : Reaction Fields Work) :
    (task.withJobs jobs).perform cause reaction =
      ((task.perform cause reaction).1.withJobs (jobs ++ reaction.newJobs),
        (task.perform cause reaction).2) := by
  cases reaction with
  | proceed fields => simp [perform, Reaction.newJobs, withJobs]
  | stop fields => simp [perform, Reaction.newJobs, withJobs, leave]
  | spawn fields work => simp [perform, Reaction.newJobs, withJobs, length]
  | send fields payload =>
      rw [Reaction.newJobs, List.append_nil]
      exact sendFlow_withJobs { task with fields } jobs cause payload
  | authenticate fields userId payload =>
      rw [Reaction.newJobs, List.append_nil]
      exact congrArg (fun sent => (sent.1, Seen.authenticate fields userId :: sent.2))
        (sendFlow_withJobs { task with fields } jobs cause payload)

theorem select_withJobs (length : jobs.length = task.jobs.length) (now : Nat)
    (frame : Option Frame) :
    (task.withJobs jobs).select service now frame =
      ((task.select service now frame).1.withJobs
          (jobs ++ (task.reactionTo service now frame).elim [] Reaction.newJobs),
        (task.select service now frame).2) := by
  cases frame with
  | some frame =>
      cases frame with
      | message message =>
          exact congrArg (fun made => (made.1, Seen.handled task.fields message :: made.2))
            (perform_withJobs task length .frame (service.onRemote task.fields now message))
      | error => simp [select, onFrame, reactionTo, withJobs, leave]
      | closed => simp [select, onFrame, reactionTo, withJobs, leave]
  | none =>
      cases received : task.inner.tryRecv with
      | some taken =>
          obtain ⟨⟨job, message⟩, inner⟩ := taken
          have same : ({ task with inner }.withJobs jobs).perform (.result job)
                (service.onInner task.fields now message) = _ :=
            perform_withJobs { task with inner } length (.result job)
              (service.onInner task.fields now message)
          simp only [select, reactionTo, received, Option.map_some, Option.elim_some]
          have also : (task.withJobs jobs).inner.tryRecv = some ((job, message), inner) := received
          rw [also]
          exact congrArg (fun made => (made.1, Seen.consumed job message :: made.2)) same
      | none =>
          have also : (task.withJobs jobs).inner.tryRecv = none := received
          have late : (task.withJobs jobs).timedOut service now = task.timedOut service now := rfl
          simp only [select, reactionTo, received, also, late, Option.map_none, Option.elim_none,
            List.append_nil]
          split <;> rfl

/-- Every step that is not one of a task is the same step for other tasks. -/
theorem step_withJobs (length : jobs.length = task.jobs.length) {event : Event Reply}
    (session : event.ofJob = false) :
    (task.withJobs jobs).step service event =
      (task.step service event).map fun made =>
        (made.1.withJobs (jobs ++ task.newJobs service event), made.2) := by
  cases event with
  | reply => contradiction
  | deliver => contradiction
  | greet =>
      have same := sendFlow_withJobs task jobs .connection (.connectedResponse ⟨0⟩)
      simp only [step, newJobs, List.append_nil]
      show (if task.stage = .greeting then _ else _) = _
      rw [same]
      split <;> rfl
  | poll cancelled =>
      simp only [step, newJobs, List.append_nil]
      show (if task.stage = .selecting then _ else _) = _
      split
      · split <;> rfl
      · rfl
  | select now frame =>
      have same := select_withJobs service { task with clock := now } length now frame
      simp only [step]
      show (if task.stage = .polling ∧ task.clock ≤ now then _ else _) = _
      split
      · exact congrArg some same
      · rfl
  | write event =>
      simp only [step, newJobs, List.append_nil, Option.map_map]
      rfl
  | remove =>
      simp only [step, newJobs, List.append_nil]
      show (if task.stage = .leaving then _ else _) = _
      split <;> rfl
  | dropOutbox =>
      simp only [step, newJobs, List.append_nil]
      show (if task.stage = .removed then _ else _) = _
      split <;> rfl
  | writerJoined =>
      simp only [step, newJobs, List.append_nil]
      show (if task.stage = .closing ∧ task.path.writer.over = true then _ else _) = _
      split <;> rfl
  | drainTimeout =>
      simp only [step, newJobs, List.append_nil]
      show (if task.stage = .closing then _ else _) = _
      split <;> rfl
  | finish =>
      simp only [step, newJobs, List.append_nil]
      show (if task.stage = .closed then _ else _) = _
      split <;> rfl
  | record event =>
      simp only [step, newJobs, List.append_nil]
      show (if task.stage = .ended then _ else _) = _
      split
      · rw [Option.map_map]
        rfl
      · rfl

/-- A step adds its tasks to those there are. -/
theorem step_jobs {after : Task Fields Work Reply Inner}
    {seen : List (Seen Fields Work Reply Inner)} {event : Event Reply}
    (session : event.ofJob = false) (taken : task.step service event = some (after, seen)) :
    after.jobs = task.jobs ++ task.newJobs service event := by
  have same : (task.withJobs task.jobs).step service event = _ :=
    step_withJobs service task rfl session
  rw [show task.withJobs task.jobs = task from rfl, taken, Option.map_some, Option.some.injEq,
    Prod.mk.injEq] at same
  exact congrArg Task.jobs same.1

end Task

namespace ServerState

/-- The server with other sessions. -/
def withTasks (state : ServerState Fields Work Reply Inner)
    (tasks : FiniteMap SessionId (Task Fields Work Reply Inner)) :
    ServerState Fields Work Reply Inner := { state with tasks }

theorem observe_withTasks (state : ServerState Fields Work Reply Inner)
    (tasks : FiniteMap SessionId (Task Fields Work Reply Inner)) (sessionId : SessionId)
    (kick : KickToken) (seen : Seen Fields Work Reply Inner) :
    (state.withTasks tasks).observe sessionId kick seen =
      ((state.observe sessionId kick seen).1.withTasks tasks,
        (state.observe sessionId kick seen).2) := by
  unfold observe
  cases seen.registryCall sessionId with
  | some call => rfl
  | none =>
      simp only
      split <;> rfl

theorem observeAll_withTasks (tasks : FiniteMap SessionId (Task Fields Work Reply Inner))
    (sessionId : SessionId) (kick : KickToken) (seen : List (Seen Fields Work Reply Inner)) :
    ∀ state : ServerState Fields Work Reply Inner,
      (state.withTasks tasks).observeAll sessionId kick seen =
        ((state.observeAll sessionId kick seen).1.withTasks tasks,
          (state.observeAll sessionId kick seen).2) := by
  induction seen with
  | nil => exact fun _ => rfl
  | cons entry rest inductionHypothesis =>
      intro state
      simp only [observeAll]
      rw [observe_withTasks, inductionHypothesis]

end ServerState

end RustGameserver.Session
