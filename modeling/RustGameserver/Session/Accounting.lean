import RustGameserver.Session.Jobs

/-!
Contract: no request of a session is lost or answered twice.

Owns:
- what it means that the handlers of a server answer each counted request once,
  either at once or through a task of their own;
- the balance of requests, answers and outstanding tasks in every run.

Does not own: which requests are counted and which payloads answer them.
-/

namespace RustGameserver.Session

open RustGameserver.Foundation
open RustGameserver.Net
open RustGameserver.Proto

variable {Fields Work Reply Inner : Type} {service : Service Fields Work Reply Inner}

/-- The tasks whose message the session has not consumed yet. -/
def outstanding (task : Task Fields Work Reply Inner) : Nat :=
  task.jobs.countP Job.pending + task.inner.queue.length

/-- What a reaction adds to answers and tasks together, if the loop goes on. -/
def Reaction.load (answer : Payload → Bool) : Reaction Fields Work → Option Nat
  | .proceed _ => some 0
  | .stop _ => none
  | .send _ payload | .authenticate _ _ payload => some (answer payload).toNat
  | .spawn _ _ => some 1

/-- Every counted request and every result of a task adds exactly one answer or
one task, every other message none. -/
structure Accounting (service : Service Fields Work Reply Inner) where
  request : Fields → MessageWrapper → Bool
  answer : Payload → Bool
  greeting : answer (.connectedResponse ⟨0⟩) = false
  remote : ∀ fields now message load,
    (service.onRemote fields now message).load answer = some load →
      load = (request fields message).toNat
  result : ∀ fields now message load,
    (service.onInner fields now message).load answer = some load → load = 1

namespace Accounting

variable (accounting : Accounting service)

/-- The payloads among those accepted that answer a request. -/
def answers (history : List (Seen Fields Work Reply Inner)) : Nat :=
  (accepted history).countP accounting.answer

/-- The counted requests among the messages handled. -/
def requests (history : List (Seen Fields Work Reply Inner)) : Nat :=
  (handled history).countP fun entry => accounting.request entry.1 entry.2

variable {before after : Task Fields Work Reply Inner}
  {history seen : List (Seen Fields Work Reply Inner)}

theorem answers_append (history more : List (Seen Fields Work Reply Inner)) :
    accounting.answers (history ++ more) =
      accounting.answers history + accounting.answers more := by
  rw [answers, accepted_append, List.countP_append]
  rfl

theorem requests_append (history more : List (Seen Fields Work Reply Inner)) :
    accounting.requests (history ++ more) =
      accounting.requests history + accounting.requests more := by
  rw [requests, handled_append, List.countP_append]
  rfl

theorem answers_silent (silent : accepted seen = []) : accounting.answers seen = 0 := by
  rw [answers, silent, List.countP_nil]

theorem requests_silent (silent : handled seen = []) : accounting.requests seen = 0 := by
  rw [requests, silent, List.countP_nil]

theorem answers_accepted (cause : Cause) (payload : Payload) :
    accounting.answers [(.accepted cause payload : Seen Fields Work Reply Inner)] =
      (accounting.answer payload).toNat := by
  show [payload].countP accounting.answer = _
  rw [List.countP_singleton]
  cases accounting.answer payload <;> rfl

theorem requests_handled (fields : Fields) (message : MessageWrapper) :
    accounting.requests [(.handled fields message : Seen Fields Work Reply Inner)] =
      (accounting.request fields message).toNat := by
  show [(fields, message)].countP _ = _
  simp only [List.countP_singleton]
  cases accounting.request fields message <;> rfl

/-- A running event loop has `due` requests that it has neither answered nor
given to a task. -/
structure Owes (task : Task Fields Work Reply Inner)
    (history : List (Seen Fields Work Reply Inner)) (due : Nat) : Prop where
  listening : task.stage.inLoop = true → task.inner.receiverAlive = true
  even : task.stage.inLoop = true →
    accounting.answers history + outstanding task + due = accounting.requests history

namespace Owes

variable {accounting} {due left : Nat}

/-- The event loop has ended. -/
theorem leave (gone : after.stage.inLoop = false) : accounting.Owes after history due where
  listening := fun inLoop => by
    rw [gone] at inLoop
    contradiction
  even := fun inLoop => by
    rw [gone] at inLoop
    contradiction

/-- A step of a session whose loop goes on, with what it adds on either side. -/
theorem settle (owes : accounting.Owes before history due) (inLoop : before.stage.inLoop = true)
    (inner : after.inner.receiverAlive = before.inner.receiverAlive)
    (amount : accounting.answers seen + outstanding after + left =
      outstanding before + due + accounting.requests seen) :
    accounting.Owes after (history ++ seen) left where
  listening := fun _ => by
    rw [inner]
    exact owes.listening inLoop
  even := fun _ => by
    have even := owes.even inLoop
    rw [answers_append, requests_append]
    omega

/-- A step that leaves tasks and channel alone and neither answers nor asks. -/
theorem still (owes : accounting.Owes before history due)
    (stage : after.stage.inLoop = true → before.stage.inLoop = true)
    (jobs : after.jobs = before.jobs) (inner : after.inner = before.inner)
    (silent : accepted seen = [] ∧ handled seen = []) :
    accounting.Owes after (history ++ seen) due := by
  cases inLoop : after.stage.inLoop with
  | false => exact .leave inLoop
  | true =>
      refine owes.settle (stage inLoop) (by rw [inner]) ?_
      rw [answers_silent accounting silent.1, requests_silent accounting silent.2, outstanding,
        outstanding, jobs, inner]
      omega

/-- Carrying out a reaction pays exactly what is due. -/
theorem performed {cause : Cause} {reaction : Reaction Fields Work}
    (performed : Task.Performed before cause reaction after seen)
    (inLoop : before.stage.inLoop = true)
    (pays : ∀ load, reaction.load accounting.answer = some load → load = due)
    (owes : accounting.Owes before history due) :
    accounting.Owes after (history ++ seen) 0 := by
  cases performed with
  | proceed fields =>
      have paid := pays 0 rfl
      refine owes.settle inLoop rfl ?_
      rw [answers_silent accounting rfl, requests_silent accounting rfl, ← paid]
      simp [outstanding]
  | stop => exact .leave rfl
  | refuse => exact .leave rfl
  | authenticateRefuse => exact .leave rfl
  | send fields payload =>
      have paid := pays _ rfl
      refine owes.settle inLoop rfl ?_
      rw [answers_accepted, requests_silent accounting rfl, paid]
      simp [outstanding, Nat.add_comm]
  | authenticate fields userId payload =>
      have paid := pays _ rfl
      refine owes.settle inLoop rfl ?_
      rw [← List.singleton_append, answers_append, answers_silent accounting rfl,
        answers_accepted, requests_silent accounting rfl, paid]
      simp [outstanding, Nat.add_comm]
  | spawn fields work =>
      have paid := pays 1 rfl
      refine owes.settle inLoop rfl ?_
      rw [answers_silent accounting rfl, requests_silent accounting rfl, ← paid]
      simp [outstanding, Job.pending]
      omega

/-- Replacing one task by another, both or neither of them pending. -/
private theorem countP_set {jobs : List (Job Work Reply Inner)} {index : Nat}
    {job : Job Work Reply Inner} (present : jobs[index]? = some job)
    (moved : Job Work Reply Inner) :
    (jobs.set index moved).countP Job.pending + job.pending.toNat =
      jobs.countP Job.pending + moved.pending.toNat := by
  obtain ⟨bound, same⟩ := List.getElem?_eq_some_iff.mp present
  have counted := List.boole_getElem_le_countP (p := Job.pending) bound
  rw [List.countP_set bound]
  rw [same] at counted ⊢
  cases old : job.pending <;> cases new : moved.pending <;>
    simp only [old, if_true, Bool.false_eq_true, if_false, Bool.toNat_true,
      Bool.toNat_false] at counted ⊢ <;> omega

/-- A task moves on without delivering its message. -/
theorem advance (owes : accounting.Owes before history due) {index : Nat}
    {job moved : Job Work Reply Inner} (present : before.jobs[index]? = some job)
    (stage : after.stage.inLoop = true → before.stage.inLoop = true)
    (jobs : after.jobs = before.jobs.set index moved) (inner : after.inner = before.inner)
    (pending : moved.pending = job.pending) (silent : accepted seen = [] ∧ handled seen = []) :
    accounting.Owes after (history ++ seen) due := by
  cases inLoop : after.stage.inLoop with
  | false => exact .leave inLoop
  | true =>
      have counted := countP_set present moved
      refine owes.settle (stage inLoop) (by rw [inner]) ?_
      rw [answers_silent accounting silent.1, requests_silent accounting silent.2, outstanding,
        outstanding, jobs, inner]
      rw [pending] at counted
      omega

/-- One step. -/
theorem stepped (stepped : Task.Stepped service before after seen)
    (owes : accounting.Owes before history 0) : accounting.Owes after (history ++ seen) 0 := by
  cases stepped with
  | ran takes performed =>
      rw [← List.append_assoc]
      have inLoop := takes.inLoop
      cases takes with
      | greeting stage =>
          apply Owes.performed performed inLoop
          · intro load same
            rw [Reaction.load, accounting.greeting, Option.some.injEq] at same
            exact same.symm
          · exact owes.still id rfl rfl ⟨rfl, rfl⟩
      | frame now message =>
          apply Owes.performed performed inLoop (accounting.remote before.fields now message)
          refine owes.settle inLoop rfl ?_
          rw [answers_silent accounting rfl, requests_handled]
          simp [outstanding]
      | result now job message _ _ received =>
          obtain ⟨queue, still⟩ := Channel.tryRecv_some received
          apply Owes.performed performed inLoop (accounting.result before.fields now message)
          refine owes.settle inLoop still ?_
          rw [answers_silent accounting rfl, requests_silent accounting rfl]
          simp [outstanding, queue]
          omega
  | awaits index job reply present running resumed =>
      refine owes.advance present id rfl rfl ?_ ⟨rfl, rfl⟩
      simp [Job.pending, running]
  | returned index job reply present running resumed =>
      refine owes.advance present id rfl rfl ?_ ⟨rfl, rfl⟩
      simp [Job.pending, running]
  | @delivered message _ index job present finished queued =>
      cases inLoop : before.stage.inLoop with
      | false => exact .leave inLoop
      | true =>
          obtain ⟨alive, queue, still⟩ := Channel.trySend_ok queued
          have counted := countP_set present { job with state := .ended message }
          refine owes.settle inLoop (still.trans alive.symm) ?_
          rw [answers_silent accounting rfl, requests_silent accounting rfl]
          simp only [outstanding, queue, List.length_append, List.length_singleton]
          simp only [Job.pending, finished, Bool.toNat_true, Bool.toNat_false] at counted
          omega
  | dropped index job present finished gone =>
      -- the session is gone, so nothing is claimed about its balance
      cases inLoop : before.stage.inLoop with
      | false => exact .leave inLoop
      | true =>
          have closed := Channel.trySend_closed gone
          rw [owes.listening inLoop] at closed
          contradiction
  | left => exact .leave rfl
  | wrote => exact owes.still id rfl rfl ⟨accepted_writer _, handled_writer _⟩
  | recorded => exact owes.still id rfl rfl ⟨accepted_record _, handled_record _⟩
  | polled stage => exact owes.still (fun _ => by rw [stage]; rfl) rfl rfl ⟨rfl, rfl⟩
  | parked now stage => exact owes.still (fun _ => by rw [stage]; rfl) rfl rfl ⟨rfl, rfl⟩
  | removed => exact .leave rfl
  | outboxDropped => exact .leave rfl
  | joined => exact .leave rfl
  | drainTimedOut => exact .leave rfl
  | ended => exact .leave rfl

end Owes

/-- As long as the event loop runs, every counted request has been answered, or
has a task whose message the session has not consumed yet. -/
theorem balance (run : (machine service).Reaches before history)
    (inLoop : before.stage.inLoop = true) :
    accounting.answers history + outstanding before = accounting.requests history := by
  have owes : accounting.Owes before history 0 := by
    apply run.invariant
    · rintro state ⟨sessionId, kick, now, rfl⟩
      exact ⟨fun _ => rfl, fun _ => rfl⟩
    · intro earlier past event later seen _ owes taken
      exact .stepped (Task.step_cases taken) owes
  exact owes.even inLoop

end Accounting

end RustGameserver.Session
