import RustGameserver.Session.Task

/-!
Contract: what one step of a session task can do, said once.

Owns:
- the inversion of carrying out a reaction, of a handler and of a whole step;
- the shape of every task that has started.

Does not own: any invariant beyond that shape; those are derived from the
inversions here and never unfold a step again.
-/

namespace RustGameserver.Session

open RustGameserver.Foundation
open RustGameserver.Net
open RustGameserver.Proto

variable {Fields Work Reply Inner : Type}

namespace Task

/-- What carrying out a reaction can do. -/
inductive Performed (task : Task Fields Work Reply Inner) (cause : Cause) :
    Reaction Fields Work → Task Fields Work Reply Inner →
      List (Seen Fields Work Reply Inner) → Prop where
  | proceed (fields : Fields) :
      Performed task cause (.proceed fields) { task with fields, stage := .selecting } []
  | stop (fields : Fields) :
      Performed task cause (.stop fields) { task with fields }.leave []
  | send {path : SendPath} (fields : Fields) (payload : Payload)
      (sent : task.path.send payload = some path) :
      Performed task cause (.send fields payload)
        { task with fields, path, stage := .selecting } [.accepted cause payload]
  | refuse (fields : Fields) (payload : Payload) (refused : task.path.send payload = none) :
      Performed task cause (.send fields payload)
        { task with fields }.leave [.refused cause payload]
  | spawn (fields : Fields) (work : Work) :
      Performed task cause (.spawn fields work)
        { task with
          fields
          stage := .selecting
          jobs := task.jobs ++ [⟨[work], [], .running work⟩] }
        [.spawned task.jobs.length work]
  | authenticate {path : SendPath} (fields : Fields) (userId : String) (payload : Payload)
      (sent : task.path.send payload = some path) :
      Performed task cause (.authenticate fields userId payload)
        { task with fields, path, stage := .selecting }
        [.authenticate fields userId, .accepted cause payload]
  | authenticateRefuse (fields : Fields) (userId : String) (payload : Payload)
      (refused : task.path.send payload = none) :
      Performed task cause (.authenticate fields userId payload)
        { task with fields }.leave [.authenticate fields userId, .refused cause payload]

theorem perform_cases (task : Task Fields Work Reply Inner) (cause : Cause)
    (reaction : Reaction Fields Work) :
    Performed task cause reaction (task.perform cause reaction).1
      (task.perform cause reaction).2 := by
  cases reaction with
  | proceed fields => exact .proceed fields
  | stop fields => exact .stop fields
  | spawn fields work => exact .spawn fields work
  | send fields payload =>
      cases sent : task.path.send payload with
      | none => simpa [perform, sendFlow, sent] using Performed.refuse fields payload sent
      | some path => simpa [perform, sendFlow, sent] using Performed.send fields payload sent
  | authenticate fields userId payload =>
      cases sent : task.path.send payload with
      | none =>
          simpa [perform, sendFlow, sent] using
            Performed.authenticateRefuse fields userId payload sent
      | some path =>
          simpa [perform, sendFlow, sent] using
            Performed.authenticate fields userId payload sent

/-- Carrying out a reaction leaves the session with its fields, and leaves the token
and the clock alone. -/
theorem Performed.frame_eq {task after : Task Fields Work Reply Inner} {cause : Cause}
    {reaction : Reaction Fields Work} {seen : List (Seen Fields Work Reply Inner)}
    (performed : Performed task cause reaction after seen) :
    after.fields = reaction.fields ∧ after.kick = task.kick ∧ after.clock = task.clock := by
  cases performed <;> exact ⟨rfl, rfl, rfl⟩

/-- The input a handler takes and how it reacts to it. -/
inductive Takes (service : Service Fields Work Reply Inner)
    (task : Task Fields Work Reply Inner) :
    Task Fields Work Reply Inner → List (Seen Fields Work Reply Inner) → Cause →
      Reaction Fields Work → Prop where
  | greeting (stage : task.stage = .greeting) :
      Takes service task task [] .connection (.send task.fields (.connectedResponse ⟨0⟩))
  | frame (now : Nat) (message : MessageWrapper)
      (stage : task.stage = .polling) (later : task.clock ≤ now) :
      Takes service task { task with clock := now } [.handled task.fields message] .frame
        (service.onRemote task.fields now message)
  | result {inner : Channel (Nat × Inner) maxMessageChannelCapacity}
      (now job : Nat) (message : Inner)
      (stage : task.stage = .polling) (later : task.clock ≤ now)
      (received : task.inner.tryRecv = some ((job, message), inner)) :
      Takes service task { task with clock := now, inner } [.consumed job message] (.result job)
        (service.onInner task.fields now message)

/-- Everything one step of a session can do, with what it observes. -/
inductive Stepped (service : Service Fields Work Reply Inner)
    (task : Task Fields Work Reply Inner) :
    Task Fields Work Reply Inner → List (Seen Fields Work Reply Inner) → Prop where
  | ran {prepared after : Task Fields Work Reply Inner}
      {said seen : List (Seen Fields Work Reply Inner)} {cause : Cause}
      {reaction : Reaction Fields Work}
      (takes : Takes service task prepared said cause reaction)
      (performed : Performed prepared cause reaction after seen) :
      Stepped service task after (said ++ seen)
  | polled (stage : task.stage = .selecting) :
      Stepped service task { task with stage := .polling } []
  | parked (now : Nat) (stage : task.stage = .polling) (later : task.clock ≤ now) :
      Stepped service task { task with clock := now, stage := .selecting } []
  | left (now : Nat) (departure : Departure)
      (stage : task.stage = .selecting ∨ task.stage = .polling) (later : task.clock ≤ now) :
      Stepped service task { task with clock := now }.leave [.left departure]
  | awaits {work next : Work} (index : Nat) (job : Job Work Reply Inner) (reply : Reply)
      (present : task.jobs[index]? = some job) (running : job.state = .running work)
      (resumed : service.resume work reply = some (.awaits next)) :
      Stepped service task
        { task with
          jobs := task.jobs.set index
            ⟨job.calls ++ [next], job.replies ++ [reply], .running next⟩ }
        [.replied index reply]
  | returned {work : Work} {message : Inner} (index : Nat) (job : Job Work Reply Inner)
      (reply : Reply)
      (present : task.jobs[index]? = some job) (running : job.state = .running work)
      (resumed : service.resume work reply = some (.returns message)) :
      Stepped service task
        { task with
          jobs := task.jobs.set index ⟨job.calls, job.replies ++ [reply], .finished message⟩ }
        [.replied index reply]
  | delivered {message : Inner} {inner : Channel (Nat × Inner) maxMessageChannelCapacity}
      (index : Nat) (job : Job Work Reply Inner)
      (present : task.jobs[index]? = some job) (finished : job.state = .finished message)
      (queued : task.inner.trySend (index, message) = .ok inner) :
      Stepped service task
        { task with jobs := task.jobs.set index { job with state := .ended message }, inner } []
  | dropped {message : Inner} (index : Nat) (job : Job Work Reply Inner)
      (present : task.jobs[index]? = some job) (finished : job.state = .finished message)
      (gone : task.inner.trySend (index, message) = .error .closed) :
      Stepped service task
        { task with jobs := task.jobs.set index { job with state := .ended message } } []
  | wrote {path : SendPath} {event : WriterEvent} {seen : List WriterSeen}
      (taken : task.path.writeStep event = some (path, seen)) :
      Stepped service task { task with path } (seen.map Seen.writer)
  | removed (stage : task.stage = .leaving) :
      Stepped service task { task with stage := .removed } [.remove]
  | outboxDropped (stage : task.stage = .removed) :
      Stepped service task { task with stage := .closing, path := task.path.dropSender } []
  | joined (stage : task.stage = .closing) (finished : task.path.writer.over = true) :
      Stepped service task { task with stage := .closed } []
  | drainTimedOut (stage : task.stage = .closing) :
      Stepped service task { task with stage := .closed, path := task.path.requestAbort }
        [.drainTimeout]
  | ended (stage : task.stage = .closed) :
      Stepped service task
        { task with
          stage := .ended
          recording := (service.logoutAccount task.fields).map fun _ => .attempting }
        ((service.logoutAccount task.fields).map Seen.recordLogout).toList
  | recorded {event : RecordEvent} {recording : Option Recording} {seen : List RecordSeen}
      (stage : task.stage = .ended)
      (moved : Recording.Stepped task.recording event recording seen) :
      Stepped service task { task with recording } (seen.map Seen.record)

variable {service : Service Fields Work Reply Inner}
  {task prepared after : Task Fields Work Reply Inner}
  {said seen : List (Seen Fields Work Reply Inner)} {cause : Cause}
  {reaction : Reaction Fields Work}

/-- Taking the input leaves the rest of the session alone. -/
theorem Takes.frame_eq (takes : Takes service task prepared said cause reaction) :
    prepared.stage = task.stage ∧ prepared.fields = task.fields ∧
      prepared.kick = task.kick ∧ prepared.path = task.path ∧ prepared.jobs = task.jobs := by
  cases takes <;> exact ⟨rfl, rfl, rfl, rfl, rfl⟩

/-- Handlers run inside the event loop. -/
theorem Takes.inLoop (takes : Takes service task prepared said cause reaction) :
    task.stage.inLoop = true := by
  cases takes with
  | greeting stage => rw [stage]; rfl
  | frame now message stage => rw [stage]; rfl
  | result now job message stage => rw [stage]; rfl

/-- The clock of a session does not run backwards. -/
theorem Stepped.clock_le (stepped : Stepped service task after seen) :
    task.clock ≤ after.clock := by
  cases stepped with
  | ran takes performed =>
      rw [performed.frame_eq.2.2]
      cases takes with
      | greeting => exact le_rfl
      | frame now message stage later => exact later
      | result now job message stage later => exact later
  | parked now stage later => exact later
  | left now departure stage later => exact later
  | _ => exact le_rfl

theorem select_cases {now : Nat} {frame : Option Frame} (stage : task.stage = .polling)
    (later : task.clock ≤ now) :
    Stepped service task ({ task with clock := now }.select service now frame).1
      ({ task with clock := now }.select service now frame).2 := by
  cases frame with
  | some frame =>
      cases frame with
      | message message => exact .ran (.frame now message stage later) (perform_cases ..)
      | error => exact .left now _ (.inr stage) later
      | closed => exact .left now _ (.inr stage) later
  | none =>
      cases received : task.inner.tryRecv with
      | some taken =>
          obtain ⟨⟨job, message⟩, inner⟩ := taken
          simp only [select, received]
          exact .ran (.result now job message stage later received) (perform_cases ..)
      | none =>
          simp only [select, received]
          split
          · exact .left now _ (.inr stage) later
          · exact .parked now stage later

/-- What the reply to a task does to a session. -/
theorem reply_eq {index : Nat} {reply : Reply}
    (taken : task.reply service index reply = some (after, seen)) :
    ∃ job work, task.jobs[index]? = some job ∧ job.state = .running work ∧
      seen = [.replied index reply] ∧
      ((∃ next, service.resume work reply = some (.awaits next) ∧
          after = { task with
            jobs := task.jobs.set index
              ⟨job.calls ++ [next], job.replies ++ [reply], .running next⟩ }) ∨
        ∃ message, service.resume work reply = some (.returns message) ∧
          after = { task with
            jobs := task.jobs.set index
              ⟨job.calls, job.replies ++ [reply], .finished message⟩ }) := by
  unfold Task.reply at taken
  split at taken
  · contradiction
  · next job present =>
      split at taken
      · contradiction
      · contradiction
      · next work running =>
          refine ⟨job, work, present, running, ?_⟩
          split at taken
          · contradiction
          · next next resumed =>
              simp only [Option.some.injEq, Prod.mk.injEq] at taken
              obtain ⟨rfl, rfl⟩ := taken
              exact ⟨rfl, .inl ⟨next, resumed, rfl⟩⟩
          · next message resumed =>
              simp only [Option.some.injEq, Prod.mk.injEq] at taken
              obtain ⟨rfl, rfl⟩ := taken
              exact ⟨rfl, .inr ⟨message, resumed, rfl⟩⟩

theorem reply_cases {index : Nat} {reply : Reply}
    (taken : task.reply service index reply = some (after, seen)) :
    Stepped service task after seen := by
  obtain ⟨job, work, present, running, rfl, way⟩ := reply_eq taken
  rcases way with ⟨next, resumed, rfl⟩ | ⟨message, resumed, rfl⟩
  · exact .awaits index job reply present running resumed
  · exact .returned index job reply present running resumed

/-- What the delivery of a result does to a session. -/
theorem deliver_eq {index : Nat} (taken : task.deliver index = some after) :
    ∃ job message, task.jobs[index]? = some job ∧ job.state = .finished message ∧
      ((∃ inner, task.inner.trySend (index, message) = .ok inner ∧
          after = { task with
            jobs := task.jobs.set index { job with state := .ended message }, inner }) ∨
        (task.inner.trySend (index, message) = .error .closed ∧
          after = { task with
            jobs := task.jobs.set index { job with state := .ended message } })) := by
  unfold deliver at taken
  split at taken
  · contradiction
  · next job present =>
      split at taken
      · contradiction
      · contradiction
      · next message finished =>
          refine ⟨job, message, present, finished, ?_⟩
          simp only at taken
          split at taken
          · next inner queued =>
              cases taken
              exact .inl ⟨inner, queued, rfl⟩
          · next gone =>
              cases taken
              exact .inr ⟨gone, rfl⟩
          · contradiction

theorem deliver_cases {index : Nat} (taken : task.deliver index = some after) :
    Stepped service task after [] := by
  obtain ⟨job, message, present, finished, way⟩ := deliver_eq taken
  rcases way with ⟨inner, queued, rfl⟩ | ⟨gone, rfl⟩
  · exact .delivered index job present finished queued
  · exact .dropped index job present finished gone

theorem step_cases {event : Event Reply} (taken : task.step service event = some (after, seen)) :
    Stepped service task after seen := by
  cases event with
  | greet =>
      simp only [step, Option.ite_none_right_eq_some, Option.some.injEq] at taken
      obtain ⟨stage, outcome⟩ := taken
      have performed := perform_cases task .connection
        (.send task.fields (.connectedResponse ⟨0⟩))
      have same : task.perform .connection (.send task.fields (.connectedResponse ⟨0⟩)) =
          (after, seen) := outcome
      rw [same] at performed
      exact .ran (.greeting stage) performed
  | poll cancelled =>
      simp only [step, Option.ite_none_right_eq_some] at taken
      obtain ⟨stage, outcome⟩ := taken
      split at outcome
      · cases outcome
        exact .left task.clock _ (.inl stage) le_rfl
      · cases outcome
        exact .polled stage
  | select now frame =>
      simp only [step, Option.ite_none_right_eq_some, Option.some.injEq] at taken
      obtain ⟨⟨stage, later⟩, outcome⟩ := taken
      have selected : Stepped service task
          ({ task with clock := now }.select service now frame).1
          ({ task with clock := now }.select service now frame).2 :=
        select_cases stage later
      rw [outcome] at selected
      exact selected
  | reply job reply => exact reply_cases taken
  | deliver job =>
      simp only [step, Option.map_eq_some_iff, Prod.mk.injEq] at taken
      obtain ⟨_, delivered, rfl, rfl⟩ := taken
      exact deliver_cases delivered
  | write event =>
      simp only [step, Option.map_eq_some_iff, Prod.mk.injEq] at taken
      obtain ⟨⟨path, written⟩, wrote, rfl, rfl⟩ := taken
      exact .wrote wrote
  | remove =>
      simp only [step, Option.ite_none_right_eq_some, Option.some.injEq, Prod.mk.injEq] at taken
      obtain ⟨stage, rfl, rfl⟩ := taken
      exact .removed stage
  | dropOutbox =>
      simp only [step, Option.ite_none_right_eq_some, Option.some.injEq, Prod.mk.injEq] at taken
      obtain ⟨stage, rfl, rfl⟩ := taken
      exact .outboxDropped stage
  | writerJoined =>
      simp only [step, Option.ite_none_right_eq_some, Option.some.injEq, Prod.mk.injEq] at taken
      obtain ⟨⟨stage, finished⟩, rfl, rfl⟩ := taken
      exact .joined stage finished
  | drainTimeout =>
      simp only [step, Option.ite_none_right_eq_some, Option.some.injEq, Prod.mk.injEq] at taken
      obtain ⟨stage, rfl, rfl⟩ := taken
      exact .drainTimedOut stage
  | finish =>
      simp only [step, Option.ite_none_right_eq_some, Option.some.injEq, Prod.mk.injEq] at taken
      obtain ⟨stage, rfl, rfl⟩ := taken
      exact .ended stage
  | record event =>
      simp only [step, Option.ite_none_right_eq_some, Option.map_eq_some_iff,
        Prod.mk.injEq] at taken
      obtain ⟨stage, ⟨recording, made⟩, moved, rfl, rfl⟩ := taken
      exact .recorded stage (Recording.step_cases moved)

end Task

/-! ## Which event makes which observation -/

/-- The observation may be made during a step for the event. -/
def Seen.madeBy : Seen Fields Work Reply Inner → Event Reply → Prop
  | .handled _ message, .select _ (some (.message received)) => message = received
  | .consumed .., .select _ none => True
  | .authenticate .., .select .. => True
  | .accepted .., .greet | .accepted .., .select .. => True
  | .refused .., .greet | .refused .., .select .. => True
  | .spawned .., .select .. => True
  | .replied job reply, .reply other received => job = other ∧ reply = received
  | .left _, .poll _ | .left _, .select .. => True
  | .writer _, .write _ => True
  | .remove, .remove => True
  | .drainTimeout, .drainTimeout => True
  | .recordLogout _, .finish => True
  | .record _, .record _ => True
  | _, _ => False

/-- The observations made while a reaction is carried out in `select!`. -/
theorem Task.Performed.madeBy {task after : Task Fields Work Reply Inner} {cause : Cause}
    {reaction : Reaction Fields Work} {seen : List (Seen Fields Work Reply Inner)}
    (performed : Task.Performed task cause reaction after seen) (now : Nat)
    (frame : Option Frame) : ∀ entry ∈ seen, entry.madeBy (.select now frame) := by
  cases performed <;> simp [Seen.madeBy]

theorem Task.select_madeBy {service : Service Fields Work Reply Inner}
    (task : Task Fields Work Reply Inner) (now : Nat) (frame : Option Frame) :
    ∀ entry ∈ (task.select service now frame).2, entry.madeBy (.select now frame) := by
  cases frame with
  | some frame =>
      cases frame with
      | message message =>
          have performed := (perform_cases task .frame
            (service.onRemote task.fields now message)).madeBy now (some (.message message))
          exact List.forall_mem_cons.mpr ⟨rfl, performed⟩
      | error => simp [Task.select, Task.onFrame, Seen.madeBy]
      | closed => simp [Task.select, Task.onFrame, Seen.madeBy]
  | none =>
      cases received : task.inner.tryRecv with
      | some taken =>
          obtain ⟨⟨job, message⟩, inner⟩ := taken
          have performed := (perform_cases { task with inner } (.result job)
            (service.onInner task.fields now message)).madeBy now none
          simp only [Task.select, received]
          exact List.forall_mem_cons.mpr ⟨trivial, performed⟩
      | none =>
          simp only [Task.select, received]
          split <;> simp [Seen.madeBy]

theorem Task.step_madeBy {service : Service Fields Work Reply Inner}
    {task after : Task Fields Work Reply Inner} {seen : List (Seen Fields Work Reply Inner)}
    {event : Event Reply} (taken : task.step service event = some (after, seen)) :
    ∀ entry ∈ seen, entry.madeBy event := by
  cases event with
  | greet =>
      simp only [step, sendFlow, Option.ite_none_right_eq_some, Option.some.injEq] at taken
      obtain ⟨_, outcome⟩ := taken
      split at outcome <;> cases outcome <;> simp [Seen.madeBy]
  | poll cancelled =>
      simp only [step, Option.ite_none_right_eq_some] at taken
      obtain ⟨_, outcome⟩ := taken
      split at outcome <;> cases outcome <;> simp [Seen.madeBy]
  | select now frame =>
      simp only [step, Option.ite_none_right_eq_some, Option.some.injEq] at taken
      have made : ∀ entry ∈ ({ task with clock := now }.select service now frame).2,
          entry.madeBy (.select now frame) :=
        select_madeBy { task with clock := now } now frame
      rw [taken.2] at made
      exact made
  | reply job reply =>
      simp only [step, Task.reply] at taken
      split at taken
      · contradiction
      · split at taken
        · contradiction
        · contradiction
        · split at taken
          · contradiction
          · cases taken
            simp [Seen.madeBy]
          · cases taken
            simp [Seen.madeBy]
  | deliver job =>
      simp only [step, Option.map_eq_some_iff, Prod.mk.injEq] at taken
      obtain ⟨_, _, _, rfl⟩ := taken
      nofun
  | write event =>
      simp only [step, Option.map_eq_some_iff, Prod.mk.injEq] at taken
      obtain ⟨_, _, _, rfl⟩ := taken
      simp [Seen.madeBy]
  | record event =>
      simp only [step, Option.ite_none_right_eq_some, Option.map_eq_some_iff,
        Prod.mk.injEq] at taken
      obtain ⟨_, _, _, _, rfl⟩ := taken
      simp [Seen.madeBy]
  | finish =>
      simp only [step, Option.ite_none_right_eq_some, Option.some.injEq, Prod.mk.injEq] at taken
      obtain ⟨_, _, rfl⟩ := taken
      simp [Seen.madeBy]
  | remove | dropOutbox | writerJoined | drainTimeout =>
      simp only [step, Option.ite_none_right_eq_some, Option.some.injEq, Prod.mk.injEq] at taken
      obtain ⟨_, _, rfl⟩ := taken
      simp [Seen.madeBy]

/-! ## Reading a history -/

namespace Seen

/-- The payload for which `Outbox::send` returned `Ok`. -/
def acceptedPayload : Seen Fields Work Reply Inner → Option Payload
  | .accepted _ payload => some payload
  | _ => none

/-- The message the writer fed to its sink. -/
def fedMessage : Seen Fields Work Reply Inner → Option MessageWrapper
  | .writer seen => SendPath.fedMessage seen
  | _ => none

/-- The observations that only a running event loop makes. -/
def ofLoop : Seen Fields Work Reply Inner → Bool
  | .handled .. | .consumed .. | .authenticate .. | .accepted .. | .refused ..
  | .spawned .. | .left .. => true
  | .replied .. | .writer .. | .remove | .drainTimeout | .recordLogout .. | .record _ => false

/-- The observations of a handler. -/
def ofHandler : Seen Fields Work Reply Inner → Bool
  | .handled .. | .consumed .. | .authenticate .. | .accepted .. | .refused ..
  | .spawned .. => true
  | .left .. | .replied .. | .writer .. | .remove | .drainTimeout | .recordLogout ..
  | .record _ => false

/-- What a handler does about the input it has taken. -/
def ofReaction : Seen Fields Work Reply Inner → Bool
  | .authenticate .. | .accepted .. | .refused .. | .spawned .. => true
  | .handled .. | .consumed .. | .left .. | .replied .. | .writer .. | .remove
  | .drainTimeout | .recordLogout .. | .record _ => false

end Seen

/-- The payloads the outbox has accepted so far, in order. -/
def accepted (history : List (Seen Fields Work Reply Inner)) : List Payload :=
  history.filterMap Seen.acceptedPayload

/-- The messages the writer has fed so far, in order. -/
def fed (history : List (Seen Fields Work Reply Inner)) : List MessageWrapper :=
  history.filterMap Seen.fedMessage

/-- The messages handled so far, each with the fields of the session before it. -/
def handled (history : List (Seen Fields Work Reply Inner)) : List (Fields × MessageWrapper) :=
  history.filterMap fun
    | .handled before message => some (before, message)
    | _ => none

section Reading

variable (history more : List (Seen Fields Work Reply Inner))

@[simp] theorem accepted_append : accepted (history ++ more) = accepted history ++ accepted more :=
  List.filterMap_append

@[simp] theorem fed_append : fed (history ++ more) = fed history ++ fed more :=
  List.filterMap_append

@[simp] theorem handled_append : handled (history ++ more) = handled history ++ handled more :=
  List.filterMap_append

@[simp] theorem accepted_writer (seen : List WriterSeen) :
    accepted (seen.map (Seen.writer : _ → Seen Fields Work Reply Inner)) = [] :=
  filterMap_wrapped _ _ (fun _ => rfl) seen

@[simp] theorem fed_writer (seen : List WriterSeen) :
    fed (seen.map (Seen.writer : _ → Seen Fields Work Reply Inner)) =
      seen.filterMap SendPath.fedMessage :=
  List.filterMap_map ..

@[simp] theorem handled_writer (seen : List WriterSeen) :
    handled (seen.map (Seen.writer : _ → Seen Fields Work Reply Inner)) = [] :=
  filterMap_wrapped _ _ (fun _ => rfl) seen

@[simp] theorem accepted_record (seen : List RecordSeen) :
    accepted (seen.map (Seen.record : _ → Seen Fields Work Reply Inner)) = [] :=
  filterMap_wrapped _ _ (fun _ => rfl) seen

@[simp] theorem fed_record (seen : List RecordSeen) :
    fed (seen.map (Seen.record : _ → Seen Fields Work Reply Inner)) = [] :=
  filterMap_wrapped _ _ (fun _ => rfl) seen

@[simp] theorem handled_record (seen : List RecordSeen) :
    handled (seen.map (Seen.record : _ → Seen Fields Work Reply Inner)) = [] :=
  filterMap_wrapped _ _ (fun _ => rfl) seen

end Reading

/-- A list of observations of a kind that only handlers make. -/
theorem filterMap_of_silent {α : Type} {seen : List (Seen Fields Work Reply Inner)}
    (silent : ∀ entry ∈ seen, entry.ofHandler = false)
    (read : Seen Fields Work Reply Inner → Option α)
    (ofHandler : ∀ entry, entry.ofHandler = false → read entry = none) :
    seen.filterMap read = [] :=
  List.filterMap_eq_nil_iff.mpr fun entry member => ofHandler entry (silent entry member)

theorem accepted_of_silent {seen : List (Seen Fields Work Reply Inner)}
    (silent : ∀ entry ∈ seen, entry.ofHandler = false) : accepted seen = [] := by
  apply filterMap_of_silent silent
  intro entry quiet
  cases entry <;> first | rfl | contradiction

theorem handled_of_silent {seen : List (Seen Fields Work Reply Inner)}
    (silent : ∀ entry ∈ seen, entry.ofHandler = false) : handled seen = [] := by
  apply filterMap_of_silent silent
  intro entry quiet
  cases entry <;> first | rfl | contradiction

/-! ## Steps that run no handler -/

/-- A step without a handler keeps the fields and the token of the session, does
not greet and never takes it back into the event loop. -/
structure Task.Rests (task after : Task Fields Work Reply Inner)
    (seen : List (Seen Fields Work Reply Inner)) : Prop where
  fields : after.fields = task.fields
  kick : after.kick = task.kick
  jobs : after.jobs.length = task.jobs.length
  inLoop : after.stage.inLoop = true → task.stage.inLoop = true
  registered : after.stage.registered = true → task.stage.registered = true
  greeting : task.stage = .greeting → after.stage = .greeting
  silent : ∀ entry ∈ seen, entry.ofHandler = false

theorem Task.Rests.unhandled {task after : Task Fields Work Reply Inner}
    {seen : List (Seen Fields Work Reply Inner)} (rests : task.Rests after seen)
    (fields : Fields) (message : MessageWrapper) : .handled fields message ∉ seen := by
  intro member
  have quiet := rests.silent _ member
  contradiction

/-- A step runs one handler or none. -/
inductive Task.Moves (service : Service Fields Work Reply Inner)
    (task after : Task Fields Work Reply Inner) (seen : List (Seen Fields Work Reply Inner)) :
    Prop where
  | ran {prepared : Task Fields Work Reply Inner}
      {said more : List (Seen Fields Work Reply Inner)} {cause : Cause}
      {reaction : Reaction Fields Work}
      (takes : Task.Takes service task prepared said cause reaction)
      (performed : Task.Performed prepared cause reaction after more)
      (shape : seen = said ++ more)
  | rests (rests : task.Rests after seen)

/-- A step of a session that is not registered afterwards. -/
theorem Task.Rests.closing {task after : Task Fields Work Reply Inner}
    {seen : List (Seen Fields Work Reply Inner)}
    (frame : after.fields = task.fields ∧ after.kick = task.kick ∧ after.jobs = task.jobs)
    (out : after.stage.registered = false) (started : task.stage ≠ .greeting)
    (silent : ∀ entry ∈ seen, entry.ofHandler = false) : task.Rests after seen where
  fields := frame.1
  kick := frame.2.1
  jobs := congrArg List.length frame.2.2
  inLoop := fun inLoop => absurd (Stage.registered_of_inLoop inLoop) (by simp [out])
  registered := fun registered => absurd registered (by simp [out])
  greeting := fun greeting => absurd greeting started
  silent := silent

/-- A step that stays in the stage of the session. -/
theorem Task.Rests.staying {task after : Task Fields Work Reply Inner}
    {seen : List (Seen Fields Work Reply Inner)}
    (frame : after.fields = task.fields ∧ after.kick = task.kick ∧ after.stage = task.stage)
    (jobs : after.jobs.length = task.jobs.length)
    (silent : ∀ entry ∈ seen, entry.ofHandler = false) : task.Rests after seen where
  fields := frame.1
  kick := frame.2.1
  jobs := jobs
  inLoop := fun inLoop => frame.2.2 ▸ inLoop
  registered := fun registered => frame.2.2 ▸ registered
  greeting := fun greeting => frame.2.2.trans greeting
  silent := silent

theorem Task.Stepped.moves {service : Service Fields Work Reply Inner}
    {task after : Task Fields Work Reply Inner} {seen : List (Seen Fields Work Reply Inner)}
    (stepped : Task.Stepped service task after seen) : Task.Moves service task after seen := by
  cases stepped with
  | ran takes performed => exact .ran takes performed rfl
  | polled stage | parked now stage =>
      refine .rests ⟨rfl, rfl, rfl, fun _ => ?_, fun _ => ?_, fun greeting => ?_, by simp⟩
      · rw [stage]; rfl
      · rw [stage]; rfl
      · rw [stage] at greeting; contradiction
  | left now departure stage =>
      refine .rests ⟨rfl, rfl, rfl, fun inLoop => by contradiction, fun _ => ?_,
        fun greeting => ?_, by simp [Seen.ofHandler]⟩
      · rcases stage with stage | stage <;> rw [stage] <;> rfl
      · rcases stage with stage | stage <;> rw [stage] at greeting <;> contradiction
  | awaits | returned | delivered | dropped | wrote | recorded =>
      exact .rests (.staying ⟨rfl, rfl, rfl⟩ (by simp) (by simp [Seen.ofHandler]))
  | removed stage | outboxDropped stage | joined stage | drainTimedOut stage | ended stage =>
      exact .rests (.closing ⟨rfl, rfl, rfl⟩ rfl (by simp [stage]) (by simp [Seen.ofHandler]))

/-- What a reaction says if the event loop goes on. -/
def Reaction.said : Reaction Fields Work → Option (List Payload)
  | .proceed _ | .spawn _ _ => some []
  | .stop _ => none
  | .send _ payload | .authenticate _ _ payload => some [payload]

theorem Task.Performed.said {task after : Task Fields Work Reply Inner} {cause : Cause}
    {reaction : Reaction Fields Work} {seen : List (Seen Fields Work Reply Inner)}
    (performed : Task.Performed task cause reaction after seen)
    (inLoop : after.stage.inLoop = true) :
    reaction.said = some (accepted seen) ∧ handled seen = [] := by
  cases performed <;> first | exact ⟨rfl, rfl⟩ | contradiction

end RustGameserver.Session
