import RustGameserver.Session.Steps

/-!
Contract: the backend tasks of a session, from the call they were spawned with to
the delivery of their one message.

Owns:
- how the calls and replies of a task fit together;
- the invariant that ties tasks, inner channel and history of a session.

Does not own: what the calls mean, which the backends decide.
-/

namespace RustGameserver.Session

open RustGameserver.Foundation
open RustGameserver.Net
open RustGameserver.Proto

variable {Fields Work Reply Inner : Type} {service : Service Fields Work Reply Inner}

/-- The calls and replies of a task follow its program. -/
inductive Job.Ran (service : Service Fields Work Reply Inner) : Job Work Reply Inner → Prop where
  | spawned (work : Work) : Ran service ⟨[work], [], .running work⟩
  | awaits {job : Job Work Reply Inner} {work next : Work} {reply : Reply}
      (ran : Ran service job) (running : job.state = .running work)
      (resumed : service.resume work reply = some (.awaits next)) :
      Ran service ⟨job.calls ++ [next], job.replies ++ [reply], .running next⟩
  | returned {job : Job Work Reply Inner} {work : Work} {reply : Reply} {message : Inner}
      (ran : Ran service job) (running : job.state = .running work)
      (resumed : service.resume work reply = some (.returns message)) :
      Ran service ⟨job.calls, job.replies ++ [reply], .finished message⟩
  | ended {job : Job Work Reply Inner} {message : Inner}
      (ran : Ran service job) (finished : job.state = .finished message) :
      Ran service { job with state := .ended message }

/-- The message of a task is what it returns for some reply. -/
theorem Job.Ran.returns {job : Job Work Reply Inner} (ran : job.Ran service) {message : Inner}
    (state : job.state = .finished message ∨ job.state = .ended message) :
    ∃ work reply, service.resume work reply = some (.returns message) := by
  induction ran with
  | spawned work => simp at state
  | awaits => simp at state
  | @returned job work reply found ran running resumed =>
      rcases state with same | same
      · cases same
        exact ⟨work, reply, resumed⟩
      · contradiction
  | ended ran finished inductionHypothesis =>
      rcases state with same | same
      · contradiction
      · cases same
        exact inductionHypothesis (.inl finished)

/-- The message an observation takes from the inner channel, with its task. -/
def Seen.consumedMessage : Seen Fields Work Reply Inner → Option (Nat × Inner)
  | .consumed job message => some (job, message)
  | _ => none

/-- The messages taken from the inner channel so far, in order. -/
def consumed (history : List (Seen Fields Work Reply Inner)) : List (Nat × Inner) :=
  history.filterMap Seen.consumedMessage

@[simp] theorem consumed_append (history more : List (Seen Fields Work Reply Inner)) :
    consumed (history ++ more) = consumed history ++ consumed more :=
  List.filterMap_append

@[simp] theorem consumed_writer (seen : List WriterSeen) :
    consumed (seen.map (Seen.writer : _ → Seen Fields Work Reply Inner)) = [] :=
  filterMap_wrapped _ _ (fun _ => rfl) seen

@[simp] theorem consumed_record (seen : List RecordSeen) :
    consumed (seen.map (Seen.record : _ → Seen Fields Work Reply Inner)) = [] :=
  filterMap_wrapped _ _ (fun _ => rfl) seen

/-- What the history knows about one task. -/
structure Recorded (service : Service Fields Work Reply Inner)
    (history : List (Seen Fields Work Reply Inner)) (index : Nat)
    (job : Job Work Reply Inner) : Prop where
  ran : job.Ran service
  spawned : ∃ work, job.calls.head? = some work ∧ Seen.spawned index work ∈ history
  replied : ∀ reply ∈ job.replies, Seen.replied index reply ∈ history

theorem Recorded.grow {history : List (Seen Fields Work Reply Inner)} {index : Nat}
    {job : Job Work Reply Inner} (recorded : Recorded service history index job)
    (seen : List (Seen Fields Work Reply Inner)) :
    Recorded service (history ++ seen) index job where
  ran := recorded.ran
  spawned := by
    obtain ⟨work, first, member⟩ := recorded.spawned
    exact ⟨work, first, List.mem_append_left _ member⟩
  replied := fun reply member => List.mem_append_left _ (recorded.replied reply member)

/-- One more reply. -/
theorem Recorded.replies {history : List (Seen Fields Work Reply Inner)} {index : Nat}
    {job : Job Work Reply Inner} (recorded : Recorded service history index job)
    (reply : Reply) :
    (∃ work, job.calls.head? = some work ∧
        Seen.spawned index work ∈ history ++ [.replied index reply]) ∧
      ∀ found ∈ job.replies ++ [reply],
        Seen.replied index found ∈ history ++ [.replied index reply] := by
  have grown := recorded.grow [.replied index reply]
  refine ⟨grown.spawned, fun found member => ?_⟩
  rw [List.mem_append, List.mem_singleton] at member
  rcases member with member | rfl
  · exact grown.replied found member
  · simp

/-- The tasks of a session, its inner channel and its history agree. -/
structure Tracked (service : Service Fields Work Reply Inner)
    (task : Task Fields Work Reply Inner)
    (history : List (Seen Fields Work Reply Inner)) : Prop where
  recorded : ∀ index job, task.jobs[index]? = some job → Recorded service history index job
  /-- A message in the channel or out of it was returned by its task. -/
  delivered : ∀ index message, (index, message) ∈ consumed history ++ task.inner.queue →
    ∃ job, task.jobs[index]? = some job ∧ job.state = .ended message
  /-- No task delivers twice. -/
  once : ((consumed history ++ task.inner.queue).map Prod.fst).Nodup

namespace Tracked

variable {before after : Task Fields Work Reply Inner}
  {history seen : List (Seen Fields Work Reply Inner)}

/-- A step that leaves the tasks alone and adds nothing to the channel. -/
theorem keep (tracked : Tracked service before history) (jobs : after.jobs = before.jobs)
    (queue : (consumed (history ++ seen) ++ after.inner.queue).Sublist
      (consumed history ++ before.inner.queue)) :
    Tracked service after (history ++ seen) where
  recorded := fun index job present => by
    rw [jobs] at present
    exact (tracked.recorded index job present).grow seen
  delivered := fun index message member => by
    rw [jobs]
    exact tracked.delivered index message (queue.subset member)
  once := tracked.once.sublist (queue.map _)

/-- A step that does not touch the inner channel either. -/
theorem still (tracked : Tracked service before history) (jobs : after.jobs = before.jobs)
    (inner : after.inner = before.inner) (silent : consumed seen = []) :
    Tracked service after (history ++ seen) := by
  apply tracked.keep jobs
  rw [consumed_append, silent, List.append_nil, inner]

/-- The event loop ends. -/
theorem leave (tracked : Tracked service before history) (jobs : after.jobs = before.jobs)
    (inner : after.inner.queue = []) (silent : consumed seen = []) :
    Tracked service after (history ++ seen) := by
  apply tracked.keep jobs
  rw [consumed_append, silent, List.append_nil, inner, List.append_nil]
  exact List.sublist_append_left _ _

/-- A new task. -/
theorem spawn (tracked : Tracked service before history) (work : Work)
    (jobs : after.jobs = before.jobs ++ [⟨[work], [], .running work⟩])
    (inner : after.inner = before.inner) :
    Tracked service after (history ++ [.spawned before.jobs.length work]) where
  recorded := fun index job present => by
    rw [jobs] at present
    by_cases old : index < before.jobs.length
    · rw [List.getElem?_append_left old] at present
      exact (tracked.recorded index job present).grow _
    · rw [List.getElem?_append_right (Nat.le_of_not_lt old)] at present
      obtain ⟨isZero, rfl⟩ : index - before.jobs.length = 0 ∧
          job = ⟨[work], [], .running work⟩ := by
        rcases offset : index - before.jobs.length with _ | further
        · rw [offset] at present
          simpa [eq_comm] using present
        · rw [offset] at present
          simp at present
      have here : index = before.jobs.length := by omega
      subst here
      exact ⟨.spawned work, ⟨work, rfl, by simp⟩, by simp⟩
  delivered := fun index message member => by
    have silent : consumed [(.spawned before.jobs.length work : Seen Fields Work Reply Inner)] =
        [] := rfl
    rw [inner, consumed_append, silent, List.append_nil] at member
    obtain ⟨job, present, state⟩ := tracked.delivered index message member
    have bound : index < before.jobs.length := (List.getElem?_eq_some_iff.mp present).1
    rw [jobs, List.getElem?_append_left bound]
    exact ⟨job, present, state⟩
  once := by
    have silent : consumed [(.spawned before.jobs.length work : Seen Fields Work Reply Inner)] =
        [] := rfl
    rw [inner, consumed_append, silent, List.append_nil]
    exact tracked.once

/-- A task that has not delivered its message does not occur among the delivered
ones. -/
theorem undelivered (tracked : Tracked service before history) {index : Nat}
    {job : Job Work Reply Inner} (present : before.jobs[index]? = some job)
    (unfinished : ∀ message, job.state ≠ .ended message) {other : Nat} {message : Inner}
    (member : (other, message) ∈ consumed history ++ before.inner.queue) : other ≠ index := by
  rintro rfl
  obtain ⟨found, same, state⟩ := tracked.delivered other message member
  rw [present, Option.some.injEq] at same
  rw [← same] at state
  exact unfinished message state

/-- What is found after one entry of a list has been replaced. -/
private theorem lookup_set {list : List (Job Work Reply Inner)} {index other : Nat}
    {moved found : Job Work Reply Inner} (lookup : (list.set index moved)[other]? = some found) :
    other = index ∧ found = moved ∨ list[other]? = some found := by
  by_cases same : index = other
  · have bound := (List.getElem?_eq_some_iff.mp lookup).1
    rw [List.length_set] at bound
    rw [same, List.getElem?_set_self bound, Option.some.injEq] at lookup
    exact Or.inl ⟨same.symm, lookup.symm⟩
  · rw [List.getElem?_set_ne same] at lookup
    exact Or.inr lookup

/-- One task moves on, which does not touch the inner channel. -/
theorem advance (tracked : Tracked service before history) {index : Nat}
    {job moved : Job Work Reply Inner} (present : before.jobs[index]? = some job)
    (unfinished : ∀ message, job.state ≠ .ended message)
    (jobs : after.jobs = before.jobs.set index moved)
    (recorded : Recorded service (history ++ seen) index moved)
    (inner : after.inner = before.inner) (silent : consumed seen = []) :
    Tracked service after (history ++ seen) where
  recorded := fun other found lookup => by
    rw [jobs] at lookup
    rcases lookup_set lookup with ⟨rfl, rfl⟩ | lookup
    · exact recorded
    · exact (tracked.recorded other found lookup).grow seen
  delivered := fun other message member => by
    rw [inner, consumed_append, silent, List.append_nil] at member
    have different := tracked.undelivered present unfinished member
    rw [jobs, List.getElem?_set_ne (Ne.symm different)]
    exact tracked.delivered other message member
  once := by
    rw [inner, consumed_append, silent, List.append_nil]
    exact tracked.once

/-- A finished task hands its message to the inner channel. -/
theorem deliver (tracked : Tracked service before history) {index : Nat} {message : Inner}
    {job : Job Work Reply Inner} (present : before.jobs[index]? = some job)
    (finished : job.state = .finished message)
    (jobs : after.jobs = before.jobs.set index { job with state := .ended message })
    (queue : after.inner.queue = before.inner.queue ++ [(index, message)]) :
    Tracked service after history := by
  have unfinished : ∀ message, job.state ≠ .ended message := by
    intro message ended
    rw [finished] at ended
    contradiction
  have old := tracked.recorded index job present
  have bound : index < before.jobs.length := (List.getElem?_eq_some_iff.mp present).1
  constructor
  · intro other found lookup
    rw [jobs] at lookup
    rcases lookup_set lookup with ⟨rfl, rfl⟩ | lookup
    · exact ⟨old.ran.ended finished, old.spawned, old.replied⟩
    · exact tracked.recorded other found lookup
  · intro other received member
    rw [queue, ← List.append_assoc, List.mem_append, List.mem_singleton] at member
    rcases member with member | same
    · have different := tracked.undelivered present unfinished member
      rw [jobs, List.getElem?_set_ne (Ne.symm different)]
      exact tracked.delivered other received member
    · cases same
      rw [jobs, List.getElem?_set_self bound]
      exact ⟨_, rfl, rfl⟩
  · rw [queue, ← List.append_assoc, List.map_append, List.nodup_append]
    refine ⟨tracked.once, by simp, ?_⟩
    intro other member last lastMember
    obtain ⟨⟨_, received⟩, among, rfl⟩ := List.mem_map.mp member
    simp only [List.map_cons, List.map_nil, List.mem_singleton] at lastMember
    rw [lastMember]
    exact tracked.undelivered present unfinished among

/-- Carrying out a reaction. -/
theorem performed {cause : Cause} {reaction : Reaction Fields Work}
    (performed : Task.Performed before cause reaction after seen)
    (tracked : Tracked service before history) : Tracked service after (history ++ seen) := by
  cases performed with
  | proceed => exact tracked.still rfl rfl rfl
  | stop => exact tracked.leave rfl rfl rfl
  | send => exact tracked.still rfl rfl rfl
  | refuse => exact tracked.leave rfl rfl rfl
  | spawn fields work => exact tracked.spawn work rfl rfl
  | authenticate => exact tracked.still rfl rfl rfl
  | authenticateRefuse => exact tracked.leave rfl rfl rfl

/-- Taking the input of a handler. -/
theorem takes {cause : Cause} {reaction : Reaction Fields Work}
    (takes : Task.Takes service before after seen cause reaction)
    (tracked : Tracked service before history) : Tracked service after (history ++ seen) := by
  cases takes with
  | greeting => exact tracked.still rfl rfl rfl
  | frame => exact tracked.still rfl rfl rfl
  | @result inner now job message _ _ received =>
      refine tracked.keep rfl ?_
      rw [consumed_append, (Channel.tryRecv_some received).1]
      simp [consumed, Seen.consumedMessage]

/-- One step. -/
theorem stepped (stepped : Task.Stepped service before after seen)
    (tracked : Tracked service before history) : Tracked service after (history ++ seen) := by
  cases stepped with
  | ran takes performed =>
      rw [← List.append_assoc]
      exact .performed performed (tracked.takes takes)
  | awaits index job reply present running resumed =>
      have old := tracked.recorded index job present
      have more := old.replies reply
      obtain ⟨first, head, member⟩ := more.1
      refine tracked.advance present (by simp [running]) rfl ?_ rfl rfl
      exact ⟨old.ran.awaits running resumed, ⟨first, by simp [head], member⟩, more.2⟩
  | returned index job reply present running resumed =>
      have old := tracked.recorded index job present
      have more := old.replies reply
      refine tracked.advance present (by simp [running]) rfl ?_ rfl rfl
      exact ⟨old.ran.returned running resumed, more.1, more.2⟩
  | delivered index job present finished queued =>
      rw [List.append_nil]
      exact tracked.deliver present finished rfl (Channel.trySend_ok queued).2.1
  | dropped index job present finished gone =>
      have old := (tracked.recorded index job present).grow []
      refine tracked.advance present (by simp [finished]) rfl ?_ rfl rfl
      exact ⟨old.ran.ended finished, old.spawned, old.replied⟩
  | left => exact tracked.leave rfl rfl rfl
  | wrote => exact tracked.still rfl rfl (consumed_writer _)
  | recorded => exact tracked.still rfl rfl (consumed_record _)
  | ended =>
      refine tracked.still rfl rfl ?_
      cases service.logoutAccount before.fields <;> rfl
  | _ => exact tracked.still rfl rfl rfl

end Tracked

theorem reaches_tracked {task : Task Fields Work Reply Inner}
    {history : List (Seen Fields Work Reply Inner)}
    (run : (machine service).Reaches task history) : Tracked service task history := by
  apply run.invariant
  · rintro state ⟨sessionId, kick, now, rfl⟩
    exact ⟨by simp [Task.create], by simp [Task.create, consumed],
      by simp [Task.create, consumed]⟩
  · intro before history event after seen _ tracked taken
    exact .stepped (Task.step_cases taken) tracked

end RustGameserver.Session
