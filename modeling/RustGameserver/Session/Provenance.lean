import RustGameserver.Foundation.History
import RustGameserver.Session.Jobs

/-!
Contract: where the observations of a session come from.

Owns:
- the input that each send, registration and spawned task directly follows;
- the finished task behind each result a session consumes;
- that no result is answered twice.

Does not own: how a server reacts to an input.
-/

namespace RustGameserver.Session

open RustGameserver.Foundation
open RustGameserver.Net
open RustGameserver.Proto

variable {Fields Work Reply Inner : Type} {service : Service Fields Work Reply Inner}

/-- The history up to and including the input of a handler, with its reaction. -/
inductive Input (service : Service Fields Work Reply Inner) :
    List (Seen Fields Work Reply Inner) → Cause → Reaction Fields Work → Prop where
  | connection (fields : Fields) :
      Input service [] .connection (.send fields (.connectedResponse ⟨0⟩))
  | frame (front : List (Seen Fields Work Reply Inner)) (fields : Fields) (now : Nat)
      (message : MessageWrapper) :
      Input service (front ++ [.handled fields message]) .frame
        (service.onRemote fields now message)
  | result (front : List (Seen Fields Work Reply Inner)) (fields : Fields) (now job : Nat)
      (message : Inner) :
      Input service (front ++ [.consumed job message]) (.result job)
        (service.onInner fields now message)

/-- The payload answers the input before it, possibly after a registration. -/
def Sends (service : Service Fields Work Reply Inner)
    (earlier : List (Seen Fields Work Reply Inner)) (cause : Cause) (payload : Payload) : Prop :=
  (∃ fields, Input service earlier cause (.send fields payload)) ∨
    ∃ front fields userId, earlier = front ++ [.authenticate fields userId] ∧
      Input service front cause (.authenticate fields userId payload)

/-- Why an observation is made, given what was observed before. -/
def Because (service : Service Fields Work Reply Inner)
    (earlier : List (Seen Fields Work Reply Inner)) : Seen Fields Work Reply Inner → Prop
  | .accepted cause payload | .refused cause payload => Sends service earlier cause payload
  | .authenticate fields userId =>
      ∃ cause payload, Input service earlier cause (.authenticate fields userId payload)
  | .spawned _ work => ∃ cause fields, Input service earlier cause (.spawn fields work)
  | .consumed index message =>
      ∃ job, Recorded service earlier index job ∧ job.state = .ended message
  | .handled .. | .replied .. | .left .. | .writer .. | .remove | .drainTimeout
  | .recordLogout .. | .record .. => True

variable {task before after : Task Fields Work Reply Inner}
  {history seen : List (Seen Fields Work Reply Inner)}

/-- A reaction right after a message was handled is the reaction to it. -/
theorem Input.of_handled {fields : Fields} {message : MessageWrapper} {cause : Cause}
    {reaction : Reaction Fields Work}
    (input : Input service (history ++ [.handled fields message]) cause reaction) :
    ∃ now, reaction = service.onRemote fields now message := by
  generalize shape : history ++ [Seen.handled fields message] = whole at input
  cases input with
  | connection => simp at shape
  | frame front other now received =>
      obtain ⟨_, same⟩ := List.append_inj' shape rfl
      rw [List.cons.injEq, Seen.handled.injEq] at same
      obtain ⟨⟨rfl, rfl⟩, _⟩ := same
      exact ⟨now, rfl⟩
  | result front other now job received =>
      obtain ⟨_, same⟩ := List.append_inj' shape rfl
      simp at same

/-- Why the handling of a message is directly followed by a reaction. -/
theorem Because.of_handled {fields : Fields} {message : MessageWrapper}
    {entry : Seen Fields Work Reply Inner}
    (because : Because service (history ++ [.handled fields message]) entry)
    (reacts : entry.ofReaction = true) :
    ∃ now, (∃ after payload, service.onRemote fields now message = .send after payload) ∨
      (∃ after work, service.onRemote fields now message = .spawn after work) ∨
      ∃ after userId payload,
        service.onRemote fields now message = .authenticate after userId payload := by
  have sends {cause : Cause} {payload : Payload}
      (sent : Sends service (history ++ [.handled fields message]) cause payload) :
      ∃ now after, service.onRemote fields now message = .send after payload := by
    rcases sent with ⟨after, input⟩ | ⟨front, after, userId, shape, _⟩
    · obtain ⟨now, same⟩ := input.of_handled
      exact ⟨now, after, same.symm⟩
    · obtain ⟨_, same⟩ := List.append_inj' shape rfl
      simp at same
  cases entry with
  | accepted cause payload =>
      obtain ⟨now, after, same⟩ := sends because
      exact ⟨now, .inl ⟨after, payload, same⟩⟩
  | refused cause payload =>
      obtain ⟨now, after, same⟩ := sends because
      exact ⟨now, .inl ⟨after, payload, same⟩⟩
  | spawned job work =>
      obtain ⟨cause, after, input⟩ := because
      obtain ⟨now, same⟩ := input.of_handled
      exact ⟨now, .inr (.inl ⟨after, work, same.symm⟩)⟩
  | authenticate after userId =>
      obtain ⟨cause, payload, input⟩ := because
      obtain ⟨now, same⟩ := input.of_handled
      exact ⟨now, .inr (.inr ⟨after, userId, payload, same.symm⟩)⟩
  | _ => contradiction

/-! ## Before the greeting -/

/-- Before its greeting a session has done nothing at all. -/
def Untouched (task : Task Fields Work Reply Inner)
    (history : List (Seen Fields Work Reply Inner)) : Prop :=
  task.stage = .greeting → task.path = .spawn ∧ task.jobs = [] ∧ history = []

theorem not_wrote_spawn {path : SendPath} {seen : List WriterSeen}
    (wrote : SendPath.spawn.Wrote path seen) : False := by
  cases wrote with
  | fed message state received => contradiction
  | feedFailed message state received => contradiction
  | drained state nothing dropped => contradiction
  | batchEnded state => contradiction
  | flushed state => contradiction
  | flushFailed state => contradiction
  | gaveUp state => contradiction
  | aborted requested => contradiction

theorem Untouched.stepped (untouched : Untouched before history)
    (stepped : Task.Stepped service before after seen) : Untouched after (history ++ seen) := by
  intro greeting
  cases stepped with
  | ran takes performed =>
      cases performed <;> contradiction
  | awaits index job reply present =>
      rw [(untouched greeting).2.1] at present
      contradiction
  | returned index job reply present =>
      rw [(untouched greeting).2.1] at present
      contradiction
  | delivered index job present =>
      rw [(untouched greeting).2.1] at present
      contradiction
  | dropped index job present =>
      rw [(untouched greeting).2.1] at present
      contradiction
  | wrote taken =>
      have wrote := SendPath.writeStep_cases taken
      rw [(untouched greeting).1] at wrote
      exact (not_wrote_spawn wrote).elim
  | recorded stage =>
      rw [stage] at greeting
      contradiction
  | _ => contradiction

theorem reaches_untouched (run : (machine service).Reaches task history) :
    Untouched task history := by
  apply run.invariant
  · rintro state ⟨sessionId, kick, now, rfl⟩ _
    exact ⟨rfl, rfl, rfl⟩
  · intro before history event after seen _ untouched taken
    exact untouched.stepped (Task.step_cases taken)

/-! ## The reason of each observation -/

theorem justified_takes {cause : Cause} {reaction : Reaction Fields Work}
    (justified : Justified (Because service) history) (untouched : Untouched before history)
    (tracked : Tracked service before history)
    (takes : Task.Takes service before after seen cause reaction) :
    Justified (Because service) (history ++ seen) ∧
      Input service (history ++ seen) cause reaction := by
  cases takes with
  | greeting stage =>
      rw [(untouched stage).2.2]
      exact ⟨Justified.nil, .connection _⟩
  | frame now message => exact ⟨justified.snoc trivial, .frame ..⟩
  | result now job message _ _ received =>
      have queue := (Channel.tryRecv_some received).1
      obtain ⟨found, present, ended⟩ := tracked.delivered job message (by simp [queue])
      exact ⟨justified.snoc ⟨found, tracked.recorded job found present, ended⟩, .result ..⟩

theorem justified_performed {cause : Cause} {reaction : Reaction Fields Work}
    (performed : Task.Performed before cause reaction after seen)
    (justified : Justified (Because service) history)
    (input : Input service history cause reaction) :
    Justified (Because service) (history ++ seen) := by
  cases performed with
  | proceed => simpa using justified
  | stop => simpa using justified
  | spawn fields work => exact justified.snoc ⟨cause, fields, input⟩
  | send fields payload => exact justified.snoc (.inl ⟨fields, input⟩)
  | refuse fields payload => exact justified.snoc (.inl ⟨fields, input⟩)
  | authenticate fields userId payload =>
      have registered : Justified (Because service)
          (history ++ [.authenticate fields userId]) :=
        justified.snoc ⟨cause, payload, input⟩
      rw [List.append_cons]
      exact registered.snoc (.inr ⟨history, fields, userId, rfl, input⟩)
  | authenticateRefuse fields userId payload =>
      have registered : Justified (Because service)
          (history ++ [.authenticate fields userId]) :=
        justified.snoc ⟨cause, payload, input⟩
      rw [List.append_cons]
      exact registered.snoc (.inr ⟨history, fields, userId, rfl, input⟩)

/-- Every observation of a session has its reason. -/
theorem reaches_justified (run : (machine service).Reaches task history) :
    Justified (Because service) history := by
  apply run.invariant
  · intro state _
    exact Justified.nil
  · intro before history event after seen run justified taken
    have stepped := Task.step_cases taken
    cases stepped with
    | ran takes performed =>
        rw [← List.append_assoc]
        obtain ⟨told, input⟩ :=
          justified_takes justified (reaches_untouched run) (reaches_tracked run) takes
        exact justified_performed performed told input
    | awaits => exact justified.snoc trivial
    | returned => exact justified.snoc trivial
    | left => exact justified.snoc trivial
    | removed => exact justified.snoc trivial
    | drainTimedOut => exact justified.snoc trivial
    | wrote | recorded => exact justified.append_free (by simp [Because])
    | ended => exact justified.append_free (by simp [Because])
    | _ => simpa using justified

/-! ## No result is answered twice -/

/-- The task to whose result an observation is the answer. -/
def Seen.answeredJob : Seen Fields Work Reply Inner → Option Nat
  | .accepted (.result job) _ => some job
  | _ => none

/-- The tasks whose results have been answered, in order. -/
def answeredJobs (history : List (Seen Fields Work Reply Inner)) : List Nat :=
  history.filterMap Seen.answeredJob

@[simp] theorem answeredJobs_append (history more : List (Seen Fields Work Reply Inner)) :
    answeredJobs (history ++ more) = answeredJobs history ++ answeredJobs more :=
  List.filterMap_append

@[simp] theorem answeredJobs_writer (seen : List WriterSeen) :
    answeredJobs (seen.map (Seen.writer : _ → Seen Fields Work Reply Inner)) = [] :=
  filterMap_wrapped _ _ (fun _ => rfl) seen

@[simp] theorem answeredJobs_record (seen : List RecordSeen) :
    answeredJobs (seen.map (Seen.record : _ → Seen Fields Work Reply Inner)) = [] :=
  filterMap_wrapped _ _ (fun _ => rfl) seen

/-- A reaction answers at most the result it reacts to. -/
theorem answeredJobs_performed {cause : Cause} {reaction : Reaction Fields Work}
    (performed : Task.Performed before cause reaction after seen) :
    (answeredJobs seen).Sublist (match cause with | .result job => [job] | _ => []) := by
  cases cause <;> cases performed <;> first | exact List.nil_sublist _ | exact List.Sublist.refl _

theorem answeredJobs_stepped (stepped : Task.Stepped service before after seen) :
    (answeredJobs seen).Sublist ((consumed seen).map Prod.fst) := by
  cases stepped with
  | ran takes performed =>
      have answered := answeredJobs_performed performed
      rw [answeredJobs_append, consumed_append, List.map_append]
      cases takes with
      | greeting => exact answered.trans (List.nil_sublist _)
      | frame => exact answered.trans (List.nil_sublist _)
      | result now job message => exact answered.trans (List.sublist_append_left [job] _)
  | wrote | recorded => simp
  | ended =>
      cases service.logoutAccount before.fields with
      | none => exact List.Sublist.slnil
      | some accountId => exact List.Sublist.slnil
  | _ => exact List.Sublist.slnil

/-- Every result is answered at most once. -/
theorem answeredJobs_nodup (run : (machine service).Reaches task history) :
    (answeredJobs history).Nodup := by
  have among : (answeredJobs history).Sublist ((consumed history).map Prod.fst) := by
    apply run.invariant
    · intro state _
      exact List.Sublist.slnil
    · intro before history event after seen _ among taken
      rw [answeredJobs_append, consumed_append, List.map_append]
      exact among.append (answeredJobs_stepped (Task.step_cases taken))
  have once := (reaches_tracked run).once
  rw [List.map_append] at once
  exact (once.sublist (List.sublist_append_left _ _)).sublist among

/-! ## Every task is spawned once -/

/-- The task an observation spawns. -/
def Seen.spawnedJob : Seen Fields Work Reply Inner → Option Nat
  | .spawned job _ => some job
  | _ => none

/-- The tasks spawned so far, in order. -/
def spawnedJobs (history : List (Seen Fields Work Reply Inner)) : List Nat :=
  history.filterMap Seen.spawnedJob

@[simp] theorem spawnedJobs_append (history more : List (Seen Fields Work Reply Inner)) :
    spawnedJobs (history ++ more) = spawnedJobs history ++ spawnedJobs more :=
  List.filterMap_append

theorem spawnedJobs_of_silent (silent : ∀ entry ∈ seen, entry.ofHandler = false) :
    spawnedJobs seen = [] := by
  apply filterMap_of_silent silent
  intro entry quiet
  cases entry <;> first | rfl | contradiction

theorem spawnedJobs_performed {cause : Cause} {reaction : Reaction Fields Work}
    (performed : Task.Performed before cause reaction after seen)
    (numbered : spawnedJobs history = List.range before.jobs.length) :
    spawnedJobs (history ++ seen) = List.range after.jobs.length := by
  rw [spawnedJobs_append, numbered]
  cases performed with
  | spawn fields work =>
      rw [List.length_append, List.length_singleton, List.range_succ]
      rfl
  | _ => exact List.append_nil _

/-- Tasks are numbered in the order in which they are spawned. -/
theorem spawnedJobs_eq_range (run : (machine service).Reaches task history) :
    spawnedJobs history = List.range task.jobs.length := by
  apply run.invariant
  · rintro state ⟨sessionId, kick, now, rfl⟩
    rfl
  · intro before history event after seen _ numbered taken
    cases (Task.step_cases taken).moves with
    | ran takes performed shape =>
        rw [shape, ← List.append_assoc]
        apply spawnedJobs_performed performed
        rw [takes.frame_eq.2.2.2.2, spawnedJobs_append, numbered]
        cases takes <;> exact List.append_nil _
    | rests rests =>
        rw [spawnedJobs_append, numbered, spawnedJobs_of_silent rests.silent, List.append_nil,
          rests.jobs]

end RustGameserver.Session
