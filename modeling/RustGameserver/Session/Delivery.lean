import RustGameserver.Foundation.History
import RustGameserver.Session.Steps

/-!
Contract: delivery of what the handlers of a session send.

Owns:
- the invariant that ties the send path of a session to its history;
- the invariant that a refused send is the last thing an event loop does;
- how a writer can have ended.

Does not own: what is sent, which each server decides.
-/

namespace RustGameserver.Session

open RustGameserver.Foundation
open RustGameserver.Net
open RustGameserver.Proto

variable {Fields Work Reply Inner : Type} {service : Service Fields Work Reply Inner}

/-- The session has not yet handed its outbox to `Writer::close`. -/
def Stage.holdsOutbox : Stage → Bool
  | .greeting | .selecting | .polling | .leaving | .removed => true
  | .closing | .closed | .ended => false

theorem Stage.holdsOutbox_of_inLoop {stage : Stage} (inLoop : stage.inLoop = true) :
    stage.holdsOutbox = true := by
  cases stage <;> first | rfl | contradiction

/-! ## The send path follows the history -/

/-- The send path carries exactly the payloads accepted so far. -/
structure Delivers (task : Task Fields Work Reply Inner)
    (history : List (Seen Fields Work Reply Inner)) : Prop where
  carries : task.path.Carries ((accepted history).map wrap)
  fed_eq : task.path.sink.fed = fed history
  outbox : task.stage.holdsOutbox = true → task.path.senderAlive = true

namespace Delivers

variable {task before after : Task Fields Work Reply Inner}
  {history seen : List (Seen Fields Work Reply Inner)}

/-- A step that neither sends nor feeds. -/
theorem quiet (delivers : Delivers before history)
    (carries : after.path.Carries ((accepted history).map wrap))
    (sink : after.path.sink = before.path.sink)
    (outbox : after.stage.holdsOutbox = true → after.path.senderAlive = true)
    (silent : accepted seen = [] ∧ fed seen = []) : Delivers after (history ++ seen) where
  carries := by
    rw [accepted_append, silent.1, List.append_nil]
    exact carries
  fed_eq := by
    rw [sink, fed_append, silent.2, List.append_nil]
    exact delivers.fed_eq
  outbox := outbox

/-- A step that also leaves the send path alone. -/
theorem still (delivers : Delivers before history) (path : after.path = before.path)
    (stage : after.stage.holdsOutbox = true → before.stage.holdsOutbox = true)
    (silent : accepted seen = [] ∧ fed seen = []) : Delivers after (history ++ seen) := by
  apply delivers.quiet _ _ _ silent
  · rw [path]
    exact delivers.carries
  · rw [path]
  · intro holds
    rw [path]
    exact delivers.outbox (stage holds)

/-- A step in which the outbox accepts one payload. -/
theorem send (delivers : Delivers before history) (holds : before.stage.holdsOutbox = true)
    {payload : Payload} (sent : before.path.send payload = some after.path)
    (said : accepted seen = [payload] ∧ fed seen = []) : Delivers after (history ++ seen) where
  carries := by
    rw [accepted_append, said.1, List.map_append]
    exact delivers.carries.send (delivers.outbox holds) sent
  fed_eq := by
    obtain ⟨_, _, _, _, sink, _, _⟩ := SendPath.send_some sent
    rw [fed_append, said.2, List.append_nil, sink]
    exact delivers.fed_eq
  outbox := fun _ => by
    obtain ⟨_, _, _, sender, _, _, _⟩ := SendPath.send_some sent
    rw [sender]
    exact delivers.outbox holds

/-- Carrying out a reaction. -/
theorem performed {cause : Cause} {reaction : Reaction Fields Work}
    (performed : Task.Performed before cause reaction after seen)
    (holds : before.stage.holdsOutbox = true) (delivers : Delivers before history) :
    Delivers after (history ++ seen) := by
  cases performed with
  | proceed => exact delivers.still rfl (fun _ => holds) ⟨rfl, rfl⟩
  | stop => exact delivers.still rfl (fun _ => holds) ⟨rfl, rfl⟩
  | spawn => exact delivers.still rfl (fun _ => holds) ⟨rfl, rfl⟩
  | send fields payload sent => exact delivers.send holds sent ⟨rfl, rfl⟩
  | refuse => exact delivers.still rfl (fun _ => holds) ⟨rfl, rfl⟩
  | authenticate fields userId payload sent => exact delivers.send holds sent ⟨rfl, rfl⟩
  | authenticateRefuse => exact delivers.still rfl (fun _ => holds) ⟨rfl, rfl⟩

/-- One step. -/
theorem stepped (delivers : Delivers before history)
    (stepped : Task.Stepped service before after seen) : Delivers after (history ++ seen) := by
  cases stepped with
  | ran takes performed =>
      obtain ⟨stage, _, _, path, _⟩ := takes.frame_eq
      have holds := Stage.holdsOutbox_of_inLoop takes.inLoop
      rw [← List.append_assoc]
      apply Delivers.performed performed
      · rw [stage]
        exact holds
      · refine delivers.still path (fun _ => holds) ?_
        cases takes <;> exact ⟨rfl, rfl⟩
  | polled stage => exact delivers.still rfl (fun _ => by rw [stage]; rfl) ⟨rfl, rfl⟩
  | parked now stage => exact delivers.still rfl (fun _ => by rw [stage]; rfl) ⟨rfl, rfl⟩
  | left now departure stage =>
      have holds : before.stage.holdsOutbox = true := by
        rcases stage with stage | stage <;> rw [stage] <;> rfl
      exact delivers.still rfl (fun _ => holds) ⟨rfl, rfl⟩
  | awaits => exact delivers.still rfl id ⟨rfl, rfl⟩
  | returned => exact delivers.still rfl id ⟨rfl, rfl⟩
  | delivered => exact delivers.still rfl id ⟨rfl, rfl⟩
  | dropped => exact delivers.still rfl id ⟨rfl, rfl⟩
  | wrote taken =>
      have wrote := SendPath.writeStep_cases taken
      constructor
      · rw [accepted_append, accepted_writer, List.append_nil]
        exact delivers.carries.wrote wrote
      · rw [fed_append, fed_writer, ← delivers.fed_eq]
        exact wrote.fed_eq
      · intro holds
        show _ = true
        rw [wrote.senderAlive]
        exact delivers.outbox holds
  | removed stage => exact delivers.still rfl (fun _ => by rw [stage]; rfl) ⟨rfl, rfl⟩
  | outboxDropped stage => exact delivers.quiet delivers.carries.dropSender rfl nofun ⟨rfl, rfl⟩
  | joined stage finished => exact delivers.still rfl nofun ⟨rfl, rfl⟩
  | drainTimedOut stage => exact delivers.quiet delivers.carries.requestAbort rfl nofun ⟨rfl, rfl⟩
  | recorded => exact delivers.still rfl id ⟨accepted_record _, fed_record _⟩
  | ended stage =>
      refine delivers.still rfl nofun ?_
      cases service.logoutAccount before.fields with
      | none => exact ⟨rfl, rfl⟩
      | some accountId => exact ⟨rfl, rfl⟩

end Delivers

/-! ## A refused send ends the event loop -/

/-- Nothing has been refused. -/
def Unrefused (history : List (Seen Fields Work Reply Inner)) : Prop :=
  ∀ cause payload, Seen.refused cause payload ∉ history

/-- A running event loop has met no refusal, and after one it does nothing. -/
structure Breaks (stage : Stage) (history : List (Seen Fields Work Reply Inner)) : Prop where
  unrefused : stage.inLoop = true → Unrefused history
  last : Justified (fun earlier entry => entry.ofLoop = true → Unrefused earlier) history

namespace Breaks

variable {before after : Stage} {history : List (Seen Fields Work Reply Inner)}

theorem move (breaks : Breaks before history)
    (later : after.inLoop = true → before.inLoop = true) : Breaks after history :=
  ⟨fun inLoop => breaks.unrefused (later inLoop), breaks.last⟩

/-- A running loop observes something other than a refusal. -/
theorem entry (breaks : Breaks before history) (inLoop : before.inLoop = true)
    {entry : Seen Fields Work Reply Inner}
    (fine : ∀ cause payload, entry ≠ .refused cause payload) :
    Breaks after (history ++ [entry]) where
  unrefused := fun _ cause payload member => by
    rw [List.mem_append, List.mem_singleton] at member
    rcases member with member | same
    · exact breaks.unrefused inLoop cause payload member
    · exact fine cause payload same.symm
  last := breaks.last.snoc fun _ => breaks.unrefused inLoop

theorem refuse (breaks : Breaks before history) (inLoop : before.inLoop = true)
    (cause : Cause) (payload : Payload) :
    Breaks .leaving (history ++ [.refused cause payload]) where
  unrefused := nofun
  last := breaks.last.snoc fun _ => breaks.unrefused inLoop

/-- Something else than the loop makes observations. -/
theorem aside (breaks : Breaks before history) {more : List (Seen Fields Work Reply Inner)}
    (elsewhere : ∀ entry ∈ more, entry.ofLoop = false)
    (later : after.inLoop = true → before.inLoop = true) : Breaks after (history ++ more) where
  unrefused := fun inLoop cause payload member => by
    rcases List.mem_append.mp member with member | member
    · exact breaks.unrefused (later inLoop) cause payload member
    · have nothing := elsewhere _ member
      contradiction
  last := breaks.last.append_free fun _ entry member loop => by
    rw [elsewhere entry member] at loop
    contradiction

/-- Carrying out a reaction. -/
theorem performed {task next : Task Fields Work Reply Inner} {cause : Cause}
    {reaction : Reaction Fields Work} {seen : List (Seen Fields Work Reply Inner)}
    (performed : Task.Performed task cause reaction next seen)
    (inLoop : task.stage.inLoop = true) (breaks : Breaks task.stage history) :
    Breaks next.stage (history ++ seen) := by
  cases performed with
  | proceed =>
      rw [List.append_nil]
      exact breaks.move fun _ => inLoop
  | stop =>
      rw [List.append_nil]
      exact breaks.move nofun
  | spawn => exact breaks.entry inLoop nofun
  | send => exact breaks.entry inLoop nofun
  | refuse fields payload => exact breaks.refuse inLoop cause payload
  | authenticate fields userId payload =>
      have registered : Breaks task.stage (history ++ [.authenticate fields userId]) :=
        breaks.entry inLoop nofun
      rw [List.append_cons]
      exact registered.entry inLoop nofun
  | authenticateRefuse fields userId payload =>
      have registered : Breaks task.stage (history ++ [.authenticate fields userId]) :=
        breaks.entry inLoop nofun
      rw [List.append_cons]
      exact registered.refuse inLoop cause payload

/-- One step. -/
theorem stepped {task next : Task Fields Work Reply Inner}
    {seen : List (Seen Fields Work Reply Inner)} (breaks : Breaks task.stage history)
    (stepped : Task.Stepped service task next seen) : Breaks next.stage (history ++ seen) := by
  cases stepped with
  | ran takes performed =>
      have inLoop := takes.inLoop
      have stage := takes.frame_eq.1
      rw [← List.append_assoc]
      apply Breaks.performed performed
      · rw [stage]
        exact inLoop
      · rw [stage]
        cases takes with
        | greeting => simpa using breaks
        | frame => exact breaks.entry inLoop nofun
        | result => exact breaks.entry inLoop nofun
  | polled stage =>
      rw [List.append_nil]
      exact breaks.move fun _ => by rw [stage]; rfl
  | parked now stage =>
      rw [List.append_nil]
      exact breaks.move fun _ => by rw [stage]; rfl
  | left now departure stage =>
      have inLoop : task.stage.inLoop = true := by
        rcases stage with stage | stage <;> rw [stage] <;> rfl
      exact breaks.entry inLoop nofun
  | awaits => exact breaks.aside (by simp [Seen.ofLoop]) id
  | returned => exact breaks.aside (by simp [Seen.ofLoop]) id
  | delivered => exact breaks.aside (by simp) id
  | dropped => exact breaks.aside (by simp) id
  | wrote => exact breaks.aside (by simp [Seen.ofLoop]) id
  | recorded => exact breaks.aside (by simp [Seen.ofLoop]) id
  | removed => exact breaks.aside (by simp [Seen.ofLoop]) nofun
  | outboxDropped => exact breaks.aside (by simp) nofun
  | joined => exact breaks.aside (by simp) nofun
  | drainTimedOut => exact breaks.aside (by simp [Seen.ofLoop]) nofun
  | ended => exact breaks.aside (by simp [Seen.ofLoop]) nofun

end Breaks

/-! ## How a writer ends -/

/-- A writer that has not drained its queue has met an error, or `close` has run
out of time. -/
structure Explained (path : SendPath) (history : List (Seen Fields Work Reply Inner)) : Prop where
  failed : path.writer = .failed ∨ path.writer = .gaveUp → Seen.writer .error ∈ history
  aborted : path.writer = .aborted → path.abortRequested = true
  requested : path.abortRequested = true → Seen.drainTimeout ∈ history

namespace Explained

variable {before after : SendPath} {history : List (Seen Fields Work Reply Inner)}

theorem grow (explained : Explained before history) (writer : after.writer = before.writer)
    (abort : after.abortRequested = before.abortRequested)
    {seen : List (Seen Fields Work Reply Inner)} : Explained after (history ++ seen) where
  failed := fun state => by
    rw [writer] at state
    exact List.mem_append_left _ (explained.failed state)
  aborted := fun state => by
    rw [writer] at state
    rw [abort]
    exact explained.aborted state
  requested := fun state => by
    rw [abort] at state
    exact List.mem_append_left _ (explained.requested state)

/-- The writer moves to a state that needs no explanation. -/
theorem work (explained : Explained before history) (intact : after.writer.intact = true)
    (abort : after.abortRequested = before.abortRequested)
    {seen : List (Seen Fields Work Reply Inner)} : Explained after (history ++ seen) where
  failed := fun state => by
    rcases state with state | state <;> rw [state] at intact <;> contradiction
  aborted := fun state => by
    rw [state] at intact
    contradiction
  requested := fun state => by
    rw [abort] at state
    exact List.mem_append_left _ (explained.requested state)

/-- The writer stops for an error that has been observed. -/
theorem fail (explained : Explained before history)
    (stopped : after.writer = .failed ∨ after.writer = .gaveUp)
    (abort : after.abortRequested = before.abortRequested)
    {seen : List (Seen Fields Work Reply Inner)} (error : Seen.writer .error ∈ history ++ seen) :
    Explained after (history ++ seen) where
  failed := fun _ => error
  aborted := fun state => by
    rw [state] at stopped
    rcases stopped with stopped | stopped <;> contradiction
  requested := fun state => by
    rw [abort] at state
    exact List.mem_append_left _ (explained.requested state)

theorem wrote (explained : Explained before history) {seen : List WriterSeen}
    (wrote : before.Wrote after seen) : Explained after (history ++ seen.map Seen.writer) := by
  cases wrote with
  | fed => apply explained.work <;> rfl
  | feedFailed => apply explained.fail <;> simp
  | drained => apply explained.work <;> rfl
  | batchEnded => apply explained.work <;> rfl
  | flushed => apply explained.work <;> rfl
  | flushFailed => apply explained.fail <;> simp
  | gaveUp state =>
      have error := explained.failed (.inl state)
      apply explained.fail <;> simp [error]
  | aborted requested =>
      have timeout := explained.requested requested
      exact ⟨by simp, fun _ => requested, fun _ => by simp [timeout]⟩

theorem send (explained : Explained before history) {payload : Payload}
    (sent : before.send payload = some after) {seen : List (Seen Fields Work Reply Inner)} :
    Explained after (history ++ seen) := by
  obtain ⟨_, _, _, _, _, writer, abort⟩ := SendPath.send_some sent
  exact explained.grow writer abort

/-- Carrying out a reaction. -/
theorem performed {task next : Task Fields Work Reply Inner} {cause : Cause}
    {reaction : Reaction Fields Work} {seen : List (Seen Fields Work Reply Inner)}
    (performed : Task.Performed task cause reaction next seen)
    (explained : Explained task.path history) : Explained next.path (history ++ seen) := by
  cases performed with
  | proceed => exact explained.grow rfl rfl
  | stop => exact explained.grow rfl rfl
  | spawn => exact explained.grow rfl rfl
  | send fields payload sent => exact explained.send sent
  | refuse => exact explained.grow rfl rfl
  | authenticate fields userId payload sent => exact explained.send sent
  | authenticateRefuse => exact explained.grow rfl rfl

/-- One step. -/
theorem stepped {task next : Task Fields Work Reply Inner}
    {seen : List (Seen Fields Work Reply Inner)} (explained : Explained task.path history)
    (stepped : Task.Stepped service task next seen) : Explained next.path (history ++ seen) := by
  cases stepped with
  | ran takes performed =>
      obtain ⟨_, _, _, path, _⟩ := takes.frame_eq
      rw [← List.append_assoc]
      apply Explained.performed performed
      rw [path]
      exact explained.grow rfl rfl
  | wrote taken => exact explained.wrote (SendPath.writeStep_cases taken)
  | drainTimedOut stage =>
      refine ⟨fun state => ?_, fun _ => rfl, fun _ => by simp⟩
      exact List.mem_append_left _ (explained.failed state)
  | outboxDropped => apply explained.grow <;> rfl
  | _ => exact explained.grow rfl rfl

/-- A writer that ended without an error and without a drain timeout has drained
its queue. -/
theorem drained (explained : Explained before history) (finished : before.writer.over = true)
    (noError : Seen.writer .error ∉ history) (inTime : Seen.drainTimeout ∉ history) :
    before.writer = .drained := by
  cases state : before.writer with
  | drained => rfl
  | gaveUp => exact absurd (explained.failed (.inr state)) noError
  | aborted => exact absurd (explained.requested (explained.aborted state)) inTime
  | _ =>
      rw [state] at finished
      contradiction

end Explained

/-! ## Every run -/

variable {task : Task Fields Work Reply Inner} {history : List (Seen Fields Work Reply Inner)}

theorem reaches_delivers (run : (machine service).Reaches task history) :
    Delivers task history := by
  apply run.invariant
  · rintro state ⟨sessionId, kick, now, rfl⟩
    exact ⟨SendPath.Carries.spawn, rfl, fun _ => rfl⟩
  · intro before history event after seen _ delivers taken
    exact delivers.stepped (Task.step_cases taken)

theorem reaches_breaks (run : (machine service).Reaches task history) :
    Breaks task.stage history := by
  apply run.invariant
  · rintro state ⟨sessionId, kick, now, rfl⟩
    exact ⟨fun _ _ _ => by simp, Justified.nil⟩
  · intro before history event after seen _ breaks taken
    exact breaks.stepped (Task.step_cases taken)

theorem reaches_explained (run : (machine service).Reaches task history) :
    Explained task.path history := by
  apply run.invariant
  · rintro state ⟨sessionId, kick, now, rfl⟩
    exact ⟨by simp [Task.create, SendPath.spawn], by simp [Task.create, SendPath.spawn],
      by simp [Task.create, SendPath.spawn]⟩
  · intro before history event after seen _ explained taken
    exact explained.stepped (Task.step_cases taken)

end RustGameserver.Session
