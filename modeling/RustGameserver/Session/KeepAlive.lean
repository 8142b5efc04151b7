import RustGameserver.Foundation.History
import RustGameserver.Session.Steps

/-!
Contract: the KeepAlive timeout of a session, over timed runs.

Owns:
- what handlers must do with the time of the last KeepAlive;
- the signs of life in a timed history, and that no timeout comes too early after
  one of them;
- the one reason for which a session that is overdue goes on.

Does not own: the clock, which only moves forward, and how long a session waits.
-/

namespace RustGameserver.Session

open RustGameserver.Foundation
open RustGameserver.Net
open RustGameserver.Proto

variable {Fields Work Reply Inner : Type}

/-- The reaction authenticates the session. -/
def Reaction.renews : Reaction Fields Work → Bool
  | .authenticate .. => true
  | .proceed _ | .stop _ | .send .. | .spawn .. => false

/-- Handlers move the time of the last KeepAlive at a KeepAliveRequest and at an
authentication, and at nothing else. -/
structure KeepsTime (service : Service Fields Work Reply Inner) : Prop where
  created : ∀ sessionId now, service.lastKeepAlive (service.create sessionId now) = now
  remote : ∀ fields now message,
    service.lastKeepAlive (service.onRemote fields now message).fields =
      if message.payload = some .keepAliveRequest ∨
          (service.onRemote fields now message).renews = true then now
      else service.lastKeepAlive fields
  inner : ∀ fields now message,
    service.lastKeepAlive (service.onInner fields now message).fields =
      if (service.onInner fields now message).renews = true then now
      else service.lastKeepAlive fields

/-- The session has authenticated, or handles a KeepAliveRequest. -/
def Seen.isSign : Seen Fields Work Reply Inner → Bool
  | .handled _ message => message.payload = some .keepAliveRequest
  | .authenticate .. => true
  | .consumed .. | .accepted .. | .refused .. | .spawned .. | .replied .. | .left ..
  | .writer .. | .remove | .drainTimeout | .recordLogout .. | .record .. => false

variable {service : Service Fields Work Reply Inner}
  {task prepared before after : Task Fields Work Reply Inner}
  {said seen : List (Seen Fields Work Reply Inner)}

/-- Only an authentication is a sign of life while a reaction is carried out. -/
theorem Task.Performed.sign {cause : Cause} {reaction : Reaction Fields Work}
    (performed : Task.Performed task cause reaction after seen) :
    ∀ entry ∈ seen, entry.isSign = true → reaction.renews = true := by
  cases performed <;> simp [Seen.isSign, Reaction.renews]

/-- A handler that gives a sign of life notes the time, any other keeps it. -/
theorem Task.Takes.lastKeepAlive (keeps : KeepsTime service) {cause : Cause}
    {reaction : Reaction Fields Work}
    (takes : Task.Takes service task prepared said cause reaction) :
    service.lastKeepAlive reaction.fields =
      if (∃ entry ∈ said, entry.isSign = true) ∨ reaction.renews = true then prepared.clock
      else service.lastKeepAlive task.fields := by
  cases takes with
  | greeting => simp [Reaction.fields, Reaction.renews]
  | frame now message => simpa [Seen.isSign] using keeps.remote task.fields now message
  | result now job message => simpa [Seen.isSign] using keeps.inner task.fields now message

theorem isSign_of_silent (silent : ∀ entry ∈ seen, entry.ofHandler = false) :
    ∀ entry ∈ seen, entry.isSign = false := by
  intro entry member
  have quiet := silent entry member
  cases entry <;> first | rfl | contradiction

/-! ## The last KeepAlive -/

/-- The session knows of every sign of life, and of none in the future. -/
structure Alive (service : Service Fields Work Reply Inner)
    (task : Task Fields Work Reply Inner)
    (history : List (Nat × Seen Fields Work Reply Inner)) : Prop where
  known : ∀ since entry, (since, entry) ∈ history → entry.isSign = true →
    since ≤ service.lastKeepAlive task.fields
  past : service.lastKeepAlive task.fields ≤ task.clock

variable {history : List (Nat × Seen Fields Work Reply Inner)}

/-- A step that gives no sign of life and leaves the time of the last one alone. -/
theorem Alive.quiet (alive : Alive service before history)
    (same : service.lastKeepAlive after.fields = service.lastKeepAlive before.fields)
    (ordered : before.clock ≤ after.clock) (silent : ∀ entry ∈ seen, entry.isSign = false) :
    Alive service after (history ++ seen.map (Prod.mk after.clock)) where
  known := fun since entry member sign => by
    rw [same]
    rcases List.mem_append.mp member with old | new
    · exact alive.known since entry old sign
    · obtain ⟨made, among, same⟩ := List.mem_map.mp new
      rw [Prod.mk.injEq] at same
      rw [← same.2, silent made among] at sign
      contradiction
  past := by
    rw [same]
    exact alive.past.trans ordered

/-- A step after which the last sign of life was just now. -/
theorem Alive.renewed (alive : Alive service before history)
    (now : service.lastKeepAlive after.fields = after.clock)
    (ordered : before.clock ≤ after.clock) :
    Alive service after (history ++ seen.map (Prod.mk after.clock)) where
  known := fun since entry member sign => by
    rw [now]
    rcases List.mem_append.mp member with old | new
    · exact ((alive.known since entry old sign).trans alive.past).trans ordered
    · obtain ⟨made, _, made_eq⟩ := List.mem_map.mp new
      cases made_eq
      exact le_rfl
  past := now.le

theorem Alive.stepped (keeps : KeepsTime service) (alive : Alive service before history)
    (stepped : Task.Stepped service before after seen) :
    Alive service after (history ++ seen.map (Prod.mk after.clock)) := by
  have ordered := stepped.clock_le
  cases stepped.moves with
  | rests rests =>
      exact alive.quiet (by rw [rests.fields]) ordered (isSign_of_silent rests.silent)
  | @ran prepared said more cause reaction takes performed shape =>
      obtain ⟨fields, _, clock⟩ := performed.frame_eq
      have noted := takes.lastKeepAlive keeps
      rw [← fields, ← clock] at noted
      split at noted
      · exact alive.renewed noted ordered
      · next none =>
          rw [not_or] at none
          refine alive.quiet noted ordered fun entry member => ?_
          rw [shape] at member
          by_contra sign
          rw [Bool.not_eq_false] at sign
          rcases List.mem_append.mp member with first | later
          · exact none.1 ⟨entry, first, sign⟩
          · exact none.2 (performed.sign entry later sign)

/-! ## Timeouts -/

/-- Carrying out a reaction is no departure. -/
theorem Task.Performed.stays {cause : Cause} {reaction : Reaction Fields Work}
    (performed : Task.Performed task cause reaction after seen) (departure : Departure) :
    .left departure ∉ seen := by
  cases performed <;> simp

/-- A session leaves through its timer only when nothing else is ready. -/
theorem timeout_cases {event : Event Reply}
    (taken : task.step service event = some (after, seen))
    (member : .left .keepAliveTimeout ∈ seen) :
    task.inner.queue = [] ∧ task.timedOut service after.clock = true ∧
      after.fields = task.fields ∧ seen = [.left .keepAliveTimeout] := by
  have made := Task.step_madeBy taken _ member
  cases event with
  | poll cancelled =>
      simp only [Task.step, Option.ite_none_right_eq_some] at taken
      obtain ⟨_, outcome⟩ := taken
      split at outcome <;> cases outcome <;> simp at member
  | select now frame =>
      simp only [Task.step, Option.ite_none_right_eq_some, Option.some.injEq] at taken
      obtain ⟨_, outcome⟩ := taken
      cases frame with
      | some frame =>
          cases frame with
          | message message =>
              have stays := (Task.perform_cases { task with clock := now } .frame
                (service.onRemote task.fields now message)).stays .keepAliveTimeout
              simp only [Task.select, Task.onFrame] at outcome
              cases outcome
              rcases List.mem_cons.mp member with first | later
              · contradiction
              · exact absurd later stays
          | error => cases outcome; simp at member
          | closed => cases outcome; simp at member
      | none =>
          simp only [Task.select] at outcome
          split at outcome
          · next job message inner received =>
              have stays := (Task.perform_cases { task with clock := now, inner } (.result job)
                (service.onInner task.fields now message)).stays .keepAliveTimeout
              cases outcome
              rcases List.mem_cons.mp member with first | later
              · contradiction
              · exact absurd later stays
          · next nothing =>
              have empty : task.inner.queue = [] := Channel.tryRecv_none nothing
              split at outcome
              · next late =>
                  cases outcome
                  exact ⟨empty, late, rfl, rfl⟩
              · cases outcome
                simp at member
  | _ => contradiction

/-- Whoever is overdue has an account, and gave its last sign of life long ago. -/
theorem timedOut_iff (task : Task Fields Work Reply Inner) (now : Nat) :
    task.timedOut service now = true ↔ (∃ userId, service.user task.fields = some userId) ∧
      service.lastKeepAlive task.fields + service.keepAliveTimeout ≤ now := by
  unfold Task.timedOut Task.keepAliveDeadline
  cases service.user task.fields <;> simp

/-- A session has an account exactly when it has authenticated. -/
structure Authenticated (service : Service Fields Work Reply Inner)
    (task : Task Fields Work Reply Inner)
    (history : List (Nat × Seen Fields Work Reply Inner)) : Prop where
  known : ∀ userId, service.user task.fields = some userId →
    ∃ since fields, (since, .authenticate fields userId) ∈ history
  lasting : ∀ since fields userId, (since, .authenticate fields userId) ∈ history →
    ∃ own, service.user task.fields = some own

/-- A step that leaves the account alone. -/
theorem Authenticated.quiet (authenticated : Authenticated service before history)
    (same : service.user after.fields = service.user before.fields)
    (silent : ∀ fields userId, .authenticate fields userId ∉ seen) (now : Nat) :
    Authenticated service after (history ++ seen.map (Prod.mk now)) where
  known := fun userId account => by
    rw [same] at account
    obtain ⟨since, fields, member⟩ := authenticated.known userId account
    exact ⟨since, fields, List.mem_append_left _ member⟩
  lasting := fun since fields userId member => by
    rw [same]
    rcases List.mem_append.mp member with old | new
    · exact authenticated.lasting since fields userId old
    · obtain ⟨made, among, made_eq⟩ := List.mem_map.mp new
      rw [Prod.mk.injEq] at made_eq
      rw [made_eq.2] at among
      exact absurd among (silent fields userId)

/-- A step that registers an account. -/
theorem Authenticated.renewed {fields : Fields} {userId : String}
    (account : service.user after.fields = some userId)
    (member : .authenticate fields userId ∈ seen) (now : Nat) :
    Authenticated service after (history ++ seen.map (Prod.mk now)) where
  known := fun other same => by
    rw [account, Option.some.injEq] at same
    rw [← same]
    exact ⟨now, fields, List.mem_append_right _ (List.mem_map_of_mem member)⟩
  lasting := fun _ _ _ _ => ⟨userId, account⟩

theorem Authenticated.stepped (authenticated : Authenticated service before history)
    (stepped : Task.Stepped service before after seen) :
    Authenticated service after (history ++ seen.map (Prod.mk after.clock)) := by
  cases stepped.moves with
  | rests rests =>
      refine authenticated.quiet (by rw [rests.fields]) (fun fields userId member => ?_) _
      have quiet := rests.silent _ member
      contradiction
  | @ran prepared said more cause reaction takes performed shape =>
      have user : service.user reaction.fields =
          reaction.userAfter (service.user before.fields) := by
        cases takes with
        | greeting => rfl
        | frame now message => exact service.onRemote_user before.fields now message
        | result now job message => exact service.onInner_user before.fields now message
      have quiet : ∀ fields userId, .authenticate fields userId ∉ said := by
        cases takes <;> simp
      rw [← performed.frame_eq.1] at user
      rw [shape]
      cases performed with
      | authenticate fields userId payload =>
          have announced : .authenticate fields userId ∈
              said ++ [.authenticate fields userId, .accepted cause payload] := by simp
          exact .renewed user announced _
      | authenticateRefuse fields userId payload =>
          have announced : .authenticate fields userId ∈
              said ++ [.authenticate fields userId, .refused cause payload] := by simp
          exact .renewed user announced _
      | _ => exact authenticated.quiet user (by simpa using quiet) _

/-- What a timeout at some time has behind it. -/
def LateEnough (service : Service Fields Work Reply Inner)
    (earlier : List (Nat × Seen Fields Work Reply Inner)) :
    Nat × Seen Fields Work Reply Inner → Prop
  | (now, .left .keepAliveTimeout) =>
      (∃ since fields userId, (since, .authenticate fields userId) ∈ earlier) ∧
        ∀ since entry, (since, entry) ∈ earlier → entry.isSign = true →
          since + service.keepAliveTimeout ≤ now
  | _ => True

theorem lateEnough_step (alive : Alive service before history)
    (authenticated : Authenticated service before history) {event : Event Reply}
    (taken : before.step service event = some (after, seen))
    (justified : Justified (LateEnough service) history) :
    Justified (LateEnough service) (history ++ seen.map (Prod.mk after.clock)) := by
  by_cases timeout : .left .keepAliveTimeout ∈ seen
  · obtain ⟨_, late, _, rfl⟩ := timeout_cases taken timeout
    obtain ⟨⟨userId, account⟩, deadline⟩ := (timedOut_iff before after.clock).mp late
    obtain ⟨since, fields, member⟩ := authenticated.known userId account
    refine justified.snoc ⟨⟨since, fields, userId, member⟩, fun since entry member sign => ?_⟩
    have known := alive.known since entry member sign
    omega
  · refine justified.append_free fun earlier entry member => ?_
    obtain ⟨made, among, rfl⟩ := List.mem_map.mp member
    unfold LateEnough
    split
    · next now same =>
        rw [Prod.mk.injEq] at same
        rw [same.2] at among
        exact absurd among timeout
    · trivial

/-- What is known of a session in a timed run. -/
theorem reaches_timed (keeps : KeepsTime service)
    (run : ((machine service).stamped Task.clock).Reaches task history) :
    Alive service task history ∧ Authenticated service task history ∧
      Justified (LateEnough service) history := by
  apply run.invariant
  · rintro state ⟨sessionId, kick, now, rfl⟩
    refine ⟨⟨nofun, (keeps.created sessionId now).le⟩, ⟨fun userId account => ?_, nofun⟩,
      Justified.nil⟩
    have nobody := service.create_user sessionId now
    rw [show service.user (service.create sessionId now) = some userId from account] at nobody
    contradiction
  · rintro before history event after made _ ⟨alive, authenticated, justified⟩ taken
    obtain ⟨seen, stepped, rfl⟩ := Machine.stamped_step taken
    have moved := Task.step_cases stepped
    exact ⟨alive.stepped keeps moved, authenticated.stepped moved,
      lateEnough_step alive authenticated stepped justified⟩

/-- The KeepAlive timeout never fires early, and never on a session without an
account. -/
structure NeverEarly (service : Service Fields Work Reply Inner)
    (task : Task Fields Work Reply Inner)
    (history : List (Nat × Seen Fields Work Reply Inner)) : Prop where
  /-- A timeout comes to a session that has authenticated, long enough after every
  authentication and every KeepAliveRequest it has handled. -/
  late : ∀ earlier now later, history = earlier ++ (now, .left .keepAliveTimeout) :: later →
    (∃ userId, service.user task.fields = some userId) ∧
      (∃ since fields userId, (since, .authenticate fields userId) ∈ earlier) ∧
      ∀ since entry, (since, entry) ∈ earlier → entry.isSign = true →
        since + service.keepAliveTimeout ≤ now
  /-- Without an account a session that has nothing to do goes on at any time. -/
  patient : ∀ now, service.user task.fields = none → task.stage = .polling → task.clock ≤ now →
    task.inner.queue = [] → task.step service (.select now none) =
      some ({ task with clock := now, stage := .selecting }, [])

theorem select_nothing (nobody : service.user task.fields = none)
    (stage : task.stage = .polling) {now : Nat} (ordered : task.clock ≤ now)
    (empty : task.inner.queue = []) : task.step service (.select now none) =
      some ({ task with clock := now, stage := .selecting }, []) := by
  have nothing : task.inner.tryRecv = none := by
    unfold Channel.tryRecv
    split
    · rfl
    · next waiting =>
        rw [empty] at waiting
        contradiction
  have calm : Task.timedOut service { task with clock := now } now = false := by
    rw [Bool.eq_false_iff]
    intro late
    obtain ⟨⟨userId, account⟩, _⟩ := (timedOut_iff _ now).mp late
    rw [show service.user task.fields = some userId from account] at nobody
    contradiction
  rw [Task.step, if_pos ⟨stage, ordered⟩]
  simp only [Task.select, nothing]
  rw [calm]
  rfl

theorem reaches_neverEarly (keeps : KeepsTime service)
    (run : ((machine service).stamped Task.clock).Reaches task history) :
    NeverEarly service task history where
  late := fun earlier now later shape => by
    obtain ⟨_, authenticated, justified⟩ := reaches_timed keeps run
    obtain ⟨⟨since, fields, userId, member⟩, signs⟩ := justified earlier _ later shape
    have account := authenticated.lasting since fields userId
      (by rw [shape]; exact List.mem_append_left _ member)
    exact ⟨account, ⟨since, fields, userId, member⟩, signs⟩
  patient := fun _ nobody stage ordered empty => select_nothing nobody stage ordered empty

/-! ## What keeps an overdue session going -/

/-- The input of a handler. -/
def Seen.isInput : Seen Fields Work Reply Inner → Bool
  | .handled .. | .consumed .. => true
  | .authenticate .. | .accepted .. | .refused .. | .spawned .. | .replied .. | .left ..
  | .writer .. | .remove | .drainTimeout | .recordLogout .. | .record .. => false

/-- Whenever the event loop wakes up with the deadline passed, the session ends and
no frame and no result is handled. -/
def Enforces (service : Service Fields Work Reply Inner)
    (task : Task Fields Work Reply Inner) (event : Event Reply) : Prop :=
  ∀ now frame after seen, event = .select now frame → task.timedOut service now = true →
    task.step service event = some (after, seen) →
      after.stage.inLoop = false ∧ ∀ entry ∈ seen, entry.isInput = false

/-- The event loop wakes up with the deadline passed and finds a message of the
client or, if the reader has nothing, a result of a task. -/
def Starves (service : Service Fields Work Reply Inner)
    (task : Task Fields Work Reply Inner) (event : Event Reply) : Prop :=
  ∃ now frame, event = .select now frame ∧ task.timedOut service now = true ∧
    ((∃ message, frame = some (.message message)) ∨ frame = none ∧ task.inner.queue ≠ [])

theorem select_starved {now : Nat} {frame : Option Frame}
    (ready : (∃ message, frame = some (.message message)) ∨
      frame = none ∧ task.inner.queue ≠ []) :
    ∃ entry ∈ (task.select service now frame).2, entry.isInput = true := by
  rcases ready with ⟨message, rfl⟩ | ⟨rfl, waiting⟩
  · exact ⟨.handled task.fields message, List.mem_cons_self, rfl⟩
  · cases received : task.inner.tryRecv with
    | none => exact absurd (Channel.tryRecv_none received) waiting
    | some taken =>
        obtain ⟨⟨job, message⟩, inner⟩ := taken
        simp only [Task.select, received]
        exact ⟨.consumed job message, List.mem_cons_self, rfl⟩

theorem select_overdue {now : Nat} {frame : Option Frame}
    (late : task.timedOut service now = true)
    (calm : ¬ ((∃ message, frame = some (.message message)) ∨
      frame = none ∧ task.inner.queue ≠ [])) :
    (task.select service now frame).1.stage.inLoop = false ∧
      ∀ entry ∈ (task.select service now frame).2, entry.isInput = false := by
  rw [not_or] at calm
  cases frame with
  | some frame =>
      cases frame with
      | message message => exact absurd ⟨message, rfl⟩ calm.1
      | error => exact ⟨rfl, by simp [Task.select, Task.onFrame, Seen.isInput]⟩
      | closed => exact ⟨rfl, by simp [Task.select, Task.onFrame, Seen.isInput]⟩
  | none =>
      cases received : task.inner.tryRecv with
      | some taken =>
          have waiting := (Channel.tryRecv_some received).1
          exact absurd ⟨rfl, by simp [waiting]⟩ calm.2
      | none =>
          simp only [Task.select, received, late, if_true]
          exact ⟨rfl, by simp [Seen.isInput]⟩

/-- A step enforces the timeout unless the session is starved of it. -/
theorem enforces_iff {event : Event Reply}
    (taken : task.step service event = some (after, seen)) :
    Enforces service task event ↔ ¬ Starves service task event := by
  constructor
  · rintro enforces ⟨now, frame, rfl, late, ready⟩
    obtain ⟨_, quiet⟩ := enforces now frame after seen rfl late taken
    simp only [Task.step, Option.ite_none_right_eq_some, Option.some.injEq] at taken
    have starved : ∃ entry ∈ (Task.select service { task with clock := now } now frame).2,
        entry.isInput = true := select_starved ready
    obtain ⟨entry, member, input⟩ := starved
    rw [taken.2] at member
    rw [quiet entry member] at input
    contradiction
  · intro calm now frame next made same late stepped
    subst same
    simp only [Task.step, Option.ite_none_right_eq_some, Option.some.injEq] at stepped
    have ended : (Task.select service { task with clock := now } now frame).1.stage.inLoop = false ∧
        ∀ entry ∈ (Task.select service { task with clock := now } now frame).2,
          entry.isInput = false :=
      select_overdue late fun ready => calm ⟨now, frame, rfl, late, ready⟩
    rw [stepped.2] at ended
    exact ended

end RustGameserver.Session
