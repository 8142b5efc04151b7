import RustGameserver.Session.Delivery

/-!
Contract: a session and its client, over channels that keep the order.

Owns:
- the machine of one session, the messages on their way to it, and how far its client
  has read what it has written;
- that a session handles what its client sent and that a client reads what its session
  said, each in order.

Does not own: what the client does.
-/

namespace RustGameserver.Session

open RustGameserver.Foundation
open RustGameserver.Net
open RustGameserver.Proto

/-- A connection, of which the session has one end once it has been accepted. -/
structure Link (Fields Work Reply Inner : Type) where
  session : Option (Task Fields Work Reply Inner)
  /-- What the client has sent and the session has not read, in order. -/
  underway : List MessageWrapper
  /-- How many of the messages that the session has fed the client has read. -/
  read : Nat

inductive LinkEvent (Reply : Type) where
  | accept (sessionId : SessionId) (kick : KickToken) (now : Nat)
  | session (event : Event Reply)
  | send (message : MessageWrapper)
  | receive

/-- The event happens at the end of the server. -/
def LinkEvent.atServer {Reply : Type} : LinkEvent Reply → Bool
  | .accept .. | .session _ => true
  | .send _ | .receive => false

inductive LinkSeen (Fields Work Reply Inner : Type) where
  | session (seen : Seen Fields Work Reply Inner)
  | sent (message : MessageWrapper)
  | received (message : MessageWrapper)

/-- The message that a step of a session takes from its reader. -/
def Event.message {Reply : Type} : Event Reply → Option MessageWrapper
  | .select _ (some (.message message)) => some message
  | _ => none

namespace Link

variable {Fields Work Reply Inner : Type}

/-- A connection that has been made. -/
def opened : Link Fields Work Reply Inner := ⟨none, [], 0⟩

/-- What is underway to the session after its reader has yielded the message, which is
the next one. -/
def taking (link : Link Fields Work Reply Inner) :
    Option MessageWrapper → Option (List MessageWrapper)
  | none => some link.underway
  | some message =>
      match link.underway with
      | [] => none
      | next :: rest => if next = message then some rest else none

def step (service : Service Fields Work Reply Inner) (link : Link Fields Work Reply Inner) :
    LinkEvent Reply →
      Option (Link Fields Work Reply Inner × List (LinkSeen Fields Work Reply Inner))
  | .accept sessionId kick now =>
      match link.session with
      | some _ => none
      | none => some ({ link with session := some (.create service sessionId kick now) }, [])
  | .session event =>
      match link.session, link.taking event.message with
      | some task, some underway =>
          (task.step service event).map fun (after, seen) =>
            ({ link with session := some after, underway }, seen.map .session)
      | _, _ => none
  | .send message =>
      some ({ link with underway := link.underway ++ [message] }, [.sent message])
  | .receive =>
      match link.session.bind fun task => task.path.sink.fed[link.read]? with
      | none => none
      | some message => some ({ link with read := link.read + 1 }, [.received message])

end Link

variable {Fields Work Reply Inner : Type}

/-- A connection as a machine. -/
def link (service : Service Fields Work Reply Inner) :
    Machine (Link Fields Work Reply Inner) (LinkEvent Reply)
      (LinkSeen Fields Work Reply Inner) where
  Initial := fun link => link = .opened
  step := Link.step service

/-! ## Reading the history of a connection -/

def LinkSeen.ofSession :
    LinkSeen Fields Work Reply Inner → Option (Seen Fields Work Reply Inner)
  | .session seen => some seen
  | .sent _ | .received _ => none

/-- The history of the session. -/
def sessionHistory (history : List (LinkSeen Fields Work Reply Inner)) :
    List (Seen Fields Work Reply Inner) :=
  history.filterMap LinkSeen.ofSession

/-- What the client has sent, in order. -/
def sentMessages (history : List (LinkSeen Fields Work Reply Inner)) : List MessageWrapper :=
  history.filterMap fun
    | .sent message => some message
    | .session _ | .received _ => none

/-- What the client has read, in order. -/
def receivedMessages (history : List (LinkSeen Fields Work Reply Inner)) : List MessageWrapper :=
  history.filterMap fun
    | .received message => some message
    | .session _ | .sent _ => none

/-- The messages that the session has handled, in order. -/
def handledMessages (history : List (Seen Fields Work Reply Inner)) : List MessageWrapper :=
  (handled history).map Prod.snd

section Reading

variable (history more : List (LinkSeen Fields Work Reply Inner))
  (seen later : List (Seen Fields Work Reply Inner))

@[simp] theorem sessionHistory_append :
    sessionHistory (history ++ more) = sessionHistory history ++ sessionHistory more :=
  List.filterMap_append

@[simp] theorem sentMessages_append :
    sentMessages (history ++ more) = sentMessages history ++ sentMessages more :=
  List.filterMap_append

@[simp] theorem receivedMessages_append :
    receivedMessages (history ++ more) = receivedMessages history ++ receivedMessages more :=
  List.filterMap_append

@[simp] theorem handledMessages_append :
    handledMessages (seen ++ later) = handledMessages seen ++ handledMessages later := by
  rw [handledMessages, handled_append, List.map_append]
  rfl

@[simp] theorem sessionHistory_session :
    sessionHistory (seen.map (.session : _ → LinkSeen Fields Work Reply Inner)) = seen :=
  filterMap_unwrapped LinkSeen.session _ (fun _ => rfl) seen

@[simp] theorem sentMessages_session :
    sentMessages (seen.map (.session : _ → LinkSeen Fields Work Reply Inner)) = [] :=
  filterMap_wrapped _ _ (fun _ => rfl) seen

@[simp] theorem receivedMessages_session :
    receivedMessages (seen.map (.session : _ → LinkSeen Fields Work Reply Inner)) = [] :=
  filterMap_wrapped _ _ (fun _ => rfl) seen

end Reading

/-! ## Every run of a connection -/

variable {service : Service Fields Work Reply Inner} {before after : Link Fields Work Reply Inner}
  {history seen : List (LinkSeen Fields Work Reply Inner)} {event : LinkEvent Reply}

/-- What one step of a connection can do. -/
inductive LinkStepped (service : Service Fields Work Reply Inner)
    (link : Link Fields Work Reply Inner) :
    Link Fields Work Reply Inner → List (LinkSeen Fields Work Reply Inner) → Prop where
  | accepted (sessionId : SessionId) (kick : KickToken) (now : Nat) (fresh : link.session = none) :
      LinkStepped service link
        { link with session := some (.create service sessionId kick now) } []
  | ran {task next : Task Fields Work Reply Inner} {made : List (Seen Fields Work Reply Inner)}
      {underway : List MessageWrapper} (event : Event Reply) (present : link.session = some task)
      (takes : link.underway = event.message.toList ++ underway)
      (stepped : task.step service event = some (next, made)) :
      LinkStepped service link { link with session := some next, underway }
        (made.map .session)
  | sent (message : MessageWrapper) :
      LinkStepped service link { link with underway := link.underway ++ [message] }
        [.sent message]
  | received {task : Task Fields Work Reply Inner} {message : MessageWrapper}
      (present : link.session = some task)
      (written : task.path.sink.fed[link.read]? = some message) :
      LinkStepped service link { link with read := link.read + 1 } [.received message]

theorem taking_eq {message : Option MessageWrapper} {underway : List MessageWrapper}
    (taken : before.taking message = some underway) :
    before.underway = message.toList ++ underway := by
  cases message with
  | none =>
      cases taken
      rfl
  | some message =>
      simp only [Link.taking] at taken
      split at taken
      · contradiction
      · next next rest shape =>
          rw [Option.ite_none_right_eq_some] at taken
          obtain ⟨same, outcome⟩ := taken
          cases outcome
          rw [shape, same]
          rfl

theorem link_step_cases (taken : before.step service event = some (after, seen)) :
    LinkStepped service before after seen := by
  cases event with
  | accept sessionId kick now =>
      simp only [Link.step] at taken
      split at taken
      · contradiction
      · next fresh =>
          cases taken
          exact .accepted sessionId kick now fresh
  | session event =>
      simp only [Link.step] at taken
      split at taken
      · next task underway present takes =>
          rw [Option.map_eq_some_iff] at taken
          obtain ⟨⟨next, made⟩, stepped, outcome⟩ := taken
          cases outcome
          exact .ran event present (taking_eq takes) stepped
      · contradiction
  | send message =>
      cases taken
      exact .sent message
  | receive =>
      simp only [Link.step] at taken
      split at taken
      · contradiction
      · next message found =>
          cases taken
          obtain ⟨task, present, written⟩ := Option.bind_eq_some_iff.mp found
          exact .received present written

theorem link_projects_session :
    (link service).Projects (machine service) Link.session LinkSeen.ofSession where
  initially := by
    rintro start rfl own present
    contradiction
  kept := by
    intro before event after seen taken absent
    cases link_step_cases taken with
    | accepted => contradiction
    | ran => contradiction
    | sent => exact ⟨absent, rfl⟩
    | received => exact ⟨absent, rfl⟩
  moves := by
    intro before event after seen own taken present
    cases link_step_cases taken with
    | accepted sessionId kick now fresh =>
        cases present
        exact .starts fresh ⟨sessionId, kick, now, rfl⟩ rfl
    | ran event was takes stepped =>
        cases present
        have moved : (machine service).exec _ [event] = some (own, _) :=
          Machine.exec_singleton stepped
        rw [← sessionHistory, sessionHistory_session]
        exact .steps was moved
    | sent => exact .rests present rfl
    | received => exact .rests present rfl

theorem reaches_linked (run : (link service).Reaches before history)
    {task : Task Fields Work Reply Inner} (present : before.session = some task) :
    (machine service).Reaches task (sessionHistory history) :=
  link_projects_session.reaches run present

/-- A session that has been observed is there. -/
theorem session_present (run : (link service).Reaches before history)
    {entry : Seen Fields Work Reply Inner} (member : entry ∈ sessionHistory history) :
    ∃ task, before.session = some task ∧
      (machine service).Reaches task (sessionHistory history) := by
  obtain ⟨task, present⟩ := link_projects_session.present run member
  exact ⟨task, present, reaches_linked run present⟩

/-- Nothing was observed, or what was observed is a session's own run. -/
theorem session_quiet_or (run : (link service).Reaches before history) :
    sessionHistory history = [] ∨
      ∃ task, (machine service).Reaches task (sessionHistory history) := by
  by_cases quiet : sessionHistory history = []
  · exact .inl quiet
  · obtain ⟨_, member⟩ := List.exists_mem_of_ne_nil _ quiet
    obtain ⟨task, _, own⟩ := session_present run member
    exact .inr ⟨task, own⟩

/-- A step that takes no message handles none. -/
theorem handled_nothing {event : Event Reply} {made : List (Seen Fields Work Reply Inner)}
    (madeBy : ∀ entry ∈ made, entry.madeBy event) (nothing : event.message = none) :
    handledMessages made = [] := by
  rw [handledMessages, List.map_eq_nil_iff, handled, List.filterMap_eq_nil_iff]
  intro entry member
  cases entry with
  | handled fields message =>
      have same := madeBy _ member
      unfold Seen.madeBy at same
      split at same
      · contradiction
      all_goals contradiction
  | _ => rfl

/-- Carrying out a reaction handles no message. -/
theorem performed_unhandled {task next : Task Fields Work Reply Inner} {cause : Cause}
    {reaction : Reaction Fields Work} {made : List (Seen Fields Work Reply Inner)}
    (performed : Task.Performed task cause reaction next made) : handledMessages made = [] := by
  cases performed <;> rfl

/-- A step of a session handles the message that it takes from its reader, and no other. -/
theorem step_handled {task next : Task Fields Work Reply Inner} {event : Event Reply}
    {made : List (Seen Fields Work Reply Inner)}
    (stepped : task.step service event = some (next, made)) :
    handledMessages made = event.message.toList := by
  cases takes : event.message with
  | none => exact handled_nothing (Task.step_madeBy stepped) takes
  | some message =>
      unfold Event.message at takes
      split at takes
      · next now received =>
          cases takes
          simp only [Task.step, Task.select, Task.onFrame, Option.ite_none_right_eq_some,
            Option.some.injEq, Prod.mk.injEq] at stepped
          obtain ⟨_, _, rfl⟩ := stepped
          have nothing := performed_unhandled (Task.perform_cases { task with clock := now } .frame
            (service.onRemote task.fields now message))
          rw [← List.singleton_append, handledMessages_append, nothing]
          rfl
      · contradiction

/-- Reading on where one has stopped. -/
theorem prefix_snoc {front whole : List MessageWrapper} {message : MessageWrapper}
    (read : front <+: whole) (next : whole[front.length]? = some message) :
    front ++ [message] <+: whole := by
  have taken : front ++ [message] = whole.take (front.length + 1) := by
    rw [List.take_add_one, next, ← List.prefix_iff_eq_take.mp read]
    rfl
  rw [taken]
  exact List.take_prefix _ _

/-- What is underway, and what the client has read. -/
structure Ordered (link : Link Fields Work Reply Inner)
    (history : List (LinkSeen Fields Work Reply Inner)) : Prop where
  /-- What has been sent has been handled or is underway. -/
  underway : handledMessages (sessionHistory history) ++ link.underway = sentMessages history
  read : (receivedMessages history).length = link.read
  /-- What has been read has been fed before. -/
  fed : receivedMessages history <+: fed (sessionHistory history)

theorem Ordered.step (ordered : Ordered before history)
    (run : (link service).Reaches before history)
    (stepped : LinkStepped service before after seen) : Ordered after (history ++ seen) := by
  cases stepped with
  | accepted sessionId kick now fresh =>
      rw [List.append_nil]
      exact ⟨ordered.underway, ordered.read, ordered.fed⟩
  | @ran task next made underway event present takes stepped =>
      constructor
      · rw [sessionHistory_append, sessionHistory_session, handledMessages_append,
          step_handled stepped, sentMessages_append, sentMessages_session, List.append_nil,
          List.append_assoc, ← takes]
        exact ordered.underway
      · rw [receivedMessages_append, receivedMessages_session, List.append_nil]
        exact ordered.read
      · rw [receivedMessages_append, receivedMessages_session, List.append_nil,
          sessionHistory_append, fed_append]
        exact ordered.fed.trans (List.prefix_append _ _)
  | sent message =>
      have silent : sessionHistory [(.sent message : LinkSeen Fields Work Reply Inner)] = [] := rfl
      have unread : receivedMessages [(.sent message : LinkSeen Fields Work Reply Inner)] = [] :=
        rfl
      constructor
      · rw [sentMessages_append, ← ordered.underway, List.append_assoc, sessionHistory_append,
          silent, List.append_nil]
        rfl
      · rw [receivedMessages_append, unread, List.append_nil]
        exact ordered.read
      · rw [receivedMessages_append, unread, sessionHistory_append, silent, List.append_nil,
          List.append_nil]
        exact ordered.fed
  | @received task message present written =>
      have silent : sessionHistory [(.received message : LinkSeen Fields Work Reply Inner)] = [] :=
        rfl
      have content := (reaches_delivers (reaches_linked run present)).fed_eq
      rw [content, ← ordered.read] at written
      constructor
      · rw [sentMessages_append, sessionHistory_append, silent, List.append_nil, ordered.underway]
        exact (List.append_nil _).symm
      · rw [receivedMessages_append, List.length_append, ordered.read]
        rfl
      · rw [receivedMessages_append, sessionHistory_append, silent, List.append_nil]
        exact prefix_snoc ordered.fed written

theorem reaches_ordered (run : (link service).Reaches before history) :
    Ordered before history := by
  apply run.invariant
  · rintro start rfl
    exact ⟨rfl, rfl, List.prefix_rfl⟩
  · intro before history event after seen run ordered taken
    exact ordered.step run (link_step_cases taken)

/-- A session has handled some of what its client has sent, from the first message on. -/
theorem handled_sent (run : (link service).Reaches before history) :
    handledMessages (sessionHistory history) <+: sentMessages history :=
  ⟨_, (reaches_ordered run).underway⟩

/-- A client has read some of what its session has said, from the first message on. -/
theorem received_accepted (run : (link service).Reaches before history) :
    receivedMessages history <+: (accepted (sessionHistory history)).map wrap := by
  apply (reaches_ordered run).fed.trans
  rcases session_quiet_or run with quiet | ⟨task, own⟩
  · rw [quiet]
    exact List.nil_prefix
  · have delivers := reaches_delivers own
    rw [← delivers.fed_eq]
    exact delivers.carries.fedPrefix

/-- What the handling of a message and the reading of one rest on. -/
def Transported (earlier : List (LinkSeen Fields Work Reply Inner)) :
    LinkSeen Fields Work Reply Inner → Prop
  | .session (.handled _ message) => message ∈ sentMessages earlier
  | .received message => message ∈ (accepted (sessionHistory earlier)).map wrap
  | _ => True

theorem reaches_transported (run : (link service).Reaches before history) :
    Justified Transported history := by
  apply run.invariant
  · intro start _
    exact .nil
  · intro before history event after seen run justified taken
    cases link_step_cases taken with
    | accepted => simpa using justified
    | @ran task next made underway event present takes stepped =>
        apply justified.append
        intro front entry member
        obtain ⟨own, among, rfl⟩ := List.mem_map.mp member
        cases own with
        | handled fields message =>
            have handles : message ∈ handledMessages made :=
              List.mem_map.mpr ⟨(fields, message), List.mem_filterMap.mpr ⟨_, among, rfl⟩, rfl⟩
            rw [step_handled stepped] at handles
            have sent : message ∈ sentMessages history := by
              rw [← (reaches_ordered run).underway, takes]
              simp [handles]
            show message ∈ sentMessages (history ++ front)
            rw [sentMessages_append]
            exact List.mem_append_left _ sent
        | _ => trivial
    | sent => exact justified.snoc trivial
    | @received task message present written =>
        have delivers := reaches_delivers (reaches_linked run present)
        exact justified.snoc (delivers.carries.fedPrefix.subset (List.mem_of_getElem? written))

/-- What a client has read so far its session has said so far. -/
theorem received_told (run : (link service).Reaches before history)
    {earlier later : List (LinkSeen Fields Work Reply Inner)} (shape : history = earlier ++ later)
    {message : MessageWrapper} (member : message ∈ receivedMessages earlier) :
    message ∈ (accepted (sessionHistory earlier)).map wrap := by
  obtain ⟨entry, among, own⟩ := List.mem_filterMap.mp member
  cases entry with
  | received found =>
      cases own
      obtain ⟨front, back, rfl⟩ := List.append_of_mem among
      have told := reaches_transported run front (.received message) (back ++ later)
        (by simp [shape])
      rw [sessionHistory_append, accepted_append, List.map_append]
      exact List.mem_append_left _ told
  | session | sent => contradiction

end RustGameserver.Session
