import RustGameserver.Foundation.FramedPipe
import RustGameserver.LoginServer.Session
import RustGameserver.Net.Codec
import RustGameserver.Session.Link

/-!
Contract: a session and its client, over the bytes of their connection.

Owns:
- the machine of one session whose frames are encoded and decoded at both ends, and
  whose bytes arrive in pieces of any size;
- that both ends read what the other one has written, in order, but for the messages
  that fit no frame, and that neither ever fails to decode it;
- that where nothing is dropped it is a run of the connection that carries messages.

Does not own: a client that writes anything else than messages.
-/

namespace RustGameserver.Servers

open RustGameserver.Foundation
open RustGameserver.Net
open RustGameserver.Proto
open RustGameserver.Session

/-- A connection, of which the session has one end once it has been accepted. -/
structure Wire (Fields Work Reply Inner : Type) where
  session : Option (Task Fields Work Reply Inner)
  toServer : Pipe UInt8
  toClient : Pipe UInt8

inductive WireEvent (Reply : Type) where
  /-- An event at one of the ends. -/
  | atEnd (event : LinkEvent Reply)
  | arriveAtServer (count : Nat)
  | arriveAtClient (count : Nat)

section Codec

variable {DecodeError : Type} (prost : ProstMessage DecodeError)

/-- `MessageCodec`, at both ends. -/
def framing : Framing UInt8 MessageWrapper (CodecError DecodeError) where
  decoder := MessageCodec.decoder prost
  frame := MessageCodec.frame prost
  idle := rfl

/-- The encoder does not drop the message. -/
def fits (message : MessageWrapper) : Bool := prost.encodedLen message ≤ maxMessageBodySize

/-- Encode the messages behind what is on its way. -/
def put (pipe : Pipe UInt8) (messages : List MessageWrapper) : Pipe UInt8 :=
  { pipe with flying := (MessageCodec.encodeAll prost messages pipe.flying).2 }

/-- What is left in the buffer of the reader after it has yielded this, if it can. -/
def yields (buffer : List UInt8) : Option Frame → Option (List UInt8)
  | none =>
      match MessageCodec.decode prost buffer with
      | (.ok none, rest) => some rest
      | _ => none
  | some (.message message) =>
      match MessageCodec.decode prost buffer with
      | (.ok (some next), rest) => if next = message then some rest else none
      | _ => none
  -- decoding fails, or reading does where more bytes are wanted
  | some .error =>
      match MessageCodec.decode prost buffer with
      | (.ok (some _), _) => none
      | (_, rest) => some rest
  -- `decode_eof`: bytes that are left over are an error
  | some .closed => if buffer = [] then some [] else none

/-- The buffer of the reader after a step of the session, which polls it or does not. -/
def reading {Reply : Type} (buffer : List UInt8) : Event Reply → Option (List UInt8)
  | .select _ frame => yields prost buffer frame
  | _ => some buffer

end Codec

namespace Wire

variable {Fields Work Reply Inner DecodeError : Type}

/-- A connection that has been made. -/
def opened : Wire Fields Work Reply Inner := ⟨none, .empty, .empty⟩

def atEnd (service : Service Fields Work Reply Inner) (prost : ProstMessage DecodeError)
    (wire : Wire Fields Work Reply Inner) :
    LinkEvent Reply →
      Option (Wire Fields Work Reply Inner × List (LinkSeen Fields Work Reply Inner))
  | .accept sessionId kick now =>
      match wire.session with
      | some _ => none
      | none => some ({ wire with session := some (.create service sessionId kick now) }, [])
  | .session event =>
      match wire.session, reading prost wire.toServer.buffer event with
      | some task, some buffer =>
          (task.step service event).map fun (after, seen) =>
            ({ session := some after
               toServer := { wire.toServer with buffer }
               toClient := put prost wire.toClient (fed seen) }, seen.map .session)
      | _, _ => none
  -- a client sends a payload
  | .send message =>
      if message.payload.isSome then
        some ({ wire with toServer := put prost wire.toServer [message] }, [.sent message])
      else none
  | .receive =>
      match MessageCodec.decode prost wire.toClient.buffer with
      | (.ok (some message), buffer) =>
          some ({ wire with toClient := { wire.toClient with buffer } }, [.received message])
      | _ => none

def step (service : Service Fields Work Reply Inner) (prost : ProstMessage DecodeError)
    (wire : Wire Fields Work Reply Inner) :
    WireEvent Reply →
      Option (Wire Fields Work Reply Inner × List (LinkSeen Fields Work Reply Inner))
  | .atEnd event => wire.atEnd service prost event
  | .arriveAtServer count => some ({ wire with toServer := wire.toServer.arrive count }, [])
  | .arriveAtClient count => some ({ wire with toClient := wire.toClient.arrive count }, [])

end Wire

variable {Fields Work Reply Inner DecodeError : Type}

/-- A connection as a machine. -/
def wire (service : Service Fields Work Reply Inner) (prost : ProstMessage DecodeError) :
    Machine (Wire Fields Work Reply Inner) (WireEvent Reply)
      (LinkSeen Fields Work Reply Inner) where
  Initial := fun wire => wire = .opened
  step := Wire.step service prost

/-! ## The codec -/

section Codec

variable {prost : ProstMessage DecodeError}

theorem put_eq (pipe : Pipe UInt8) (messages : List MessageWrapper) :
    put prost pipe messages = pipe.write (messages.flatMap (framing prost).frame) := by
  rw [put, MessageCodec.encodeAll_eq]
  rfl

/-- What fits is written, and nothing is written for what does not. -/
theorem writes_eq_fits (message : MessageWrapper) :
    (framing prost).writes message = fits prost message := by
  by_cases admissible : prost.encodedLen message ≤ maxMessageBodySize
  · have written : fits prost message = true := by simp [fits, admissible]
    rw [written]
    show (!(MessageCodec.frame prost message).isEmpty) = true
    rw [MessageCodec.frame, if_neg (by omega)]
    simp [MessageCodec.putU16Le]
  · have dropped : fits prost message = false := by simp [fits, admissible]
    rw [dropped]
    show (!(MessageCodec.frame prost message).isEmpty) = false
    rw [MessageCodec.frame, if_pos (by omega)]
    rfl

theorem sound_of_faithful {message : MessageWrapper} (faithful : prost.Faithful message)
    (carries : message.payload.isSome) : (framing prost).Sound message := by
  intro written rest
  rw [writes_eq_fits, fits, decide_eq_true_eq] at written
  exact MessageCodec.decode_frame_of_message faithful carries written rest

variable {pipe : Pipe UInt8} {pending : List MessageWrapper}

/-- Encoding behind what is on its way. -/
theorem holds_put (holds : (framing prost).Holds pipe pending) {messages : List MessageWrapper}
    (faithful : ∀ message ∈ messages, prost.Faithful message)
    (carry : ∀ message ∈ messages, message.payload.isSome) :
    (framing prost).Holds (put prost pipe messages)
      (pending ++ messages.filter (fits prost)) := by
  have writes : (framing prost).writes = fits prost := funext writes_eq_fits
  rw [put_eq, ← writes]
  exact holds.writeAll fun message member =>
    sound_of_faithful (faithful message member) (carry message member)

/-- What a step of a session takes from its reader is what comes next. -/
theorem holds_reading (holds : (framing prost).Holds pipe pending) {event : Event Reply}
    {buffer : List UInt8} (reads : reading prost pipe.buffer event = some buffer) :
    ∃ later, pending = event.message.toList ++ later ∧
      (framing prost).Holds { pipe with buffer } later := by
  have waiting (buffer : List UInt8)
      (waits : MessageCodec.decode prost pipe.buffer = (.ok none, buffer)) :
      (framing prost).Holds { pipe with buffer } pending := by
    rw [(MessageCodec.decode_waiting waits).1]
    exact holds
  cases event with
  | greet | poll | reply | deliver | write | remove | dropOutbox | writerJoined | drainTimeout
  | finish | record =>
      cases reads
      exact ⟨pending, rfl, holds⟩
  | select now frame =>
      cases frame with
      | none =>
          simp only [reading, yields] at reads
          split at reads
          · next rest waits =>
              cases reads
              exact ⟨pending, rfl, waiting _ waits⟩
          · contradiction
      | some frame =>
          cases frame with
          | message message =>
              simp only [reading, yields] at reads
              split at reads
              · next next rest decoded =>
                  rw [Option.ite_none_right_eq_some] at reads
                  obtain ⟨rfl, outcome⟩ := reads
                  cases outcome
                  exact holds.delivers decoded
              · contradiction
          | error =>
              simp only [reading, yields] at reads
              split at reads
              · contradiction
              · next verdict rest other decoded =>
                  cases reads
                  match verdict with
                  | .ok none => exact ⟨pending, rfl, waiting _ decoded⟩
                  | .ok (some message) => exact absurd rfl (other message)
                  | .error failure => exact absurd decoded (holds.never_fails failure _)
          | closed =>
              simp only [reading, yields, Option.ite_none_right_eq_some] at reads
              obtain ⟨nothing, outcome⟩ := reads
              cases outcome
              rw [← nothing]
              exact ⟨pending, rfl, holds⟩

end Codec

/-! ## Every run of a connection -/

section Runs

variable {service : Service Fields Work Reply Inner} {prost : ProstMessage DecodeError}
  {before after : Wire Fields Work Reply Inner}
  {history seen : List (LinkSeen Fields Work Reply Inner)} {event : WireEvent Reply}

/-- What one end of a connection can do. -/
inductive WireActed (service : Service Fields Work Reply Inner)
    (prost : ProstMessage DecodeError) (wire : Wire Fields Work Reply Inner) :
    LinkEvent Reply → Wire Fields Work Reply Inner →
      List (LinkSeen Fields Work Reply Inner) → Prop where
  | accepted (sessionId : SessionId) (kick : KickToken) (now : Nat) (fresh : wire.session = none) :
      WireActed service prost wire (.accept sessionId kick now)
        { wire with session := some (.create service sessionId kick now) } []
  | ran {task next : Task Fields Work Reply Inner} {made : List (Seen Fields Work Reply Inner)}
      {buffer : List UInt8} (event : Event Reply) (present : wire.session = some task)
      (reads : reading prost wire.toServer.buffer event = some buffer)
      (stepped : task.step service event = some (next, made)) :
      WireActed service prost wire (.session event)
        { session := some next
          toServer := { wire.toServer with buffer }
          toClient := put prost wire.toClient (fed made) } (made.map .session)
  | sent (message : MessageWrapper) (carries : message.payload.isSome) :
      WireActed service prost wire (.send message)
        { wire with toServer := put prost wire.toServer [message] } [.sent message]
  | received {message : MessageWrapper} {buffer : List UInt8}
      (decoded : MessageCodec.decode prost wire.toClient.buffer = (.ok (some message), buffer)) :
      WireActed service prost wire .receive
        { wire with toClient := { wire.toClient with buffer } } [.received message]

theorem atEnd_cases {action : LinkEvent Reply}
    (taken : before.atEnd service prost action = some (after, seen)) :
    WireActed service prost before action after seen := by
  cases action with
  | accept sessionId kick now =>
      simp only [Wire.atEnd] at taken
      split at taken
      · contradiction
      · next fresh =>
          cases taken
          exact .accepted sessionId kick now fresh
  | session event =>
      simp only [Wire.atEnd] at taken
      split at taken
      · next task buffer present reads =>
          rw [Option.map_eq_some_iff] at taken
          obtain ⟨⟨next, made⟩, stepped, outcome⟩ := taken
          cases outcome
          exact .ran event present reads stepped
      · contradiction
  | send message =>
      simp only [Wire.atEnd, Option.ite_none_right_eq_some] at taken
      obtain ⟨carries, outcome⟩ := taken
      cases outcome
      exact .sent message carries
  | receive =>
      simp only [Wire.atEnd] at taken
      split at taken
      · next message buffer decoded =>
          cases taken
          exact .received decoded
      · contradiction

/-- What one step of a connection can do. -/
inductive WireStepped (service : Service Fields Work Reply Inner)
    (prost : ProstMessage DecodeError) (wire : Wire Fields Work Reply Inner) :
    Wire Fields Work Reply Inner → List (LinkSeen Fields Work Reply Inner) → Prop where
  | acted {after : Wire Fields Work Reply Inner} {seen : List (LinkSeen Fields Work Reply Inner)}
      {action : LinkEvent Reply} (acted : WireActed service prost wire action after seen) :
      WireStepped service prost wire after seen
  | arrived (atServer atClient : Nat) :
      WireStepped service prost wire
        { wire with
          toServer := wire.toServer.arrive atServer
          toClient := wire.toClient.arrive atClient } []

theorem arrive_zero (pipe : Pipe UInt8) : pipe.arrive 0 = pipe := by
  rw [Pipe.arrive, List.drop_zero, List.take_zero, List.append_nil]

theorem wire_step_cases (taken : before.step service prost event = some (after, seen)) :
    WireStepped service prost before after seen := by
  cases event with
  | atEnd action => exact .acted (atEnd_cases taken)
  | arriveAtServer count =>
      cases taken
      have arrived : WireStepped service prost before _ [] := .arrived count 0
      rw [arrive_zero] at arrived
      exact arrived
  | arriveAtClient count =>
      cases taken
      have arrived : WireStepped service prost before _ [] := .arrived 0 count
      rw [arrive_zero] at arrived
      exact arrived

theorem wire_projects_session :
    (wire service prost).Projects (machine service) Wire.session LinkSeen.ofSession where
  initially := by
    rintro start rfl own present
    contradiction
  kept := by
    intro before event after seen taken absent
    cases wire_step_cases taken with
    | arrived => exact ⟨absent, rfl⟩
    | acted acted =>
        cases acted with
        | accepted | ran => contradiction
        | sent | received => exact ⟨absent, rfl⟩
  moves := by
    intro before event after seen own taken present
    cases wire_step_cases taken with
    | arrived => exact .rests present rfl
    | acted acted =>
        cases acted with
        | accepted sessionId kick now fresh =>
            cases present
            exact .starts fresh ⟨sessionId, kick, now, rfl⟩ rfl
        | ran event was reads stepped =>
            cases present
            have moved : (machine service).exec _ [event] = some (own, _) :=
              Machine.exec_singleton stepped
            rw [← sessionHistory, sessionHistory_session]
            exact .steps was moved
        | sent | received => exact .rests present rfl

/-- What a session feeds carries a payload. -/
theorem session_payload {task : Task Fields Work Reply Inner}
    {earlier : List (Seen Fields Work Reply Inner)} (own : (machine service).Reaches task earlier) :
    ∀ message ∈ fed earlier, message.payload.isSome := by
  intro message member
  have delivers := reaches_delivers own
  have accepted := delivers.carries.fedPrefix.subset (delivers.fed_eq ▸ member)
  obtain ⟨payload, _, rfl⟩ := List.mem_map.mp accepted
  rfl

theorem fed_payload (run : (wire service prost).Reaches before history)
    {message : MessageWrapper} (member : message ∈ fed (sessionHistory history)) :
    message.payload.isSome := by
  obtain ⟨entry, seen, _⟩ := List.mem_filterMap.mp member
  obtain ⟨task, present⟩ := wire_projects_session.present run seen
  exact session_payload (wire_projects_session.reaches run present) message member

/-- What the two ends have written. -/
def written (history : List (LinkSeen Fields Work Reply Inner)) : List MessageWrapper :=
  sentMessages history ++ fed (sessionHistory history)

theorem mem_written_append {message : MessageWrapper} :
    message ∈ written (history ++ seen) ↔ message ∈ written history ∨ message ∈ written seen := by
  simp only [written, sentMessages_append, sessionHistory_append, fed_append, List.mem_append]
  grind

/-- What is on its way to the session and to the client, behind what they have read. -/
structure Carrying (prost : ProstMessage DecodeError) (wire : Wire Fields Work Reply Inner)
    (history : List (LinkSeen Fields Work Reply Inner)) (toServer toClient : List MessageWrapper) :
    Prop where
  serverHolds : (framing prost).Holds wire.toServer toServer
  clientHolds : (framing prost).Holds wire.toClient toClient
  handled : handledMessages (sessionHistory history) ++ toServer =
    (sentMessages history).filter (fits prost)
  received : receivedMessages history ++ toClient =
    (fed (sessionHistory history)).filter (fits prost)

variable {toServer toClient nextToServer nextToClient : List MessageWrapper}

/-- What is read comes off the front, what is written goes behind. -/
theorem Carrying.more (carrying : Carrying prost before history toServer toClient)
    (serverHolds : (framing prost).Holds after.toServer nextToServer)
    (clientHolds : (framing prost).Holds after.toClient nextToClient)
    (handled : handledMessages (sessionHistory seen) ++ nextToServer =
      toServer ++ (sentMessages seen).filter (fits prost))
    (received : receivedMessages seen ++ nextToClient =
      toClient ++ (fed (sessionHistory seen)).filter (fits prost)) :
    Carrying prost after (history ++ seen) nextToServer nextToClient where
  serverHolds := serverHolds
  clientHolds := clientHolds
  handled := by
    rw [sessionHistory_append, handledMessages_append, sentMessages_append, List.filter_append,
      ← carrying.handled, List.append_assoc, List.append_assoc, handled]
  received := by
    rw [sessionHistory_append, fed_append, receivedMessages_append, List.filter_append,
      ← carrying.received, List.append_assoc, List.append_assoc, received]

theorem Carrying.step (carrying : Carrying prost before history toServer toClient)
    (stepped : WireStepped service prost before after seen)
    (faithful : ∀ message ∈ written seen, prost.Faithful message)
    (carry : ∀ message ∈ fed (sessionHistory seen), message.payload.isSome) :
    ∃ nextToServer nextToClient,
      Carrying prost after (history ++ seen) nextToServer nextToClient := by
  cases stepped with
  | arrived atServer atClient =>
      exact ⟨_, _, carrying.more (carrying.serverHolds.arrive atServer)
        (carrying.clientHolds.arrive atClient) (List.append_nil _).symm (List.append_nil _).symm⟩
  | acted acted =>
      cases acted with
      | accepted =>
          exact ⟨_, _, carrying.more carrying.serverHolds carrying.clientHolds
            (List.append_nil _).symm (List.append_nil _).symm⟩
      | sent message carries =>
          have holds : (framing prost).Holds (put prost before.toServer [message])
              (toServer ++ [message].filter (fits prost)) := by
            apply holds_put carrying.serverHolds
            · intro other member
              exact faithful other (List.mem_append_left _ member)
            · intro other member
              rw [List.mem_singleton.mp member]
              exact carries
          exact ⟨_, _, carrying.more holds carrying.clientHolds rfl (List.append_nil _).symm⟩
      | @ran task next made buffer event present reads stepped =>
          rw [sessionHistory_session] at carry
          have fedFaithful : ∀ message ∈ fed made, prost.Faithful message := by
            intro message member
            apply faithful
            rw [written, sessionHistory_session]
            exact List.mem_append_right _ member
          obtain ⟨later, shape, serverHolds⟩ := holds_reading carrying.serverHolds reads
          have clientHolds := holds_put carrying.clientHolds fedFaithful carry
          refine ⟨_, _, carrying.more serverHolds clientHolds ?_ ?_⟩
          · rw [sessionHistory_session, step_handled stepped, sentMessages_session, shape]
            exact (List.append_nil _).symm
          · rw [sessionHistory_session, receivedMessages_session]
            rfl
      | received decoded =>
          obtain ⟨later, rfl, clientHolds⟩ := carrying.clientHolds.delivers decoded
          exact ⟨_, _, carrying.more carrying.serverHolds clientHolds (List.append_nil _).symm
            (List.append_nil _).symm⟩

theorem reaches_carrying (run : (wire service prost).Reaches before history)
    (faithful : ∀ message ∈ written history, prost.Faithful message) :
    ∃ toServer toClient, Carrying prost before history toServer toClient := by
  induction run with
  | initial start =>
      cases start
      exact ⟨[], [], Framing.holds_empty, Framing.holds_empty, rfl, rfl⟩
  | @step before after history seen event run taken inductionHypothesis =>
      obtain ⟨toServer, toClient, carrying⟩ := inductionHypothesis
        fun message member => faithful message (mem_written_append.mpr (.inl member))
      apply carrying.step (wire_step_cases taken)
      · intro message member
        exact faithful message (mem_written_append.mpr (.inr member))
      · intro message member
        apply fed_payload (run.step taken)
        rw [sessionHistory_append, fed_append]
        exact List.mem_append_right _ member

/-- Provided `prost` reads back every message written as it was, which leaves out a float of
`-0.0`, and that a client writes none without a payload: however the bytes of a connection are
cut and whenever they arrive, the session handles what its client has sent and the client reads
what the session has fed, each in order and but for the messages that fit no frame; neither end
ever fails to decode, and once all bytes have arrived it waits for more only when it has read
everything. -/
theorem wire_in_order (run : (wire service prost).Reaches before history)
    (faithful : ∀ message ∈ written history, prost.Faithful message) :
    handledMessages (sessionHistory history) <+: (sentMessages history).filter (fits prost) ∧
    receivedMessages history <+: (fed (sessionHistory history)).filter (fits prost) ∧
    (∀ failure rest, MessageCodec.decode prost before.toServer.buffer ≠ (.error failure, rest) ∧
      MessageCodec.decode prost before.toClient.buffer ≠ (.error failure, rest)) ∧
    (before.toServer.flying = [] →
      MessageCodec.decode prost before.toServer.buffer = (.ok none, before.toServer.buffer) →
      handledMessages (sessionHistory history) = (sentMessages history).filter (fits prost)) ∧
    (before.toClient.flying = [] →
      MessageCodec.decode prost before.toClient.buffer = (.ok none, before.toClient.buffer) →
      receivedMessages history = (fed (sessionHistory history)).filter (fits prost)) := by
  obtain ⟨toServer, toClient, carrying⟩ := reaches_carrying run faithful
  refine ⟨⟨_, carrying.handled⟩, ⟨_, carrying.received⟩, ?_, ?_, ?_⟩
  · intro failure rest
    exact ⟨carrying.serverHolds.never_fails failure rest,
      carrying.clientHolds.never_fails failure rest⟩
  · intro arrived waits
    rw [← carrying.handled, carrying.serverHolds.complete arrived waits, List.append_nil]
  · intro arrived waits
    rw [← carrying.received, carrying.clientHolds.complete arrived waits, List.append_nil]

/-- A LoginServer session whose greeting arrives in two pieces, and a login in two pieces, the
first of which is no header. -/
def loginInPieces : List (WireEvent LoginServer.Reply) :=
  [.atEnd (.accept 1 ⟨0⟩ 0), .atEnd (.session .greet), .atEnd (.session (.write (.recv true))),
    .arriveAtClient 3, .arriveAtClient 5, .atEnd .receive,
    .atEnd (.send (wrap (.loginRequest ⟨"", [1]⟩))), .arriveAtServer 1,
    .atEnd (.session (.poll false)), .atEnd (.session (.select 1 none)), .arriveAtServer 100,
    .atEnd (.session (.poll false)),
    .atEnd (.session (.select 2 (some (.message (wrap (.loginRequest ⟨"", [1]⟩))))))]

theorem wire_in_order_loginInPieces :
    ∃ state history,
      (wire (LoginServer.service 10) MessageCodec.sampleProst).exec .opened loginInPieces =
        some (state, history) ∧
      handledMessages (sessionHistory history) = [wrap (.loginRequest ⟨"", [1]⟩)] ∧
      receivedMessages history = [wrap (.connectedResponse ⟨0⟩)] := by
  have runs : ∃ state history,
      (wire (LoginServer.service 10) MessageCodec.sampleProst).exec .opened loginInPieces =
        some (state, history) ∧
      written history = [wrap (.loginRequest ⟨"", [1]⟩), wrap (.connectedResponse ⟨0⟩)] ∧
      state.toServer = .empty ∧ state.toClient = .empty ∧
      (sentMessages history).filter (fits MessageCodec.sampleProst) =
        [wrap (.loginRequest ⟨"", [1]⟩)] ∧
      (fed (sessionHistory history)).filter (fits MessageCodec.sampleProst) =
        [wrap (.connectedResponse ⟨0⟩)] :=
    ⟨_, _, rfl, rfl, rfl, rfl, rfl, rfl⟩
  obtain ⟨state, history, executed, all, serverEmpty, clientEmpty, sent, spoken⟩ := runs
  have faithful : ∀ message ∈ written history, MessageCodec.sampleProst.Faithful message := by
    intro message member
    rw [all, List.mem_cons, List.mem_singleton] at member
    rcases member with rfl | rfl <;>
      exact ⟨rfl, rfl, fun _ => by
        simp [wrap, MessageCodec.sampleProst, MessageCodec.sampleProst.sampleEncode]⟩
  obtain ⟨_, _, _, server, client⟩ :=
    wire_in_order (Machine.reaches_of_exec rfl executed) faithful
  refine ⟨state, history, executed, ?_, ?_⟩
  · rw [← sent]
    exact server (by rw [serverEmpty]; rfl) (by rw [serverEmpty]; rfl)
  · rw [← spoken]
    exact client (by rw [clientEmpty]; rfl) (by rw [clientEmpty]; rfl)

/-! ## Messages instead of bytes -/

theorem taking_append (link : Link Fields Work Reply Inner) {message : Option MessageWrapper}
    {later : List MessageWrapper} (shape : link.underway = message.toList ++ later) :
    link.taking message = some later := by
  cases message with
  | none => exact congrArg some shape
  | some message =>
      have first : link.underway = message :: later := shape
      rw [Link.taking, first]
      exact if_pos rfl

/-- What carrying out a reaction feeds, which is nothing. -/
theorem performed_fed {task next : Task Fields Work Reply Inner} {cause : Cause}
    {reaction : Reaction Fields Work} {made : List (Seen Fields Work Reply Inner)}
    (performed : Task.Performed task cause reaction next made) :
    next.path.sink = task.path.sink ∧ fed made = [] := by
  cases performed with
  | proceed | stop | spawn | refuse | authenticateRefuse => exact ⟨rfl, rfl⟩
  | send fields payload sent | authenticate fields userId payload sent =>
      obtain ⟨_, _, _, _, sink, _, _⟩ := SendPath.send_some sent
      exact ⟨sink, rfl⟩

/-- A step of a session feeds what is observed of it. -/
theorem step_fed {task next : Task Fields Work Reply Inner} {event : Event Reply}
    {made : List (Seen Fields Work Reply Inner)}
    (stepped : task.step service event = some (next, made)) :
    next.path.sink.fed = task.path.sink.fed ++ fed made := by
  cases Task.step_cases stepped with
  | ran takes performed =>
      obtain ⟨_, _, _, path, _⟩ := takes.frame_eq
      obtain ⟨sink, nothing⟩ := performed_fed performed
      rw [fed_append, nothing, sink, path, List.append_nil]
      cases takes <;> exact (List.append_nil _).symm
  | wrote taken =>
      rw [fed_writer]
      exact (SendPath.writeStep_cases taken).fed_eq
  | recorded =>
      rw [fed_record, List.append_nil]
  | ended stage =>
      cases service.logoutAccount task.fields with
      | none | some accountId => exact (List.append_nil _).symm
  | polled | parked | left | awaits | returned | delivered | dropped | removed | outboxDropped
  | joined | drainTimedOut => exact (List.append_nil _).symm

/-- Everything the session of a connection has fed. -/
def fedBy (session : Option (Task Fields Work Reply Inner)) : List MessageWrapper :=
  (session.map fun task => task.path.sink.fed).getD []

/-- The bytes of a connection are those of the messages of another. -/
structure Conveys (prost : ProstMessage DecodeError) (wire : Wire Fields Work Reply Inner)
    (link : Link Fields Work Reply Inner) : Prop where
  session : link.session = wire.session
  toServer : (framing prost).Holds wire.toServer link.underway
  toClient : (framing prost).Holds wire.toClient ((fedBy wire.session).drop link.read)
  read : link.read ≤ (fedBy wire.session).length

theorem conveys_opened : Conveys prost (.opened : Wire Fields Work Reply Inner) .opened :=
  ⟨rfl, Framing.holds_empty, Framing.holds_empty, Nat.le_refl 0⟩

/-- What an end does over bytes it does over messages, where they are carried. -/
theorem Conveys.acted {link : Link Fields Work Reply Inner} {action : LinkEvent Reply}
    (conveys : Conveys prost before link)
    (acted : WireActed service prost before action after seen)
    (carried : ∀ message ∈ written seen, (framing prost).Carried message) :
    ∃ next, link.step service action = some (next, seen) ∧ Conveys prost after next := by
  have same := conveys.session
  cases acted with
  | accepted sessionId kick now fresh =>
      rw [fresh] at same
      have nothing : fedBy before.session = [] := by
        rw [fresh]
        rfl
      have client := conveys.toClient
      have read := conveys.read
      rw [nothing] at client read
      refine ⟨{ link with session := some (.create service sessionId kick now) }, ?_,
        rfl, conveys.toServer, client, read⟩
      simp only [Link.step, same]
  | @ran task next made buffer event present reads stepped =>
      rw [present] at same
      obtain ⟨later, shape, serverHolds⟩ := holds_reading conveys.toServer reads
      have takes := taking_append link shape
      have grown : fedBy (some next) = fedBy before.session ++ fed made := by
        rw [present]
        exact step_fed stepped
      have carriedMade : ∀ message ∈ fed made, (framing prost).Carried message := by
        intro message member
        apply carried
        rw [written, sessionHistory_session]
        exact List.mem_append_right _ member
      refine ⟨⟨some next, later, link.read⟩, ?_, rfl, serverHolds, ?_, ?_⟩
      · simp only [Link.step, same, takes, stepped, Option.map_some]
      · rw [grown, List.drop_append_of_le_length conveys.read, put_eq]
        exact conveys.toClient.writeCarried carriedMade
      · rw [grown, List.length_append]
        exact Nat.le_add_right_of_le conveys.read
  | sent message =>
      have own : ∀ other ∈ [message], (framing prost).Carried other :=
        fun other member => carried other (List.mem_append_left _ member)
      refine ⟨{ link with underway := link.underway ++ [message] }, rfl, same, ?_,
        conveys.toClient, conveys.read⟩
      rw [put_eq]
      exact conveys.toServer.writeCarried own
  | @received message buffer decoded =>
      obtain ⟨later, shape, clientHolds⟩ := conveys.toClient.delivers decoded
      have next : (fedBy before.session)[link.read]? = some message := by
        rw [← Nat.add_zero link.read, ← List.getElem?_drop, shape]
        rfl
      have rest : (fedBy before.session).drop (link.read + 1) = later := by
        rw [← List.drop_drop, shape, List.drop_one, List.tail_cons]
      have bound := (List.getElem?_eq_some_iff.mp next).1
      refine ⟨{ link with read := link.read + 1 }, ?_, same, conveys.toServer, ?_, bound⟩
      · cases present : before.session with
        | none =>
            rw [present] at next
            contradiction
        | some task =>
            rw [present] at next same
            have found : task.path.sink.fed[link.read]? = some message := next
            simp only [Link.step, same, Option.bind_some, found]
      · rw [rest]
        exact clientHolds

end Runs

end RustGameserver.Servers
