import RustGameserver.Admin.Operations
import RustGameserver.Db.Broadcast

/-!
Contract: from `POST /api/notice` to the servers that are told.

Owns:
- the AdminApi with the notice channel and one server that subscribes to it;
- that a server is told only what an admitted request has asked to be published.

Does not own: what a server does with a notice, beyond logging it.
-/

namespace RustGameserver.Admin

open RustGameserver.Db
open RustGameserver.Foundation
open RustGameserver.Net

structure Noticing where
  ops : Operations
  /-- `subscribe` in the LoginServer or in a GameServer -/
  subscriber : Subscriber

inductive NoticingEvent where
  | operation (event : OperationEvent)
  | subscriber (event : BroadcastEvent)

inductive NoticingSeen where
  | operation (seen : OperationSeen)
  | subscriber (seen : BroadcastSeen)

def OperationSeen.message : OperationSeen → Option String
  | .published _ message => some message
  | _ => none

/-- `publish`: the channel is handed the bytes of the message. -/
def publish (message : String) : BroadcastEvent := .publish message.toUTF8

/-- The channel passes on what has been published. -/
def relay (subscriber : Subscriber) : List OperationSeen → Subscriber × List NoticingSeen
  | [] => (subscriber, [])
  | entry :: rest =>
      match entry.message with
      | none =>
          let (final, later) := relay subscriber rest
          (final, .operation entry :: later)
      | some message =>
          let payload := message.toUTF8
          let (final, later) :=
            relay { subscriber with pubsub := subscriber.pubsub.publish payload } rest
          (final, .operation entry :: .subscriber (.channel (.published payload)) :: later)

def publishes : BroadcastEvent → Bool
  | .publish _ => true
  | _ => false

def Noticing.step (config : AdminApiConfig) (library : PasswordLibrary) (keepAliveTimeout : Nat)
    (noticing : Noticing) : NoticingEvent → Option (Noticing × List NoticingSeen)
  | .operation event =>
      match noticing.ops.step config library keepAliveTimeout event with
      | none => none
      | some (ops, seen) =>
          let (subscriber, made) := relay noticing.subscriber seen
          some (⟨ops, subscriber⟩, made)
  | .subscriber event =>
      -- nobody but the AdminApi publishes on the channel
      if publishes event then none
      else
        match noticing.subscriber.step event with
        | none => none
        | some (subscriber, seen) => some ({ noticing with subscriber }, seen.map .subscriber)

def noticing (config : AdminApiConfig) (library : PasswordLibrary) (keepAliveTimeout : Nat) :
    Machine Noticing NoticingEvent NoticingSeen where
  Initial := fun noticing => (operations config library keepAliveTimeout).Initial noticing.ops ∧
    subscribing.Initial noticing.subscriber
  step := fun noticing event => noticing.step config library keepAliveTimeout event

variable {config : AdminApiConfig} {library : PasswordLibrary} {keepAliveTimeout : Nat}
  {state after : Noticing} {event : NoticingEvent} {history seen : List NoticingSeen}

def NoticingSeen.ofOperation : NoticingSeen → Option OperationSeen
  | .operation seen => some seen
  | _ => none

def NoticingSeen.ofSubscriber : NoticingSeen → Option BroadcastSeen
  | .subscriber seen => some seen
  | _ => none

def operationHistory (history : List NoticingSeen) : List OperationSeen :=
  history.filterMap NoticingSeen.ofOperation

def subscriberHistory (history : List NoticingSeen) : List BroadcastSeen :=
  history.filterMap NoticingSeen.ofSubscriber

/-- The messages published, in order. -/
def messages (made : List OperationSeen) : List String := made.filterMap OperationSeen.message

theorem relay_operation (subscriber : Subscriber) (made : List OperationSeen) :
    operationHistory (relay subscriber made).2 = made := by
  induction made generalizing subscriber with
  | nil => rfl
  | cons entry rest inductionHypothesis =>
      rw [relay]
      split
      · exact congrArg (entry :: ·) (inductionHypothesis subscriber)
      · exact congrArg (entry :: ·) (inductionHypothesis _)

theorem relay_subscriber (subscriber : Subscriber) (made : List OperationSeen) :
    subscribing.exec subscriber ((messages made).map publish) =
      some ((relay subscriber made).1, subscriberHistory (relay subscriber made).2) := by
  induction made generalizing subscriber with
  | nil => rfl
  | cons entry rest inductionHypothesis =>
      rw [relay]
      split
      · next silent =>
          rw [messages, List.filterMap_cons_none silent]
          exact inductionHypothesis subscriber
      · next message published =>
          rw [messages, List.filterMap_cons_some published, List.map_cons]
          have onwards := inductionHypothesis
            { subscriber with pubsub := subscriber.pubsub.publish message.toUTF8 }
          have step : subscribing.step subscriber (publish message) =
              some ({ subscriber with pubsub := subscriber.pubsub.publish message.toUTF8 },
                [.channel (.published message.toUTF8)]) := rfl
          have tail : subscribing.exec
              { subscriber with pubsub := subscriber.pubsub.publish message.toUTF8 }
              ((rest.filterMap OperationSeen.message).map publish) = _ := onwards
          simp only [Machine.exec, step, tail]
          rfl

/-- What one step can do. -/
inductive NoticingStepped (config : AdminApiConfig) (library : PasswordLibrary)
    (keepAliveTimeout : Nat) (state : Noticing) : Noticing → List NoticingSeen → Prop where
  | operated {event : OperationEvent} {ops : Operations} {made : List OperationSeen}
      (taken : (operations config library keepAliveTimeout).step state.ops event =
        some (ops, made)) :
      NoticingStepped config library keepAliveTimeout state
        ⟨ops, (relay state.subscriber made).1⟩ (relay state.subscriber made).2
  | subscribed {event : BroadcastEvent} {subscriber : Subscriber} {made : List BroadcastSeen}
      (listens : publishes event = false)
      (taken : subscribing.step state.subscriber event = some (subscriber, made)) :
      NoticingStepped config library keepAliveTimeout state { state with subscriber }
        (made.map .subscriber)

theorem noticing_step_cases
    (taken : (noticing config library keepAliveTimeout).step state event = some (after, seen)) :
    NoticingStepped config library keepAliveTimeout state after seen := by
  cases event with
  | operation event =>
      simp only [noticing, Noticing.step] at taken
      split at taken
      · contradiction
      next ops made stepped =>
      cases taken
      exact .operated stepped
  | subscriber event =>
      simp only [noticing, Noticing.step, Option.ite_none_left_eq_some, Bool.not_eq_true] at taken
      obtain ⟨listens, taken⟩ := taken
      split at taken
      · contradiction
      next subscriber made stepped =>
      cases taken
      exact .subscribed listens stepped

theorem noticing_projects_operations (config : AdminApiConfig) (library : PasswordLibrary)
    (keepAliveTimeout : Nat) :
    (noticing config library keepAliveTimeout).Projects (operations config library keepAliveTimeout)
      (fun state => some state.ops) NoticingSeen.ofOperation := by
  apply Machine.Projects.component
  · intro state initial
    exact initial.1
  · intro before event after seen taken
    cases noticing_step_cases taken with
    | @operated _ ops made stepped =>
        have view : (relay before.subscriber made).2.filterMap NoticingSeen.ofOperation = made :=
          relay_operation before.subscriber made
        rw [view]
        exact .one stepped
    | subscribed listens stepped =>
        rw [filterMap_wrapped NoticingSeen.subscriber _ (fun _ => rfl)]
        exact .rests rfl rfl

theorem noticing_projects_subscriber (config : AdminApiConfig) (library : PasswordLibrary)
    (keepAliveTimeout : Nat) :
    (noticing config library keepAliveTimeout).Projects subscribing
      (fun state => some state.subscriber) NoticingSeen.ofSubscriber := by
  apply Machine.Projects.component
  · intro state initial
    exact initial.2
  · intro before event after seen taken
    cases noticing_step_cases taken with
    | operated stepped => exact .steps rfl (relay_subscriber before.subscriber _)
    | subscribed listens stepped =>
        rw [filterMap_unwrapped NoticingSeen.subscriber _ (fun _ => rfl)]
        exact .one stepped

theorem reaches_operations
    (run : (noticing config library keepAliveTimeout).Reaches state history) :
    (operations config library keepAliveTimeout).Reaches state.ops (operationHistory history) :=
  (noticing_projects_operations config library keepAliveTimeout).reaches run rfl

theorem reaches_subscriber
    (run : (noticing config library keepAliveTimeout).Reaches state history) :
    subscribing.Reaches state.subscriber (subscriberHistory history) :=
  (noticing_projects_subscriber config library keepAliveTimeout).reaches run rfl

/-! ## What a server is told -/

/-- A message survives its encoding. -/
theorem fromUTF8_toUTF8 (text : String) : String.fromUTF8? text.toUTF8 = some text := by
  have valid : text.toUTF8.IsValidUTF8 := text.isValidUTF8
  rw [String.fromUTF8?, dif_pos valid]
  rfl

theorem messages_append (made more : List OperationSeen) :
    messages (made ++ more) = messages made ++ messages more :=
  List.filterMap_append

theorem operationHistory_append (history more : List NoticingSeen) :
    operationHistory (history ++ more) = operationHistory history ++ operationHistory more :=
  List.filterMap_append

theorem subscriberHistory_append (history more : List NoticingSeen) :
    subscriberHistory (history ++ more) = subscriberHistory history ++ subscriberHistory more :=
  List.filterMap_append

theorem relay_publications (subscriber : Subscriber) (made : List OperationSeen) :
    publications (channelHistory (subscriberHistory (relay subscriber made).2)) =
      (messages made).map String.toUTF8 := by
  induction made generalizing subscriber with
  | nil => rfl
  | cons entry rest inductionHypothesis =>
      rw [relay]
      split
      · next silent =>
          rw [messages, List.filterMap_cons_none silent]
          exact inductionHypothesis subscriber
      · next message published =>
          rw [messages, List.filterMap_cons_some published, List.map_cons]
          exact congrArg (message.toUTF8 :: ·) (inductionHypothesis _)

theorem step_publications {subscriber next : Subscriber} {event : BroadcastEvent}
    {made : List BroadcastSeen} (listens : publishes event = false)
    (taken : subscribing.step subscriber event = some (next, made)) :
    publications (channelHistory made) = [] := by
  cases subscriber_step_cases taken with
  | published => contradiction
  | told checked payload pubsub =>
      rw [channelHistory, List.filterMap_cons, List.filterMap_cons, onMessage_ofChannel]
      rfl
  | _ => rfl

/-- What is published on the channel are the notices of the AdminApi. -/
theorem reaches_publications
    (run : (noticing config library keepAliveTimeout).Reaches state history) :
    publications (channelHistory (subscriberHistory history)) =
      (messages (operationHistory history)).map String.toUTF8 := by
  apply run.invariant
  · intro start _
    rfl
  · intro before earlier event after seen _ same taken
    rw [subscriberHistory_append, channelHistory_append, publications_append,
      operationHistory_append, messages_append, List.map_append, same]
    congr 1
    cases noticing_step_cases taken with
    | @operated _ ops made stepped => rw [relay_operation, relay_publications]
    | @subscribed _ subscriber made listens stepped =>
        have heard : subscriberHistory (made.map NoticingSeen.subscriber) = made :=
          filterMap_unwrapped NoticingSeen.subscriber NoticingSeen.ofSubscriber (fun _ => rfl) made
        have silent : operationHistory (made.map NoticingSeen.subscriber) = [] :=
          filterMap_wrapped NoticingSeen.subscriber NoticingSeen.ofOperation (fun _ => rfl) made
        rw [heard, silent, step_publications listens stepped]
        rfl

/-- The message has been published. -/
def Published (history : List NoticingSeen) (message : String) : Prop :=
  ∃ id, .operation (.published id message) ∈ history

/-- A notice that a server is told has been published. -/
def Comes (earlier : List NoticingSeen) : NoticingSeen → Prop
  | .subscriber (.received text) => Published earlier text
  | _ => True

/-- What is in flight has been published, and so has what a server is told. -/
structure Sourced (state : Noticing) (history : List NoticingSeen) : Prop where
  inFlight : ∀ payload ∈ state.subscriber.pubsub.inFlight,
    ∃ message, payload = message.toUTF8 ∧ Published history message
  comes : Justified Comes history

theorem Published.grow {message : String} (published : Published history message)
    (more : List NoticingSeen) : Published (history ++ more) message := by
  obtain ⟨id, member⟩ := published
  exact ⟨id, List.mem_append_left _ member⟩

theorem message_published {entry : OperationSeen} {message : String}
    (published : entry.message = some message) : ∃ id, entry = .published id message := by
  cases entry with
  | published id other => exact ⟨id, congrArg _ (Option.some.inj published)⟩
  | _ => contradiction

theorem relay_inFlight (subscriber : Subscriber) (made : List OperationSeen) :
    ∀ payload ∈ (relay subscriber made).1.pubsub.inFlight,
      payload ∈ subscriber.pubsub.inFlight ∨
        ∃ message, payload = message.toUTF8 ∧ ∃ id, .published id message ∈ made := by
  induction made generalizing subscriber with
  | nil => exact fun _ => .inl
  | cons entry rest inductionHypothesis =>
      intro payload member
      have later (message : String) (found : ∃ id, OperationSeen.published id message ∈ rest) :
          ∃ id, OperationSeen.published id message ∈ entry :: rest :=
        found.imp fun _ => List.mem_cons_of_mem _
      rw [relay] at member
      split at member
      · rcases inductionHypothesis subscriber payload member with before | ⟨message, same, found⟩
        · exact .inl before
        · exact .inr ⟨message, same, later message found⟩
      · next message published =>
          obtain ⟨id, rfl⟩ := message_published published
          rcases inductionHypothesis _ payload member with before | ⟨other, same, found⟩
          · rcases Subscription.mem_publish before with before | same
            · exact .inl before
            · exact .inr ⟨message, same, id, List.mem_cons_self⟩
          · exact .inr ⟨other, same, later other found⟩

theorem relay_published {subscriber : Subscriber} {made : List OperationSeen} {message : String}
    (found : ∃ id, .published id message ∈ made) :
    Published (relay subscriber made).2 message := by
  obtain ⟨id, member⟩ := found
  rw [← relay_operation subscriber made] at member
  obtain ⟨entry, among, view⟩ := List.mem_filterMap.mp member
  cases entry with
  | operation own =>
      cases view
      exact ⟨id, among⟩
  | subscriber own => contradiction

theorem relay_comes (subscriber : Subscriber) (made : List OperationSeen) :
    ∀ earlier, ∀ entry ∈ (relay subscriber made).2, Comes earlier entry := by
  induction made generalizing subscriber with
  | nil => nofun
  | cons first rest inductionHypothesis =>
      intro earlier entry member
      rw [relay] at member
      split at member
      · rcases List.mem_cons.mp member with rfl | member
        · trivial
        · exact inductionHypothesis _ earlier entry member
      · rcases List.mem_cons.mp member with rfl | member
        · trivial
        rcases List.mem_cons.mp member with rfl | member
        · trivial
        · exact inductionHypothesis _ earlier entry member

/-- A step of the subscriber tells it what was in flight. -/
theorem listen_sourced {subscriber next : Subscriber} {event : BroadcastEvent}
    {made : List BroadcastSeen} (listens : publishes event = false)
    (taken : subscribing.step subscriber event = some (next, made)) :
    (∀ payload ∈ next.pubsub.inFlight, payload ∈ subscriber.pubsub.inFlight) ∧
      ∀ text, .received text ∈ made →
        ∃ payload ∈ subscriber.pubsub.inFlight, String.fromUTF8? payload = some text := by
  cases subscriber_step_cases taken with
  | published => contradiction
  | registered | waited | stopped => exact ⟨nofun, by simp⟩
  | lost inFlight through active =>
      refine ⟨?_, by simp⟩
      intro payload member
      rw [active]
      exact List.mem_of_mem_take member
  | told checked payload pubsub running confirmed first =>
      have head := (Subscription.inFlight_arrive first).1
      rw [head]
      refine ⟨fun _ => List.mem_cons_of_mem _, ?_⟩
      intro text member
      refine ⟨payload, List.mem_cons_self, ?_⟩
      rw [← onMessage_text]
      rcases List.mem_cons.mp member with other | member
      · contradiction
      · rw [← List.mem_singleton.mp member]
        rfl
  | shutDown | polled | subscribed | yielded | slept | retried | woken =>
      exact ⟨fun _ => id, by simp⟩

theorem reaches_sourced
    (run : (noticing config library keepAliveTimeout).Reaches state history) :
    Sourced state history := by
  apply run.invariant
  · rintro start ⟨_, _, _, _, absent, _⟩
    exact ⟨by simp [absent, Subscription.inFlight], .nil⟩
  · intro before earlier event after seen _ sourced taken
    cases noticing_step_cases taken with
    | @operated _ ops made stepped =>
        refine ⟨?_, sourced.comes.append_free (relay_comes before.subscriber made)⟩
        intro payload member
        rcases relay_inFlight before.subscriber made payload member with
          was | ⟨message, same, found⟩
        · obtain ⟨message, same, published⟩ := sourced.inFlight payload was
          exact ⟨message, same, published.grow _⟩
        · obtain ⟨id, among⟩ := relay_published found
          exact ⟨message, same, id, List.mem_append_right _ among⟩
    | @subscribed _ subscriber made listens stepped =>
        obtain ⟨flight, told⟩ := listen_sourced listens stepped
        constructor
        · intro payload member
          obtain ⟨message, same, published⟩ := sourced.inFlight payload (flight payload member)
          exact ⟨message, same, published.grow _⟩
        · apply sourced.comes.append
          intro front entry member
          obtain ⟨own, among, rfl⟩ := List.mem_map.mp member
          cases own with
          | received text =>
              obtain ⟨payload, was, decoded⟩ := told text among
              obtain ⟨message, rfl, published⟩ := sourced.inFlight payload was
              rw [fromUTF8_toUTF8, Option.some.injEq] at decoded
              rw [Comes, ← decoded]
              exact published.grow front
          | _ => trivial

/-- Whatever notice a server is told, an admitted request has asked for: the AdminApi had
published just this text for it before, and the key of the request was valid.  A server is
told each notice at most once, and in the order of publication. -/
theorem notices_authorized
    (run : (noticing config library keepAliveTimeout).Reaches state history) :
    (∀ earlier text later, history = earlier ++ .subscriber (.received text) :: later →
      ∃ id front back, operationHistory earlier = front ++ .published id text :: back ∧
        NoticeAuthorized config library front id text) ∧
    (receivedTexts (subscriberHistory history)).Sublist
      (messages (operationHistory history)) := by
  constructor
  · intro earlier text later shape
    obtain ⟨id, member⟩ := (reaches_sourced run).comes _ _ _ shape
    have among : OperationSeen.published id text ∈ operationHistory earlier :=
      List.mem_filterMap.mpr ⟨_, member, rfl⟩
    obtain ⟨front, back, split⟩ := List.append_of_mem among
    have whole := reaches_operations run
    rw [shape, operationHistory_append, split, List.append_assoc, List.cons_append] at whole
    exact ⟨id, front, back, split, published_authorized whole rfl⟩
  · have overall := (reaches_inOrder (reaches_channel (reaches_subscriber run))).overall
    have inOrder := ((List.sublist_append_left _ _).trans overall).filterMap String.fromUTF8?
    rw [← reaches_texts (reaches_subscriber run), reaches_publications run, List.filterMap_map]
      at inOrder
    have decoded : String.fromUTF8? ∘ String.toUTF8 = some := funext fromUTF8_toUTF8
    rw [decoded, List.filterMap_some] at inOrder
    exact inOrder

/-- A server subscribes, an admin publishes a notice, and the server is told. -/
def noticeTold : List NoticingEvent :=
  [.subscriber (.poll true), .subscriber .register, .subscriber .subscribed] ++
    disconnectAndNotice.map .operation ++ [.subscriber .message]

theorem notices_authorized_told :
    ∃ state history,
      (noticing sampleConfig sampleLibrary 10).exec ⟨idle, calledAt 0⟩ noticeTold =
          some (state, history) ∧
        ∃ place, history[place]? = some (.subscriber (.received "hi")) ∧
          ∃ id front back,
            operationHistory (history.take place) = front ++ .published id "hi" :: back ∧
              NoticeAuthorized sampleConfig sampleLibrary front id "hi" := by
  have runs : ∃ state history,
      (noticing sampleConfig sampleLibrary 10).exec ⟨idle, calledAt 0⟩ noticeTold =
          some (state, history) ∧
        history[24]? = some (.subscriber (Subscriber.onMessage "hi".toUTF8)) :=
    ⟨_, _, rfl, rfl⟩
  obtain ⟨state, history, executed, told⟩ := runs
  have text : Subscriber.onMessage "hi".toUTF8 = .received "hi" := by
    rw [Subscriber.onMessage, fromUTF8_toUTF8]
  rw [text] at told
  have initial : (noticing sampleConfig sampleLibrary 10).Initial ⟨idle, calledAt 0⟩ :=
    ⟨⟨⟨rfl, rfl, rfl⟩, rfl, rfl⟩, rfl, rfl, rfl, rfl, rfl⟩
  exact ⟨state, history, executed, 24, told,
    (notices_authorized (Machine.reaches_of_exec initial executed)).1 _ "hi" _ (split_at told)⟩

end RustGameserver.Admin
