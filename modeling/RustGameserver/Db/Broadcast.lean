import Mathlib.Algebra.Ring.Nat
import RustGameserver.Foundation.Subscription
import RustGameserver.Net.Consts

/-!
Contract: `db::broadcast`, the notice channel as a server subscribes to it.

Owns:
- the loop of `subscribe` with its two `select!`s, and how the delay grows;
- that a server is told the notices of its subscriptions in order, each at most once;
- when the next attempt to subscribe is made;
- that `subscribe` returns after the shutdown, and only then.

Does not own: who publishes, and the Redis connection itself.
-/

namespace RustGameserver.Db

open RustGameserver.Foundation
open RustGameserver.Net (fromSecs)

def resubscribeDelayMin : Nat := fromSecs 1

def resubscribeDelayMax : Nat := fromSecs 30

/-- Where the loop of `subscribe` is. -/
inductive SubscribePhase where
  /-- in the first `select!`, to be polled -/
  | selecting
  /-- polling `session`; `checked` when the shutdown branch has been polled before it -/
  | running (checked : Bool)
  /-- in the second `select!` -/
  | sleeping (deadline : Nat)
  | returned
deriving DecidableEq, Repr

/-- `subscribe` with the shutdown token and its connection, which Redis counts as a subscriber
before `pubsub.subscribe` is told so. -/
structure Subscriber where
  phase : SubscribePhase
  delay : Nat
  clock : Nat
  shutdown : Bool
  pubsub : Subscription ByteArray
  confirmed : Bool

inductive BroadcastEvent where
  /-- a PUBLISH on the channel -/
  | publish (payload : ByteArray)
  /-- Redis takes the connection as a subscriber. -/
  | register
  | lose (through : Nat)
  | shutdown
  /-- The first `select!` is polled, with `session` before the token or after it. -/
  | poll (sessionFirst : Bool)
  /-- `pubsub.subscribe` succeeds. -/
  | subscribed
  /-- `messages.next` has a message. -/
  | message
  /-- `session` has to wait. -/
  | pending
  /-- `session` is over: the connection could not be made or is lost. -/
  | ends (now : Nat)
  /-- The second `select!` is polled once more, with the timer before the token or after it. -/
  | wake (now : Nat) (sleepFirst : Bool)

/-- A step of `subscribe` itself. -/
def BroadcastEvent.own : BroadcastEvent → Bool
  | .publish _ | .register | .lose _ | .shutdown => false
  | .poll _ | .subscribed | .message | .pending | .ends _ | .wake .. => true

inductive BroadcastSeen where
  | channel (seen : ChannelSeen ByteArray)
  | subscribed
  /-- `on_received` is called. -/
  | received (text : String)
  | undecodable (payload : ByteArray)
  | waits (now delay : Nat)
  | retries (now : Nat)
  | returned

namespace Subscriber

/-- `get_payload::<String>` and what is done with its result. -/
def onMessage (payload : ByteArray) : BroadcastSeen :=
  match String.fromUTF8? payload with
  | some text => .received text
  | none => .undecodable payload

variable (subscriber : Subscriber)

/-- The connection may fail to be made, and what a lost one has got through is read first. -/
def isOver : Bool :=
  match subscriber.confirmed, subscriber.pubsub with
  | false, _ | true, .broken [] => true
  | true, .absent | true, .active _ | true, .broken (_ :: _) => false

/-- A connection is being made. -/
def isConnecting : Bool :=
  match subscriber.phase, subscriber.pubsub with
  | .selecting, .absent | .running _, .absent => true
  | _, _ => false

/-- The token is found cancelled in the first `select!`, which drops the connection. -/
def stop : Subscriber × List BroadcastSeen :=
  ({ subscriber with phase := .returned, pubsub := .absent, confirmed := false },
    [.channel .closed, .returned])

/-- `session` is over, and the second `select!` is polled: its timer has just been set. -/
def finish (now : Nat) : Subscriber × List BroadcastSeen :=
  if subscriber.shutdown then { subscriber with clock := now }.stop
  else
    ({ subscriber with
      phase := .sleeping (now + subscriber.delay)
      clock := now
      pubsub := .absent
      confirmed := false },
      [.channel .closed, .waits now subscriber.delay])

/-- The timer has fired, and the loop goes round. -/
def retry (now : Nat) : Subscriber × List BroadcastSeen :=
  ({ subscriber with
    phase := .selecting
    delay := min (subscriber.delay * 2) resubscribeDelayMax
    clock := now },
    [.retries now])

def step (subscriber : Subscriber) :
    BroadcastEvent → Option (Subscriber × List BroadcastSeen)
  | .publish payload =>
      some ({ subscriber with pubsub := subscriber.pubsub.publish payload },
        [.channel (.published payload)])
  | .register =>
      if subscriber.isConnecting then
        some ({ subscriber with pubsub := .active [] }, [.channel .subscribed])
      else none
  | .lose through =>
      match subscriber.pubsub with
      | .active inFlight =>
          some ({ subscriber with pubsub := .broken (inFlight.take through) }, [.channel .lost])
      | .absent | .broken _ => none
  | .shutdown => some ({ subscriber with shutdown := true }, [])
  | .poll sessionFirst =>
      match subscriber.phase with
      | .selecting =>
          if !sessionFirst && subscriber.shutdown then some subscriber.stop
          else some ({ subscriber with phase := .running (!sessionFirst) }, [])
      | _ => none
  | .subscribed =>
      match subscriber.phase, subscriber.pubsub with
      | .running _, .active _ | .running _, .broken _ =>
          some ({ subscriber with confirmed := true, delay := resubscribeDelayMin }, [.subscribed])
      | _, _ => none
  | .message =>
      match subscriber.phase, subscriber.confirmed, subscriber.pubsub.arrive with
      | .running _, true, some (payload, pubsub) =>
          some ({ subscriber with pubsub }, [.channel (.arrived payload), onMessage payload])
      | _, _, _ => none
  | .pending =>
      match subscriber.phase with
      | .running checked =>
          if !checked && subscriber.shutdown then some subscriber.stop
          else some ({ subscriber with phase := .selecting }, [])
      | _ => none
  | .ends now =>
      match subscriber.phase with
      | .running _ =>
          if subscriber.clock ≤ now ∧ subscriber.isOver then some (subscriber.finish now)
          else none
      | _ => none
  | .wake now sleepFirst =>
      match subscriber.phase with
      | .sleeping deadline =>
          if now < subscriber.clock then none
          else if deadline ≤ now ∧ (sleepFirst = true ∨ subscriber.shutdown = false) then
            some (subscriber.retry now)
          else if subscriber.shutdown then
            some ({ subscriber with phase := .returned, clock := now }, [.returned])
          else some ({ subscriber with clock := now }, [])
      | _ => none

end Subscriber

/-- `subscribe` as a machine. -/
def subscribing : Machine Subscriber BroadcastEvent BroadcastSeen where
  Initial := fun subscriber => subscriber.phase = .selecting ∧
    subscriber.delay = resubscribeDelayMin ∧ subscriber.shutdown = false ∧
    subscriber.pubsub = .absent ∧ subscriber.confirmed = false
  step := Subscriber.step

variable {subscriber after final : Subscriber} {event : BroadcastEvent}
  {history seen later : List BroadcastSeen}

/-- What one step can do. -/
inductive Subscriber.Stepped (subscriber : Subscriber) :
    BroadcastEvent → Subscriber → List BroadcastSeen → Prop where
  | published (payload : ByteArray) : Stepped subscriber (.publish payload)
      { subscriber with pubsub := subscriber.pubsub.publish payload }
      [.channel (.published payload)]
  | registered (connecting : subscriber.isConnecting = true) : Stepped subscriber .register
      { subscriber with pubsub := .active [] } [.channel .subscribed]
  | lost (inFlight : List ByteArray) (through : Nat)
      (active : subscriber.pubsub = .active inFlight) : Stepped subscriber (.lose through)
      { subscriber with pubsub := .broken (inFlight.take through) } [.channel .lost]
  | shutDown : Stepped subscriber .shutdown { subscriber with shutdown := true } []
  | polled (sessionFirst : Bool) (selecting : subscriber.phase = .selecting)
      (going : sessionFirst = true ∨ subscriber.shutdown = false) :
      Stepped subscriber (.poll sessionFirst)
        { subscriber with phase := .running (!sessionFirst) } []
  | subscribed (checked : Bool) (running : subscriber.phase = .running checked)
      (present : subscriber.pubsub ≠ .absent) : Stepped subscriber .subscribed
      { subscriber with confirmed := true, delay := resubscribeDelayMin } [.subscribed]
  | told (checked : Bool) (payload : ByteArray) (pubsub : Subscription ByteArray)
      (running : subscriber.phase = .running checked) (confirmed : subscriber.confirmed = true)
      (next : subscriber.pubsub.arrive = some (payload, pubsub)) : Stepped subscriber .message
      { subscriber with pubsub } [.channel (.arrived payload), onMessage payload]
  | yielded (checked : Bool) (running : subscriber.phase = .running checked)
      (going : checked = true ∨ subscriber.shutdown = false) :
      Stepped subscriber .pending { subscriber with phase := .selecting } []
  | waited (checked : Bool) (now : Nat) (running : subscriber.phase = .running checked)
      (ordered : subscriber.clock ≤ now) (going : subscriber.shutdown = false) :
      Stepped subscriber (.ends now)
        { subscriber with
          phase := .sleeping (now + subscriber.delay)
          clock := now
          pubsub := .absent
          confirmed := false }
        [.channel .closed, .waits now subscriber.delay]
  | retried (deadline now : Nat) (sleepFirst : Bool)
      (sleeping : subscriber.phase = .sleeping deadline)
      (ordered : subscriber.clock ≤ now) (elapsed : deadline ≤ now) :
      Stepped subscriber (.wake now sleepFirst) (subscriber.retry now).1 [.retries now]
  | slept (deadline now : Nat) (sleepFirst : Bool)
      (sleeping : subscriber.phase = .sleeping deadline)
      (ordered : subscriber.clock ≤ now) (going : subscriber.shutdown = false) :
      Stepped subscriber (.wake now sleepFirst) { subscriber with clock := now } []
  | stopped (now : Nat) (down : subscriber.shutdown = true) (event : BroadcastEvent)
      (looping : subscriber.phase = .selecting ∨
        ∃ checked, subscriber.phase = .running checked) :
      Stepped subscriber event
        { subscriber with
          phase := .returned
          clock := now
          pubsub := .absent
          confirmed := false }
        [.channel .closed, .returned]
  | woken (deadline now : Nat) (down : subscriber.shutdown = true) (sleepFirst : Bool)
      (sleeping : subscriber.phase = .sleeping deadline) :
      Stepped subscriber (.wake now sleepFirst)
        { subscriber with phase := .returned, clock := now } [.returned]

theorem subscriber_step_cases (taken : subscribing.step subscriber event = some (after, seen)) :
    subscriber.Stepped event after seen := by
  cases event with
  | publish payload =>
      cases taken
      exact .published payload
  | lose through =>
      simp only [subscribing, Subscriber.step] at taken
      split at taken
      · next inFlight active =>
          cases taken
          exact .lost inFlight through active
      · contradiction
      · contradiction
  | register =>
      simp only [subscribing, Subscriber.step, Option.ite_none_right_eq_some] at taken
      obtain ⟨connecting, same⟩ := taken
      cases same
      exact .registered connecting
  | shutdown =>
      cases taken
      exact .shutDown
  | poll sessionFirst =>
      simp only [subscribing, Subscriber.step] at taken
      split at taken
      · next selecting =>
          split at taken
          · next down =>
              cases taken
              simp only [Bool.and_eq_true] at down
              exact .stopped _ down.2 _ (.inl selecting)
          · next going =>
              cases taken
              refine .polled sessionFirst selecting ?_
              cases sessionFirst with
              | true => exact .inl rfl
              | false => exact .inr (by simpa using going)
      · contradiction
  | subscribed =>
      simp only [subscribing, Subscriber.step] at taken
      split at taken
      · next checked inFlight running active =>
          cases taken
          exact .subscribed checked running (by simp [active])
      · next checked inFlight running broken =>
          cases taken
          exact .subscribed checked running (by simp [broken])
      · contradiction
  | message =>
      simp only [subscribing, Subscriber.step] at taken
      split at taken
      · next checked payload pubsub running confirmed next =>
          cases taken
          exact .told checked payload _ running confirmed next
      · contradiction
  | pending =>
      simp only [subscribing, Subscriber.step] at taken
      split at taken
      · next checked running =>
          split at taken
          · next down =>
              cases taken
              simp only [Bool.and_eq_true] at down
              exact .stopped _ down.2 _ (.inr ⟨checked, running⟩)
          · next going =>
              cases taken
              refine .yielded checked running ?_
              cases checked with
              | true => exact .inl rfl
              | false => exact .inr (by simpa using going)
      · contradiction
  | ends now =>
      simp only [subscribing, Subscriber.step] at taken
      split at taken
      · next checked running =>
          split at taken
          · next ended =>
              rw [Option.some.injEq, Subscriber.finish] at taken
              split at taken
              · next down =>
                  cases taken
                  exact .stopped now down _ (.inr ⟨checked, running⟩)
              · next going =>
                  cases taken
                  exact .waited checked now running ended.1 (by simpa using going)
          · contradiction
      · contradiction
  | wake now sleepFirst =>
      simp only [subscribing, Subscriber.step] at taken
      split at taken
      · next deadline sleeping =>
          split at taken
          · contradiction
          next ordered =>
          split at taken
          · next fired =>
              cases taken
              exact .retried deadline now sleepFirst sleeping (Nat.not_lt.mp ordered) fired.1
          next =>
          split at taken
          · next down =>
              cases taken
              exact .woken deadline now down sleepFirst sleeping
          · next going =>
              cases taken
              exact .slept deadline now sleepFirst sleeping (Nat.not_lt.mp ordered)
                (by simpa using going)
      · contradiction

/-! ## The notices of a server -/

def BroadcastSeen.ofChannel : BroadcastSeen → Option (ChannelSeen ByteArray)
  | .channel seen => some seen
  | _ => none

def BroadcastSeen.text : BroadcastSeen → Option String
  | .received text => some text
  | _ => none

/-- What is observed of the channel. -/
def channelHistory (history : List BroadcastSeen) : List (ChannelSeen ByteArray) :=
  history.filterMap BroadcastSeen.ofChannel

/-- The texts `on_received` has been called with. -/
def receivedTexts (history : List BroadcastSeen) : List String :=
  history.filterMap BroadcastSeen.text

theorem onMessage_ofChannel (payload : ByteArray) :
    (Subscriber.onMessage payload).ofChannel = none := by
  unfold Subscriber.onMessage
  split <;> rfl

theorem onMessage_text (payload : ByteArray) :
    (Subscriber.onMessage payload).text = String.fromUTF8? payload := by
  unfold Subscriber.onMessage
  split
  · next text decoded => rw [decoded, BroadcastSeen.text]
  · next invalid => rw [invalid]; rfl

theorem isConnecting_absent (connecting : subscriber.isConnecting = true) :
    subscriber.pubsub = .absent := by
  unfold Subscriber.isConnecting at connecting
  split at connecting
  · next absent => exact absent
  · next absent => exact absent
  · contradiction

theorem subscribing_projects_channel :
    subscribing.Projects (channel ByteArray) (fun subscriber => some subscriber.pubsub)
      BroadcastSeen.ofChannel := by
  apply Machine.Projects.component
  · rintro subscriber ⟨_, _, _, absent, _⟩
    exact absent
  · intro before event after seen taken
    have close : (channel ByteArray).step before.pubsub .close = some (.absent, [.closed]) := rfl
    cases subscriber_step_cases taken with
    | published payload =>
        have step : (channel ByteArray).step before.pubsub (.publish payload) =
            some (before.pubsub.publish payload, [.published payload]) := rfl
        exact .one step
    | registered connecting =>
        have step : (channel ByteArray).step before.pubsub .subscribe =
            some (.active [], [.subscribed]) := by
          rw [isConnecting_absent connecting]
          rfl
        exact .one step
    | lost inFlight through active =>
        have step : (channel ByteArray).step before.pubsub (.lose through) =
            some (.broken (inFlight.take through), [.lost]) := by
          rw [active]
          rfl
        exact .one step
    | told checked payload pubsub running confirmed next =>
        have step : (channel ByteArray).step before.pubsub .arrive =
            some (pubsub, [.arrived payload]) := by
          simp only [channel, Subscription.step, next]
        have view : [.channel (.arrived payload), Subscriber.onMessage payload].filterMap
            BroadcastSeen.ofChannel = [.arrived payload] := by
          rw [List.filterMap_cons, List.filterMap_cons, onMessage_ofChannel]
          rfl
        rw [view]
        exact .one step
    | waited | stopped => exact .one close
    | shutDown | polled | subscribed | yielded | retried | slept | woken => exact .rests rfl rfl

theorem reaches_channel (run : subscribing.Reaches subscriber history) :
    (channel ByteArray).Reaches subscriber.pubsub (channelHistory history) :=
  subscribing_projects_channel.reaches run rfl

theorem receivedTexts_append (history more : List BroadcastSeen) :
    receivedTexts (history ++ more) = receivedTexts history ++ receivedTexts more :=
  List.filterMap_append

theorem channelHistory_append (history more : List BroadcastSeen) :
    channelHistory (history ++ more) = channelHistory history ++ channelHistory more :=
  List.filterMap_append

/-- Whatever arrives is handed on, if it is text. -/
theorem step_texts (taken : subscribing.step subscriber event = some (after, seen)) :
    receivedTexts seen = (arrivals (channelHistory seen)).filterMap String.fromUTF8? := by
  cases subscriber_step_cases taken with
  | told checked payload pubsub running confirmed next =>
      have here : channelHistory [.channel (.arrived payload), Subscriber.onMessage payload] =
          [.arrived payload] := by
        rw [channelHistory, List.filterMap_cons, List.filterMap_cons, onMessage_ofChannel]
        rfl
      rw [here, receivedTexts, List.filterMap_cons, List.filterMap_cons, onMessage_text]
      rfl
  | _ => rfl

theorem reaches_texts (run : subscribing.Reaches subscriber history) :
    receivedTexts history = (arrivals (channelHistory history)).filterMap String.fromUTF8? := by
  apply run.invariant
  · intro start _
    rfl
  · intro before earlier event after seen _ texts taken
    rw [receivedTexts_append, channelHistory_append, arrivals_append, List.filterMap_append,
      texts, step_texts taken]

/-- A server is told what is published on the channel, each notice at most once and in order.
Within a subscription none is left out: each is the next one published since, and while the
connection holds only those in flight have not been told yet.  What is not text is dropped. -/
theorem notices_in_order (run : subscribing.Reaches subscriber history) :
    receivedTexts history = (arrivals (channelHistory history)).filterMap String.fromUTF8? ∧
    (arrivals (channelHistory history)).Sublist (publications (channelHistory history)) ∧
    Justified NextInOrder (channelHistory history) ∧
    (∀ inFlight, subscriber.pubsub = .active inFlight →
      publications (sinceSubscribed (channelHistory history)) =
        arrivals (sinceSubscribed (channelHistory history)) ++ inFlight) := by
  have inOrder := reaches_inOrder (reaches_channel run)
  refine ⟨reaches_texts run, ?_, inOrder.ordered, ?_⟩
  · exact (List.sublist_append_left _ _).trans inOrder.overall
  · intro inFlight active
    obtain ⟨missing, account, complete⟩ := inOrder.account
    rw [complete inFlight active, List.append_nil, active] at account
    exact account

/-- When `subscribe` is called. -/
def calledAt (clock : Nat) : Subscriber :=
  ⟨.selecting, resubscribeDelayMin, clock, false, .absent, false⟩

/-- Two notices after the subscription, of which the second is lost with the connection. -/
def lossyBroadcast (first second : ByteArray) : List BroadcastEvent :=
  [.poll true, .register, .pending, .publish first, .publish second, .lose 1, .poll true,
    .subscribed, .message]

theorem notices_in_order_lossy :
    ∃ subscriber history,
      subscribing.exec (calledAt 0) (lossyBroadcast "one".toUTF8 "two".toUTF8) =
          some (subscriber, history) ∧
        publications (channelHistory history) = ["one".toUTF8, "two".toUTF8] ∧
        receivedTexts history = ["one".toUTF8].filterMap String.fromUTF8? := by
  have runs : ∃ subscriber history, history = [.channel .subscribed,
        .channel (.published "one".toUTF8), .channel (.published "two".toUTF8), .channel .lost,
        .subscribed, .channel (.arrived "one".toUTF8), Subscriber.onMessage "one".toUTF8] ∧
      subscribing.exec (calledAt 0) (lossyBroadcast "one".toUTF8 "two".toUTF8) =
        some (subscriber, history) :=
    ⟨_, _, rfl, rfl⟩
  obtain ⟨subscriber, history, shape, executed⟩ := runs
  have initial : subscribing.Initial (calledAt 0) := ⟨rfl, rfl, rfl, rfl, rfl⟩
  have seen : channelHistory history = [.subscribed, .published "one".toUTF8,
      .published "two".toUTF8, .lost, .arrived "one".toUTF8] := by
    simp only [shape, channelHistory, List.filterMap_cons, onMessage_ofChannel]
    rfl
  have texts := (notices_in_order (Machine.reaches_of_exec initial executed)).1
  refine ⟨subscriber, history, executed, ?_, ?_⟩
  · rw [seen]
    rfl
  · rw [texts, seen]
    rfl

/-! ## The next attempt -/

/-- How often an attempt or a subscription has ended since the last subscription succeeded. -/
def waitsSince (history : List BroadcastSeen) : Nat :=
  history.foldl
    (fun count entry =>
      match entry with
      | .subscribed => 0
      | .waits .. => count + 1
      | _ => count)
    0

/-- The delay after that many waits. -/
def backoff (count : Nat) : Nat := min (resubscribeDelayMin * 2 ^ count) resubscribeDelayMax

theorem backoff_succ (count : Nat) :
    min (backoff count * 2) resubscribeDelayMax = backoff (count + 1) := by
  unfold backoff
  rw [Nat.pow_succ, ← Nat.mul_assoc]
  omega

/-- What has nothing to do with the delay. -/
def BroadcastSeen.untimed : BroadcastSeen → Bool
  | .subscribed | .waits .. | .retries _ => false
  | .channel _ | .received _ | .undecodable _ | .returned => true

theorem onMessage_untimed (payload : ByteArray) :
    (Subscriber.onMessage payload).untimed = true := by
  unfold Subscriber.onMessage
  split <;> rfl

theorem waitsSince_append (history : List BroadcastSeen) {more : List BroadcastSeen}
    (untimed : ∀ entry ∈ more, entry.untimed = true) :
    waitsSince (history ++ more) = waitsSince history := by
  induction more generalizing history with
  | nil => rw [List.append_nil]
  | cons entry rest inductionHypothesis =>
      obtain ⟨here, others⟩ := List.forall_mem_cons.mp untimed
      have shape : history ++ entry :: rest = (history ++ [entry]) ++ rest := by simp
      rw [shape, inductionHypothesis _ others, waitsSince, List.foldl_append]
      cases entry with
      | subscribed | waits => contradiction
      | _ => rfl

theorem waitsSince_retries (history : List BroadcastSeen) (now : Nat) :
    waitsSince (history ++ [.retries now]) = waitsSince history := by
  rw [waitsSince, List.foldl_append]
  rfl

theorem waitsSince_waits (history : List BroadcastSeen) (now delay : Nat) :
    waitsSince (history ++ [.channel .closed, .waits now delay]) = waitsSince history + 1 := by
  rw [waitsSince, List.foldl_append]
  rfl

theorem waitsSince_subscribed (history : List BroadcastSeen) :
    waitsSince (history ++ [.subscribed]) = 0 := by
  rw [waitsSince, List.foldl_append]
  rfl

/-- A wait doubles with every one before it, and the next attempt comes when it is over. -/
def Spaced (earlier : List BroadcastSeen) : BroadcastSeen → Prop
  | .waits _ delay => delay = backoff (waitsSince earlier)
  | .retries now => ∃ front since delay back,
      earlier = front ++ .waits since delay :: back ∧ (∀ other, .retries other ∉ back) ∧
        since + delay ≤ now
  | _ => True

/-- The delay and the timer agree with what has been observed. -/
structure Paced (subscriber : Subscriber) (history : List BroadcastSeen) : Prop where
  delay : subscriber.phase = .selecting ∨ (∃ checked, subscriber.phase = .running checked) →
    subscriber.delay = backoff (waitsSince history)
  timer : ∀ deadline, subscriber.phase = .sleeping deadline →
    (∃ count, waitsSince history = count + 1 ∧ subscriber.delay = backoff count) ∧
    ∃ front since delay back, history = front ++ .waits since delay :: back ∧
      (∀ other, .retries other ∉ back) ∧ since + delay = deadline
  spaced : Justified Spaced history

namespace Paced

variable (paced : Paced subscriber history)

include paced

/-- A step that has nothing to do with the delay, and does not start to sleep. -/
theorem aside (untimed : ∀ entry ∈ seen, entry.untimed = true)
    (delay : after.delay = subscriber.delay)
    (looping : after.phase = .selecting ∨ (∃ checked, after.phase = .running checked) →
      subscriber.phase = .selecting ∨ ∃ checked, subscriber.phase = .running checked)
    (sleeping : ∀ deadline, after.phase = .sleeping deadline →
      subscriber.phase = .sleeping deadline) : Paced after (history ++ seen) where
  delay := by
    intro still
    rw [waitsSince_append history untimed, delay]
    exact paced.delay (looping still)
  timer := by
    intro deadline asleep
    obtain ⟨count, front, since, wait, back, shape, unretried, timed⟩ :=
      paced.timer deadline (sleeping deadline asleep)
    rw [waitsSince_append history untimed, delay]
    refine ⟨count, front, since, wait, back ++ seen, by simp [shape], ?_, timed⟩
    intro other member
    rcases List.mem_append.mp member with before | made
    · exact unretried other before
    · have never := untimed _ made
      contradiction
  spaced := by
    apply paced.spaced.append_free
    intro earlier entry member
    have here := untimed entry member
    cases entry with
    | waits | retries => contradiction
    | _ => trivial

theorem subscribed {checked : Bool} (running : subscriber.phase = .running checked) :
    Paced { subscriber with confirmed := true, delay := resubscribeDelayMin }
      (history ++ [.subscribed]) where
  delay := by
    intro _
    rw [waitsSince_subscribed]
    rfl
  timer := by
    intro deadline sleeping
    rw [running] at sleeping
    contradiction
  spaced := paced.spaced.snoc trivial

theorem waited {checked : Bool} {now : Nat} (running : subscriber.phase = .running checked) :
    Paced { subscriber with
        phase := .sleeping (now + subscriber.delay)
        clock := now
        pubsub := .absent
        confirmed := false }
      (history ++ [.channel .closed, .waits now subscriber.delay]) where
  delay := by simp
  timer := by
    intro deadline sleeping
    rw [waitsSince_waits]
    refine ⟨⟨_, rfl, paced.delay (.inr ⟨checked, running⟩)⟩, history ++ [.channel .closed], now,
      subscriber.delay, [], by simp, nofun, ?_⟩
    exact SubscribePhase.sleeping.inj sleeping
  spaced := by
    have closed : Justified Spaced (history ++ [.channel .closed]) := paced.spaced.snoc trivial
    have delay := paced.delay (.inr ⟨checked, running⟩)
    have shape : history ++ [.channel .closed, .waits now subscriber.delay] =
        (history ++ [.channel .closed]) ++ [.waits now subscriber.delay] := by simp
    rw [shape]
    apply closed.snoc
    rw [Spaced, waitsSince_append history (by simp [BroadcastSeen.untimed])]
    exact delay

theorem retried {deadline now : Nat} (sleeping : subscriber.phase = .sleeping deadline)
    (elapsed : deadline ≤ now) : Paced (subscriber.retry now).1 (history ++ [.retries now]) where
  delay := by
    intro _
    obtain ⟨⟨count, waits, delay⟩, _⟩ := paced.timer deadline sleeping
    rw [waitsSince_retries, waits, ← backoff_succ, ← delay]
    rfl
  timer := by
    intro other sleeping
    contradiction
  spaced := by
    obtain ⟨_, front, since, wait, back, shape, unretried, timed⟩ := paced.timer deadline sleeping
    exact paced.spaced.snoc ⟨front, since, wait, back, shape, unretried, by omega⟩

theorem stepped (stepped : subscriber.Stepped event after seen) :
    Paced after (history ++ seen) := by
  cases stepped with
  | published | registered | lost =>
      exact paced.aside (by simp [BroadcastSeen.untimed]) rfl id fun _ => id
  | shutDown | slept => exact paced.aside (by simp) rfl id fun _ => id
  | polled sessionFirst selecting =>
      exact paced.aside (by simp) rfl (fun _ => .inl selecting) nofun
  | subscribed checked running => exact paced.subscribed running
  | told checked payload pubsub running =>
      refine paced.aside ?_ rfl id fun _ => id
      exact List.forall_mem_cons.mpr
        ⟨rfl, List.forall_mem_singleton.mpr (onMessage_untimed payload)⟩
  | yielded checked running =>
      exact paced.aside (by simp) rfl (fun _ => .inr ⟨checked, running⟩) nofun
  | waited checked now running => exact paced.waited running
  | retried deadline now sleepFirst sleeping ordered elapsed => exact paced.retried sleeping elapsed
  | stopped | woken => exact paced.aside (by simp [BroadcastSeen.untimed]) rfl (by simp) (by simp)

end Paced

theorem reaches_paced (run : subscribing.Reaches subscriber history) :
    Paced subscriber history := by
  apply run.invariant
  · rintro start ⟨phase, delay, _⟩
    exact ⟨fun _ => delay, by simp [phase], .nil⟩
  · intro before earlier event after seen _ paced taken
    exact paced.stepped (subscriber_step_cases taken)

/-- A subscription that is lost, or could not be made, is tried again when
`min (2 ^ n s, 30 s)` have passed and not before, `n` counting the waits since `subscribe` was
called or last subscribed: 1, 2, 4, 8, 16, 30, 30, .. s. -/
theorem resubscribes_spaced (run : subscribing.Reaches subscriber history) :
    (∀ earlier now delay later, history = earlier ++ .waits now delay :: later →
      delay = min (fromSecs (2 ^ waitsSince earlier)) (fromSecs 30)) ∧
    (∀ earlier now later, history = earlier ++ .retries now :: later →
      ∃ front since delay back, earlier = front ++ .waits since delay :: back ∧
        (∀ other, .retries other ∉ back) ∧ since + delay ≤ now) := by
  have spaced := (reaches_paced run).spaced
  constructor
  · intro earlier now delay later shape
    have same : delay = backoff (waitsSince earlier) := spaced _ _ _ shape
    rw [same, backoff, resubscribeDelayMin, resubscribeDelayMax, fromSecs, fromSecs, Nat.one_mul,
      Nat.mul_comm]
    rfl
  · intro earlier now later shape
    exact spaced _ _ _ shape

/-- A server that is started before Redis is. -/
def startedEarly : List BroadcastEvent :=
  [.poll true, .ends 5, .wake (5 + fromSecs 1) true, .poll false, .ends (fromSecs 2)]

theorem resubscribes_spaced_early :
    ∃ subscriber history, subscribing.exec (calledAt 0) startedEarly = some (subscriber, history) ∧
      ∃ now delay, history[4]? = some (.waits now delay) ∧ delay = fromSecs 2 := by
  have runs : ∃ subscriber history now delay,
      subscribing.exec (calledAt 0) startedEarly = some (subscriber, history) ∧
        history[4]? = some (.waits now delay) ∧ waitsSince (history.take 4) = 1 :=
    ⟨_, _, _, _, rfl, rfl, rfl⟩
  obtain ⟨subscriber, history, now, delay, executed, waits, once⟩ := runs
  have initial : subscribing.Initial (calledAt 0) := ⟨rfl, rfl, rfl, rfl, rfl⟩
  have spaced := (resubscribes_spaced (Machine.reaches_of_exec initial executed)).1 _ now delay _
    (split_at waits)
  rw [once] at spaced
  exact ⟨subscriber, history, executed, now, delay, waits, spaced⟩

/-! ## The end -/

theorem reaches_returned (run : subscribing.Reaches subscriber history)
    (returned : subscriber.phase = .returned) : subscriber.shutdown = true := by
  have kept : subscriber.phase = .returned → subscriber.shutdown = true := by
    apply run.invariant
    · rintro start ⟨phase, _⟩ finished
      rw [phase] at finished
      contradiction
    · intro before earlier event after seen _ kept taken finished
      cases subscriber_step_cases taken with
      | published | registered | lost | subscribed | told | slept => exact kept finished
      | shutDown => rfl
      | stopped now down => exact down
      | woken deadline now down => exact down
      | polled | yielded | waited | retried => contradiction
  exact kept returned

end RustGameserver.Db
