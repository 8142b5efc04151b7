import Mathlib.Data.List.Basic
import RustGameserver.Foundation.History
import RustGameserver.Foundation.Machine

/-!
Contract: one subscriber of a channel that keeps no message for those who are not there.

Owns:
- a subscription with the messages that are on their way to it, and its machine;
- that messages arrive in the order of their publication, each at most once and with none
  left out in between;
- that none is missing while the connection holds.

Does not own: who publishes, and what becomes of a message.
-/

namespace RustGameserver.Foundation

universe u

variable {Message : Type u}

/-- A subscriber: without a subscription, with one, or with what is left of one whose
connection is lost. -/
inductive Subscription (Message : Type u) where
  | absent
  | active (inFlight : List Message)
  | broken (inFlight : List Message)
deriving DecidableEq, Repr

inductive ChannelEvent (Message : Type u) where
  | publish (message : Message)
  | subscribe
  /-- The next message arrives. -/
  | arrive
  /-- The connection is lost, and with it what has not got through. -/
  | lose (through : Nat)
  | close
deriving DecidableEq, Repr

inductive ChannelSeen (Message : Type u) where
  | published (message : Message)
  | subscribed
  | arrived (message : Message)
  | lost
  | closed
deriving DecidableEq, Repr

namespace Subscription

variable (subscription : Subscription Message)

/-- The messages that can still arrive. -/
def inFlight : List Message :=
  match subscription with
  | .absent => []
  | .active inFlight | .broken inFlight => inFlight

def publish (message : Message) : Subscription Message :=
  match subscription with
  | .active inFlight => .active (inFlight ++ [message])
  | .absent | .broken _ => subscription

/-- The next message and what is left. -/
def arrive : Option (Message × Subscription Message) :=
  match subscription with
  | .active (message :: rest) => some (message, .active rest)
  | .broken (message :: rest) => some (message, .broken rest)
  | .absent | .active [] | .broken [] => none

def step (subscription : Subscription Message) :
    ChannelEvent Message → Option (Subscription Message × List (ChannelSeen Message))
  | .publish message => some (subscription.publish message, [.published message])
  | .subscribe =>
      match subscription with
      | .absent => some (.active [], [.subscribed])
      | .active _ | .broken _ => none
  | .arrive =>
      match subscription.arrive with
      | some (message, rest) => some (rest, [.arrived message])
      | none => none
  | .lose through =>
      match subscription with
      | .active inFlight => some (.broken (inFlight.take through), [.lost])
      | .absent | .broken _ => none
  | .close => some (.absent, [.closed])

/-- What one step can do. -/
inductive Stepped (before : Subscription Message) :
    Subscription Message → List (ChannelSeen Message) → Prop where
  | published (message : Message) : Stepped before (before.publish message) [.published message]
  | subscribed (absent : before = .absent) : Stepped before (.active []) [.subscribed]
  | arrived (message : Message) (rest : Subscription Message)
      (next : before.arrive = some (message, rest)) : Stepped before rest [.arrived message]
  | lost (inFlight : List Message) (through : Nat) (active : before = .active inFlight) :
      Stepped before (.broken (inFlight.take through)) [.lost]
  | closed : Stepped before .absent [.closed]

end Subscription

/-- The runs of one subscriber. -/
def channel (Message : Type u) :
    Machine (Subscription Message) (ChannelEvent Message) (ChannelSeen Message) where
  Initial := fun subscription => subscription = .absent
  step := Subscription.step

variable {before after subscription : Subscription Message} {event : ChannelEvent Message}
  {history seen : List (ChannelSeen Message)}

theorem channel_step_cases (taken : (channel Message).step before event = some (after, seen)) :
    before.Stepped after seen := by
  cases event with
  | publish message =>
      cases taken
      exact .published message
  | subscribe =>
      simp only [channel, Subscription.step] at taken
      split at taken
      · cases taken
        exact .subscribed rfl
      · contradiction
      · contradiction
  | arrive =>
      simp only [channel, Subscription.step] at taken
      split at taken
      · next message rest next =>
          cases taken
          exact .arrived message _ next
      · contradiction
  | lose through =>
      simp only [channel, Subscription.step] at taken
      split at taken
      · next inFlight =>
          cases taken
          exact .lost inFlight through rfl
      · contradiction
      · contradiction
  | close =>
      cases taken
      exact .closed

namespace Subscription

/-- What comes to be in flight is what is published. -/
theorem mem_publish {message other : Message}
    (member : other ∈ (subscription.publish message).inFlight) :
    other ∈ subscription.inFlight ∨ other = message := by
  cases subscription with
  | absent => contradiction
  | active inFlight =>
      rcases List.mem_append.mp member with before | new
      · exact .inl before
      · exact .inr (List.mem_singleton.mp new)
  | broken inFlight => exact .inl member

/-- What arrives was the first of what was in flight. -/
theorem inFlight_arrive {message : Message} {rest : Subscription Message}
    (next : before.arrive = some (message, rest)) :
    before.inFlight = message :: rest.inFlight ∧
      ∀ inFlight, rest = .active inFlight → before = .active (message :: inFlight) := by
  cases before with
  | absent => contradiction
  | active list =>
      cases list with
      | nil => contradiction
      | cons head tail =>
          cases next
          refine ⟨rfl, ?_⟩
          intro inFlight same
          rw [Subscription.active.inj same]
  | broken list =>
      cases list with
      | nil => contradiction
      | cons head tail =>
          cases next
          exact ⟨rfl, nofun⟩

end Subscription

/-! ## The account of a run -/

def ChannelSeen.publication : ChannelSeen Message → Option Message
  | .published message => some message
  | _ => none

def ChannelSeen.arrival : ChannelSeen Message → Option Message
  | .arrived message => some message
  | _ => none

/-- Everything published. -/
def publications (history : List (ChannelSeen Message)) : List Message :=
  history.filterMap ChannelSeen.publication

/-- Everything that has arrived. -/
def arrivals (history : List (ChannelSeen Message)) : List Message :=
  history.filterMap ChannelSeen.arrival

/-- What has been seen since the last subscription. -/
def sinceSubscribed (history : List (ChannelSeen Message)) : List (ChannelSeen Message) :=
  history.foldl
    (fun since entry =>
      match entry with
      | .subscribed => []
      | _ => since ++ [entry])
    []

section Account

theorem sinceSubscribed_snoc (history : List (ChannelSeen Message)) (entry : ChannelSeen Message)
    (later : entry ≠ .subscribed) :
    sinceSubscribed (history ++ [entry]) = sinceSubscribed history ++ [entry] := by
  rw [sinceSubscribed, List.foldl_append]
  cases entry with
  | subscribed => contradiction
  | _ => rfl

theorem sinceSubscribed_subscribed (history : List (ChannelSeen Message)) :
    sinceSubscribed (history ++ [.subscribed]) = [] := by
  rw [sinceSubscribed, List.foldl_append]
  rfl

theorem publications_append (history more : List (ChannelSeen Message)) :
    publications (history ++ more) = publications history ++ publications more :=
  List.filterMap_append

theorem arrivals_append (history more : List (ChannelSeen Message)) :
    arrivals (history ++ more) = arrivals history ++ arrivals more :=
  List.filterMap_append

end Account

/-- The message that arrives is the next of those published since the subscription. -/
def NextInOrder (earlier : List (ChannelSeen Message)) : ChannelSeen Message → Prop
  | .arrived message =>
      ∃ later, publications (sinceSubscribed earlier) =
        arrivals (sinceSubscribed earlier) ++ message :: later
  | _ => True

/-- A subscriber and what it has been told agree. -/
structure InOrder (subscription : Subscription Message) (history : List (ChannelSeen Message)) :
    Prop where
  /-- What was published since the subscription has arrived, is in flight or is missing, in
  this order; and nothing is missing while the connection holds. -/
  account : ∃ missing, publications (sinceSubscribed history) =
      arrivals (sinceSubscribed history) ++ (subscription.inFlight ++ missing) ∧
    (∀ inFlight, subscription = .active inFlight → missing = [])
  overall : (arrivals history ++ subscription.inFlight).Sublist (publications history)
  ordered : Justified NextInOrder history

namespace InOrder

variable (inOrder : InOrder before history)

include inOrder

theorem published (message : Message) :
    InOrder (before.publish message) (history ++ [.published message]) where
  account := by
    obtain ⟨missing, account, complete⟩ := inOrder.account
    rw [sinceSubscribed_snoc history (.published message) nofun, publications_append,
      arrivals_append, account]
    show ∃ left, _ ++ [message] = (_ ++ []) ++ _ ∧ _
    cases before with
    | absent => exact ⟨missing ++ [message], by simp [Subscription.publish], nofun⟩
    | active inFlight =>
        rw [complete inFlight rfl]
        exact ⟨[], by simp [Subscription.publish, Subscription.inFlight], fun _ _ => rfl⟩
    | broken inFlight => exact ⟨missing ++ [message], by simp [Subscription.publish], nofun⟩
  overall := by
    rw [publications_append, arrivals_append]
    show ((_ ++ []) ++ _).Sublist (_ ++ [message])
    rw [List.append_nil]
    cases before with
    | absent => exact inOrder.overall.trans (List.sublist_append_left _ _)
    | active inFlight =>
        have grown := inOrder.overall.append_right [message]
        rwa [List.append_assoc] at grown
    | broken inFlight => exact inOrder.overall.trans (List.sublist_append_left _ _)
  ordered := inOrder.ordered.snoc trivial

theorem subscribed : InOrder (.active []) (history ++ [.subscribed]) where
  account := by
    rw [sinceSubscribed_subscribed]
    exact ⟨[], rfl, fun _ _ => rfl⟩
  overall := by
    rw [publications_append, arrivals_append]
    show ((_ ++ []) ++ []).Sublist (_ ++ [])
    rw [List.append_nil, List.append_nil, List.append_nil]
    exact (List.sublist_append_left _ _).trans inOrder.overall
  ordered := inOrder.ordered.snoc trivial

theorem arrived {message : Message} {rest : Subscription Message}
    (next : before.arrive = some (message, rest)) :
    InOrder rest (history ++ [.arrived message]) := by
  obtain ⟨first, kind⟩ := Subscription.inFlight_arrive next
  obtain ⟨missing, account, complete⟩ := inOrder.account
  rw [first] at account
  constructor
  · refine ⟨missing, ?_, fun inFlight active => complete _ (kind inFlight active)⟩
    rw [sinceSubscribed_snoc history (.arrived message) nofun, publications_append,
      arrivals_append, account]
    show (_ ++ (message :: _ ++ _)) ++ [] = (_ ++ [message]) ++ _
    simp
  · have overall := inOrder.overall
    rw [first] at overall
    rw [publications_append, arrivals_append]
    show ((_ ++ [message]) ++ _).Sublist (_ ++ [])
    rwa [List.append_nil, List.append_assoc]
  · exact inOrder.ordered.snoc ⟨rest.inFlight ++ missing, account⟩

theorem lost {inFlight : List Message} (active : before = .active inFlight) (through : Nat) :
    InOrder (.broken (inFlight.take through)) (history ++ [.lost]) where
  account := by
    obtain ⟨missing, account, _⟩ := inOrder.account
    rw [active] at account
    refine ⟨inFlight.drop through ++ missing, ?_, nofun⟩
    rw [sinceSubscribed_snoc history .lost nofun, publications_append, arrivals_append, account]
    show (_ ++ (inFlight ++ missing)) ++ [] = (_ ++ []) ++ (inFlight.take through ++ _)
    rw [← List.append_assoc (inFlight.take through), List.take_append_drop]
    simp
  overall := by
    have overall := inOrder.overall
    rw [active] at overall
    rw [publications_append, arrivals_append]
    show ((_ ++ []) ++ inFlight.take through).Sublist (_ ++ [])
    rw [List.append_nil, List.append_nil]
    exact ((List.take_sublist through inFlight).append_left _).trans overall
  ordered := inOrder.ordered.snoc trivial

theorem closed : InOrder .absent (history ++ [.closed]) where
  account := by
    obtain ⟨missing, account, _⟩ := inOrder.account
    refine ⟨before.inFlight ++ missing, ?_, nofun⟩
    rw [sinceSubscribed_snoc history .closed nofun, publications_append, arrivals_append, account]
    show (_ ++ _) ++ [] = (_ ++ []) ++ ([] ++ _)
    simp
  overall := by
    rw [publications_append, arrivals_append]
    show ((_ ++ []) ++ []).Sublist (_ ++ [])
    rw [List.append_nil, List.append_nil, List.append_nil]
    exact (List.sublist_append_left _ _).trans inOrder.overall
  ordered := inOrder.ordered.snoc trivial

theorem stepped (stepped : before.Stepped after seen) : InOrder after (history ++ seen) := by
  cases stepped with
  | published message => exact inOrder.published message
  | subscribed => exact inOrder.subscribed
  | arrived message rest next => exact inOrder.arrived next
  | lost inFlight through active => exact inOrder.lost active through
  | closed => exact inOrder.closed

end InOrder

theorem reaches_inOrder (run : (channel Message).Reaches subscription history) :
    InOrder subscription history := by
  apply run.invariant
  · rintro start rfl
    exact ⟨⟨[], rfl, fun _ _ => rfl⟩, List.Sublist.refl [], .nil⟩
  · intro start earlier event next made _ inOrder taken
    exact inOrder.stepped (channel_step_cases taken)

end RustGameserver.Foundation
