import Mathlib.Data.List.Perm.Basic
import Mathlib.Data.List.Nodup
import RustGameserver.Foundation.Machine

/-!
Contract: a counting semaphore that hands its permits out in the order of the requests.

Owns:
- the semaphore, in which nobody waits while a permit is free and no more than the
  permits are held, by construction;
- its two operations and the machine of its runs;
- the account of a run: who has asked, who has been let in, who is done;
- that a request waits for as many releases as there are requests before it, and one more.

Does not own: what is done with a permit.
-/

namespace RustGameserver.Foundation

universe u

variable {Waiter : Type u} {permits : Nat}

/-- A semaphore with those who hold its permits and those who wait for one. -/
structure FairSemaphore (Waiter : Type u) (permits : Nat) where
  holders : List Waiter
  queue : List Waiter
  bounded : holders.length ≤ permits
  busy : queue ≠ [] → holders.length = permits

inductive PermitTurn (Waiter : Type u) where
  | acquire (waiter : Waiter)
  | release (waiter : Waiter)
deriving DecidableEq, Repr

inductive PermitSeen (Waiter : Type u) where
  | requested (waiter : Waiter)
  | granted (waiter : Waiter)
  | released (waiter : Waiter)
deriving DecidableEq, Repr

namespace FairSemaphore

def new (Waiter : Type u) (permits : Nat) : FairSemaphore Waiter permits where
  holders := []
  queue := []
  bounded := Nat.zero_le _
  busy := nofun

variable (semaphore : FairSemaphore Waiter permits)

def acquire (waiter : Waiter) : FairSemaphore Waiter permits × List (PermitSeen Waiter) :=
  if free : semaphore.holders.length < permits then
    ({ semaphore with
      holders := semaphore.holders ++ [waiter]
      bounded := by rw [List.length_append]; exact free
      busy := fun waits => absurd (semaphore.busy waits) (Nat.ne_of_lt free) },
      [.requested waiter, .granted waiter])
  else
    ({ semaphore with
      queue := semaphore.queue ++ [waiter]
      busy := fun _ => Nat.le_antisymm semaphore.bounded (Nat.le_of_not_lt free) },
      [.requested waiter])

variable [DecidableEq Waiter]

/-- A permit that is handed on is neither gained nor lost. -/
theorem handed_length {holders : List Waiter} {waiter : Waiter} (held : waiter ∈ holders)
    (next : Waiter) : (holders.erase waiter ++ [next]).length = holders.length := by
  have positive := List.length_pos_of_mem held
  rw [List.length_append, List.length_erase_of_mem held, List.length_singleton]
  omega

/-- The permit goes to the first who waits. -/
def release (waiter : Waiter) (held : waiter ∈ semaphore.holders) :
    FairSemaphore Waiter permits × List (PermitSeen Waiter) :=
  match waiting : semaphore.queue with
  | [] =>
      ({ holders := semaphore.holders.erase waiter
         queue := []
         bounded := Nat.le_trans List.length_erase_le semaphore.bounded
         busy := nofun },
        [.released waiter])
  | next :: rest =>
      ({ holders := semaphore.holders.erase waiter ++ [next]
         queue := rest
         bounded := Nat.le_trans (Nat.le_of_eq (handed_length held next)) semaphore.bounded
         busy := fun _ => (handed_length held next).trans
           (semaphore.busy (waiting ▸ List.cons_ne_nil next rest)) },
        [.released waiter, .granted next])

/-- Nobody asks again before the permit is given back. -/
def step : PermitTurn Waiter → Option (FairSemaphore Waiter permits × List (PermitSeen Waiter))
  | .acquire waiter =>
      if waiter ∉ semaphore.holders ∧ waiter ∉ semaphore.queue then
        some (semaphore.acquire waiter)
      else none
  | .release waiter =>
      if held : waiter ∈ semaphore.holders then some (semaphore.release waiter held) else none

end FairSemaphore

/-- A semaphore as a machine. -/
def turns (Waiter : Type u) [DecidableEq Waiter] (permits : Nat) :
    Machine (FairSemaphore Waiter permits) (PermitTurn Waiter) (PermitSeen Waiter) where
  Initial := fun semaphore => semaphore = .new Waiter permits
  step := fun semaphore turn => semaphore.step turn

namespace PermitSeen

def request : PermitSeen Waiter → Option Waiter
  | .requested waiter => some waiter
  | .granted _ | .released _ => none

def grant : PermitSeen Waiter → Option Waiter
  | .granted waiter => some waiter
  | .requested _ | .released _ => none

def giveBack : PermitSeen Waiter → Option Waiter
  | .released waiter => some waiter
  | .requested _ | .granted _ => none

end PermitSeen

/-- Those who have asked, in order. -/
def requested (history : List (PermitSeen Waiter)) : List Waiter :=
  history.filterMap PermitSeen.request

/-- Those who have been let in, in order. -/
def granted (history : List (PermitSeen Waiter)) : List Waiter :=
  history.filterMap PermitSeen.grant

/-- Those who have given their permit back, in order. -/
def released (history : List (PermitSeen Waiter)) : List Waiter :=
  history.filterMap PermitSeen.giveBack

section Reading

variable (history more : List (PermitSeen Waiter))

theorem requested_append : requested (history ++ more) = requested history ++ requested more :=
  List.filterMap_append

theorem granted_append : granted (history ++ more) = granted history ++ granted more :=
  List.filterMap_append

theorem released_append : released (history ++ more) = released history ++ released more :=
  List.filterMap_append

end Reading

variable [DecidableEq Waiter] {before after semaphore : FairSemaphore Waiter permits}
  {turn : PermitTurn Waiter} {history seen : List (PermitSeen Waiter)}

/-- What one turn does. -/
inductive Turned (before : FairSemaphore Waiter permits) :
    PermitTurn Waiter → FairSemaphore Waiter permits → List (PermitSeen Waiter) → Prop where
  | enters {after : FairSemaphore Waiter permits} (waiter : Waiter)
      (outside : waiter ∉ before.holders ∧ waiter ∉ before.queue)
      (nobody : before.queue = [])
      (holders : after.holders = before.holders ++ [waiter]) (queue : after.queue = []) :
      Turned before (.acquire waiter) after [.requested waiter, .granted waiter]
  | waits {after : FairSemaphore Waiter permits} (waiter : Waiter)
      (outside : waiter ∉ before.holders ∧ waiter ∉ before.queue)
      (holders : after.holders = before.holders)
      (queue : after.queue = before.queue ++ [waiter]) :
      Turned before (.acquire waiter) after [.requested waiter]
  | leaves {after : FairSemaphore Waiter permits} (waiter : Waiter)
      (held : waiter ∈ before.holders) (nobody : before.queue = [])
      (holders : after.holders = before.holders.erase waiter) (queue : after.queue = []) :
      Turned before (.release waiter) after [.released waiter]
  | hands {after : FairSemaphore Waiter permits} (waiter next : Waiter) (rest : List Waiter)
      (held : waiter ∈ before.holders) (first : before.queue = next :: rest)
      (holders : after.holders = before.holders.erase waiter ++ [next])
      (queue : after.queue = rest) :
      Turned before (.release waiter) after [.released waiter, .granted next]

theorem turn_cases (taken : (turns Waiter permits).step before turn = some (after, seen)) :
    Turned before turn after seen := by
  cases turn with
  | acquire waiter =>
      simp only [turns, FairSemaphore.step, Option.ite_none_right_eq_some,
        Option.some.injEq] at taken
      obtain ⟨outside, taken⟩ := taken
      unfold FairSemaphore.acquire at taken
      split at taken
      · next free =>
          have nobody : before.queue = [] := by
            by_contra waits
            exact absurd (before.busy waits) (Nat.ne_of_lt free)
          cases taken
          exact .enters waiter outside nobody rfl nobody
      · cases taken
        exact .waits waiter outside rfl rfl
  | release waiter =>
      simp only [turns, FairSemaphore.step] at taken
      split at taken
      · next held =>
          rw [Option.some.injEq] at taken
          unfold FairSemaphore.release at taken
          split at taken
          · next nobody =>
              cases taken
              exact .leaves waiter held nobody rfl rfl
          · next next rest first =>
              cases taken
              exact .hands waiter next rest held first rfl rfl
      · contradiction

/-! ## The account of a run -/

/-- Requests are granted in their order, and permits are with those who were let in last. -/
structure Fair (semaphore : FairSemaphore Waiter permits) (history : List (PermitSeen Waiter)) :
    Prop where
  distinct : (semaphore.holders ++ semaphore.queue).Nodup
  inOrder : requested history = granted history ++ semaphore.queue
  given : (granted history).Perm (released history ++ semaphore.holders)

namespace Fair

variable (fair : Fair before history) {waiter next : Waiter} {rest : List Waiter}

include fair

omit [DecidableEq Waiter] in
theorem enters (outside : waiter ∉ before.holders ∧ waiter ∉ before.queue)
    (nobody : before.queue = []) (holders : after.holders = before.holders ++ [waiter])
    (queue : after.queue = []) :
    Fair after (history ++ [.requested waiter, .granted waiter]) := by
  obtain ⟨distinct, inOrder, given⟩ := fair
  rw [nobody, List.append_nil] at distinct inOrder
  constructor
  · rw [holders, queue, List.append_nil]
    exact distinct.append (List.nodup_singleton waiter) (by simpa using outside.1)
  · rw [requested_append, granted_append, queue, List.append_nil, inOrder]
    rfl
  · rw [granted_append, released_append, holders]
    show (granted history ++ [waiter]).Perm (released history ++ [] ++ _)
    rw [List.append_nil, ← List.append_assoc]
    exact given.append_right [waiter]

omit [DecidableEq Waiter] in
theorem waits (outside : waiter ∉ before.holders ∧ waiter ∉ before.queue)
    (holders : after.holders = before.holders) (queue : after.queue = before.queue ++ [waiter]) :
    Fair after (history ++ [.requested waiter]) := by
  obtain ⟨distinct, inOrder, given⟩ := fair
  constructor
  · rw [holders, queue, ← List.append_assoc]
    exact distinct.append (List.nodup_singleton waiter) (by simpa using outside)
  · rw [requested_append, granted_append, queue, inOrder, ← List.append_assoc]
    show _ = granted history ++ [] ++ before.queue ++ [waiter]
    rw [List.append_nil]
    rfl
  · rw [granted_append, released_append, holders]
    show (granted history ++ []).Perm (released history ++ [] ++ _)
    rw [List.append_nil, List.append_nil]
    exact given

theorem gives (held : waiter ∈ before.holders) :
    (granted history).Perm (released history ++ [waiter] ++ before.holders.erase waiter) := by
  rw [List.append_assoc, List.singleton_append]
  exact fair.given.trans ((List.perm_cons_erase held).append_left _)

theorem leaves (held : waiter ∈ before.holders) (nobody : before.queue = [])
    (holders : after.holders = before.holders.erase waiter) (queue : after.queue = []) :
    Fair after (history ++ [.released waiter]) := by
  have given := fair.gives held
  obtain ⟨distinct, inOrder, _⟩ := fair
  rw [nobody, List.append_nil] at distinct inOrder
  constructor
  · rw [holders, queue, List.append_nil]
    exact distinct.erase waiter
  · rw [requested_append, granted_append, queue, List.append_nil, inOrder]
    rfl
  · rw [granted_append, released_append, holders]
    show (granted history ++ []).Perm (released history ++ [waiter] ++ _)
    rw [List.append_nil]
    exact given

theorem hands (held : waiter ∈ before.holders) (first : before.queue = next :: rest)
    (holders : after.holders = before.holders.erase waiter ++ [next])
    (queue : after.queue = rest) :
    Fair after (history ++ [.released waiter, .granted next]) := by
  have given := fair.gives held
  obtain ⟨distinct, inOrder, _⟩ := fair
  rw [first] at distinct inOrder
  constructor
  · rw [holders, queue, List.append_assoc, List.singleton_append]
    exact distinct.sublist (List.erase_sublist.append_right _)
  · rw [requested_append, granted_append, queue, inOrder]
    show granted history ++ next :: rest ++ [] = granted history ++ [next] ++ rest
    rw [List.append_nil, List.append_assoc, List.singleton_append]
  · rw [granted_append, released_append, holders, ← List.append_assoc]
    exact given.append_right [next]

end Fair

theorem reaches_fair (run : (turns Waiter permits).Reaches semaphore history) :
    Fair semaphore history := by
  apply run.invariant
  · rintro start rfl
    exact ⟨List.nodup_nil, rfl, List.Perm.refl _⟩
  · intro before history turn after seen _ fair taken
    cases turn_cases taken with
    | enters waiter outside nobody holders queue => exact fair.enters outside nobody holders queue
    | waits waiter outside holders queue => exact fair.waits outside holders queue
    | leaves waiter held nobody holders queue => exact fair.leaves held nobody holders queue
    | hands waiter next rest held first holders queue => exact fair.hands held first holders queue

/-- Who acquires is inside afterwards, waiting or not. -/
theorem acquire_inside {waiter : Waiter} (turned : Turned before (.acquire waiter) after seen)
    (other : Waiter) : other ∈ after.holders ++ after.queue ↔
      other = waiter ∨ other ∈ before.holders ++ before.queue := by
  cases turned with
  | enters _ outside nobody holders queue =>
      rw [holders, queue, nobody, List.append_nil, List.append_nil, List.mem_append,
        List.mem_singleton, or_comm]
  | waits _ outside holders queue =>
      rw [holders, queue, ← List.append_assoc, List.mem_append, List.mem_singleton, or_comm]

/-- Who releases is outside afterwards, and nobody else. -/
theorem release_inside {waiter : Waiter} (fair : Fair before history)
    (turned : Turned before (.release waiter) after seen) (other : Waiter) :
    other ∈ after.holders ++ after.queue ↔
      other ≠ waiter ∧ other ∈ before.holders ++ before.queue := by
  have distinct := fair.distinct
  have erased : other ∈ (before.holders ++ before.queue).erase waiter ↔
      other ≠ waiter ∧ other ∈ before.holders ++ before.queue := distinct.mem_erase_iff
  cases turned with
  | leaves _ held nobody holders queue =>
      rw [← erased, List.erase_append_left _ held, holders, queue, nobody]
  | hands _ next rest held first holders queue =>
      rw [← erased, List.erase_append_left _ held, holders, queue, first, List.append_assoc,
        List.singleton_append]

/-- Who waits is let in when those before it have been, whoever else asks. -/
theorem waits_turn {script : List (PermitTurn Waiter)} {place : Nat} {waiter : Waiter}
    (executed : (turns Waiter permits).exec before script = some (after, seen))
    (waits : before.queue[place]? = some waiter) (enough : place < (released seen).length) :
    waiter ∈ granted seen := by
  induction script generalizing before seen place with
  | nil =>
      rw [Machine.exec, Option.some.injEq, Prod.mk.injEq] at executed
      rw [← executed.2] at enough
      exact absurd enough (Nat.not_lt_zero place)
  | cons turn others inductionHypothesis =>
      obtain ⟨middle, first, later, taken, tail, rfl⟩ := Machine.exec_cons executed
      rw [released_append, List.length_append] at enough
      rw [granted_append, List.mem_append]
      cases turn_cases taken with
      | enters other outside nobody | leaves other held nobody =>
          rw [nobody] at waits
          contradiction
      | waits other outside holders queue =>
          have still : middle.queue[place]? = some waiter := by
            rw [queue, List.getElem?_append_left (List.getElem?_eq_some_iff.mp waits).1]
            exact waits
          have nothing : (released [PermitSeen.requested other]).length = 0 := rfl
          exact .inr (inductionHypothesis tail still (by omega))
      | hands other next rest held front holders queue =>
          rw [front] at waits
          cases place with
          | zero =>
              rw [List.getElem?_cons_zero, Option.some.injEq] at waits
              rw [waits]
              exact .inl List.mem_cons_self
          | succ place =>
              rw [List.getElem?_cons_succ, ← queue] at waits
              have one : (released [.released other, PermitSeen.granted next]).length = 1 := rfl
              exact .inr (inductionHypothesis tail waits (by omega))

end RustGameserver.Foundation
