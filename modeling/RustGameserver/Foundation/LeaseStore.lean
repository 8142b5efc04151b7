import RustGameserver.Foundation.FiniteMap
import RustGameserver.Foundation.History
import RustGameserver.Foundation.Machine

/-!
Contract: a key-value store whose entries are written under new keys, live for a time
that can be renewed, and can be removed.

Owns:
- the store as a machine, each of its commands one step;
- that a value that is read was written, and neither removed nor expired since;
- that nothing is read any more under a key that was removed.

Does not own: where keys and values come from.
-/

namespace RustGameserver.Foundation

universe u v

structure Lease (Value : Type v) where
  value : Value
  expiresAt : Nat

/-- The entries, the keys written so far, and the clock of the store. -/
structure LeaseStore (Key : Type u) (Value : Type v) where
  leases : FiniteMap Key (Lease Value)
  used : List Key
  now : Nat

/-- A command to the store, the end of an entry's lifetime, or the passing of time. -/
inductive LeaseCall (Key : Type u) (Value : Type v) where
  | put (key : Key) (value : Value) (ttl : Nat)
  | read (key : Key)
  | renew (key : Key) (ttl : Nat)
  | remove (key : Key)
  | expire (key : Key)
  | elapse (now : Nat)

inductive LeaseSeen (Key : Type u) (Value : Type v) where
  | put (key : Key) (value : Value) (deadline : Nat)
  | read (key : Key) (value : Value) (now : Nat)
  | renewed (key : Key) (deadline now : Nat)
  | removed (key : Key)
  | expired (key : Key)

namespace LeaseStore

variable {Key : Type u} {Value : Type v} [DecidableEq Key]

/-- The entry under the key, unless its time is over. -/
def live (store : LeaseStore Key Value) (key : Key) : Option (Lease Value) :=
  (store.leases.get key).filter fun lease => store.now < lease.expiresAt

/-- Renewing an entry that is not there does nothing. -/
def step (store : LeaseStore Key Value) :
    LeaseCall Key Value → Option (LeaseStore Key Value × List (LeaseSeen Key Value))
  | .put key value ttl =>
      if key ∉ store.used then
        some ({ store with
          leases := store.leases.insert key ⟨value, store.now + ttl⟩
          used := key :: store.used },
          [.put key value (store.now + ttl)])
      else none
  | .read key =>
      match store.live key with
      | some lease => some (store, [.read key lease.value store.now])
      | none => some (store, [])
  | .renew key ttl =>
      match store.live key with
      | some lease =>
          some ({ store with
            leases := store.leases.insert key { lease with expiresAt := store.now + ttl } },
            [.renewed key (store.now + ttl) store.now])
      | none => some (store, [])
  | .remove key => some ({ store with leases := store.leases.remove key }, [.removed key])
  | .expire key => some ({ store with leases := store.leases.remove key }, [.expired key])
  | .elapse now => if store.now ≤ now then some ({ store with now }, []) else none

/-- The store as a machine. -/
def machine : Machine (LeaseStore Key Value) (LeaseCall Key Value) (LeaseSeen Key Value) where
  Initial := fun store => store.leases = .empty ∧ store.used = []
  step := step

end LeaseStore

namespace LeaseStore

variable {Key : Type u} {Value : Type v} [DecidableEq Key]

/-! ## What a history says about a key -/

section Lasting

/-- The deadline of an entry after one more observation, unless the entry is gone. It is
gone also if its time was over when it was renewed. -/
def prolong (key : Key) (deadline : Nat) : LeaseSeen Key Value → Option Nat
  | .renewed other later now =>
      if other = key then
        if now < deadline then some later else none
      else some deadline
  | .removed other | .expired other => if other = key then none else some deadline
  | .put .. | .read .. => some deadline

/-- The deadline of an entry written with a first deadline, after these observations. -/
def lasting (key : Key) (first : Nat) (between : List (LeaseSeen Key Value)) : Option Nat :=
  between.foldl (fun deadline seen => deadline.bind fun current => prolong key current seen)
    (some first)

variable {key : Key} {value : Value} {first deadline : Nat}
  {between history : List (LeaseSeen Key Value)}

theorem lasting_snoc (between : List (LeaseSeen Key Value)) (seen : LeaseSeen Key Value) :
    lasting key first (between ++ [seen]) =
      (lasting key first between).bind fun current => prolong key current seen := by
  simp [lasting, List.foldl_append]

theorem foldl_prolong_none (between : List (LeaseSeen Key Value)) :
    between.foldl (fun deadline seen => deadline.bind fun current => prolong key current seen)
      none = none := by
  induction between with
  | nil => rfl
  | cons seen rest inductionHypothesis => exact inductionHypothesis

/-- An entry that lasts has not been removed. -/
theorem unremoved_of_lasting (lasts : lasting key first between = some deadline) :
    .removed key ∉ between := by
  intro member
  obtain ⟨front, back, rfl⟩ := List.append_of_mem member
  rw [List.append_cons, lasting, List.foldl_append, ← lasting, lasting_snoc] at lasts
  cases shape : lasting key first front with
  | none =>
      rw [shape, Option.bind_none, foldl_prolong_none] at lasts
      contradiction
  | some current =>
      have gone : prolong key current (.removed key : LeaseSeen Key Value) = none := if_pos rfl
      rw [shape, Option.bind_some, gone, foldl_prolong_none] at lasts
      contradiction

/-- The value was written under the key and has been there since, at the end up to the
deadline. -/
def Holds (history : List (LeaseSeen Key Value)) (key : Key) (value : Value)
    (deadline : Nat) : Prop :=
  ∃ before between first, history = before ++ .put key value first :: between ∧
    lasting key first between = some deadline

theorem Holds.snoc (holds : Holds history key value deadline) {seen : LeaseSeen Key Value}
    {later : Nat} (prolongs : prolong key deadline seen = some later) :
    Holds (history ++ [seen]) key value later := by
  obtain ⟨before, between, first, rfl, lasts⟩ := holds
  refine ⟨before, between ++ [seen], first, by simp, ?_⟩
  rw [lasting_snoc, lasts]
  exact prolongs

end Lasting

variable {store after : LeaseStore Key Value} {history seen : List (LeaseSeen Key Value)}

/-- What one step can do. -/
inductive Stepped (store : LeaseStore Key Value) :
    LeaseCall Key Value → LeaseStore Key Value → List (LeaseSeen Key Value) → Prop where
  | put (key : Key) (value : Value) (ttl : Nat) (fresh : key ∉ store.used) :
      Stepped store (.put key value ttl)
        { store with
          leases := store.leases.insert key ⟨value, store.now + ttl⟩
          used := key :: store.used }
        [.put key value (store.now + ttl)]
  | read {lease : Lease Value} (key : Key) (present : store.leases.get key = some lease)
      (alive : store.now < lease.expiresAt) :
      Stepped store (.read key) store [.read key lease.value store.now]
  | renew {lease : Lease Value} (key : Key) (ttl : Nat)
      (present : store.leases.get key = some lease) (alive : store.now < lease.expiresAt) :
      Stepped store (.renew key ttl)
        { store with
          leases := store.leases.insert key { lease with expiresAt := store.now + ttl } }
        [.renewed key (store.now + ttl) store.now]
  | miss {call : LeaseCall Key Value} (key : Key)
      (asked : call = .read key ∨ ∃ ttl, call = .renew key ttl)
      (absent : store.live key = none) : Stepped store call store []
  | remove (key : Key) :
      Stepped store (.remove key) { store with leases := store.leases.remove key } [.removed key]
  | expire (key : Key) :
      Stepped store (.expire key) { store with leases := store.leases.remove key } [.expired key]
  | elapse (now : Nat) (later : store.now ≤ now) :
      Stepped store (.elapse now) { store with now } []

theorem live_some {key : Key} {lease : Lease Value} (found : store.live key = some lease) :
    store.leases.get key = some lease ∧ store.now < lease.expiresAt := by
  rw [live, Option.filter_eq_some_iff, decide_eq_true_eq] at found
  exact found

theorem step_cases {call : LeaseCall Key Value} (taken : store.step call = some (after, seen)) :
    Stepped store call after seen := by
  cases call with
  | put key value ttl =>
      simp only [step, Option.ite_none_right_eq_some] at taken
      obtain ⟨fresh, outcome⟩ := taken
      cases outcome
      exact .put key value ttl fresh
  | read key =>
      simp only [step] at taken
      split at taken
      · next lease found =>
          cases taken
          exact .read key (live_some found).1 (live_some found).2
      · next absent =>
          cases taken
          exact .miss key (.inl rfl) absent
  | renew key ttl =>
      simp only [step] at taken
      split at taken
      · next lease found =>
          cases taken
          exact .renew key ttl (live_some found).1 (live_some found).2
      · next absent =>
          cases taken
          exact .miss key (.inr ⟨ttl, rfl⟩) absent
  | remove key =>
      cases taken
      exact .remove key
  | expire key =>
      cases taken
      exact .expire key
  | elapse now =>
      simp only [step, Option.ite_none_right_eq_some] at taken
      obtain ⟨later, outcome⟩ := taken
      cases outcome
      exact .elapse now later

/-- What the history tells about the content of the store. -/
structure Kept (store : LeaseStore Key Value) (history : List (LeaseSeen Key Value)) : Prop where
  leases : ∀ key lease, store.leases.get key = some lease →
    Holds history key lease.value lease.expiresAt
  used : ∀ key value deadline, .put key value deadline ∈ history → key ∈ store.used

namespace Kept

theorem put (kept : Kept store history) (key : Key) (value : Value) (deadline : Nat) :
    Kept { store with
      leases := store.leases.insert key ⟨value, deadline⟩
      used := key :: store.used } (history ++ [.put key value deadline]) := by
  constructor
  · intro other lease found
    rw [FiniteMap.get_insert] at found
    split at found
    · next same =>
        cases found
        rw [same]
        exact ⟨history, [], deadline, rfl, rfl⟩
    · exact (kept.leases other lease found).snoc rfl
  · intro other found later member
    rw [List.mem_append, List.mem_singleton] at member
    rcases member with member | same
    · exact List.mem_cons_of_mem _ (kept.used other found later member)
    · cases same
      exact List.mem_cons_self

theorem renew (kept : Kept store history) {key : Key} {lease : Lease Value}
    (present : store.leases.get key = some lease) (alive : store.now < lease.expiresAt)
    (deadline : Nat) :
    Kept { store with leases := store.leases.insert key { lease with expiresAt := deadline } }
      (history ++ [.renewed key deadline store.now]) := by
  constructor
  · intro other found lookup
    rw [FiniteMap.get_insert] at lookup
    split at lookup
    · next same =>
        cases lookup
        rw [same]
        apply (kept.leases key lease present).snoc
        rw [prolong, if_pos rfl, if_pos alive]
    · next different =>
        apply (kept.leases other found lookup).snoc
        rw [prolong, if_neg (Ne.symm different)]
  · intro other found later member
    exact kept.used other found later (by simpa using member)

/-- An entry leaves the store, as is observed. -/
theorem remove (kept : Kept store history) (key : Key) {entry : LeaseSeen Key Value}
    (observed : entry = .removed key ∨ entry = .expired key) :
    Kept { store with leases := store.leases.remove key } (history ++ [entry]) := by
  constructor
  · intro other lease lookup
    rw [FiniteMap.get_remove] at lookup
    split at lookup
    · contradiction
    · next different =>
        apply (kept.leases other lease lookup).snoc
        rcases observed with rfl | rfl
        · exact if_neg (Ne.symm different)
        · exact if_neg (Ne.symm different)
  · intro other found later member
    rcases observed with rfl | rfl
    · exact kept.used other found later (by simpa using member)
    · exact kept.used other found later (by simpa using member)

/-- A value is read, which changes nothing. -/
theorem read (kept : Kept store history) (key : Key) (value : Value) (now : Nat) :
    Kept store (history ++ [.read key value now]) := by
  constructor
  · intro other lease lookup
    exact (kept.leases other lease lookup).snoc rfl
  · intro other found later member
    exact kept.used other found later (by simpa using member)

theorem step (kept : Kept store history) {call : LeaseCall Key Value}
    (taken : store.step call = some (after, seen)) : Kept after (history ++ seen) := by
  cases step_cases taken with
  | put key value ttl fresh => exact kept.put key value _
  | read key present alive => exact kept.read key _ _
  | renew key ttl present alive => exact kept.renew present alive _
  | miss key asked absent =>
      rw [List.append_nil]
      exact kept
  | remove key => exact kept.remove key (.inl rfl)
  | expire key => exact kept.remove key (.inr rfl)
  | elapse now later =>
      rw [List.append_nil]
      exact ⟨kept.leases, kept.used⟩

end Kept

theorem reaches_kept (run : machine.Reaches store history) : Kept store history := by
  apply run.invariant
  · rintro state ⟨empty, _⟩
    exact ⟨by simp [empty], by simp⟩
  · intro before history call after seen _ kept taken
    exact kept.step taken

/-- What is behind a read and a write. -/
def Sound (earlier : List (LeaseSeen Key Value)) : LeaseSeen Key Value → Prop
  | .read key value now => ∃ deadline, Holds earlier key value deadline ∧ now < deadline
  | .put key _ _ => ∀ value deadline, .put key value deadline ∉ earlier
  | .renewed .. | .removed _ | .expired _ => True

theorem sound_nothing (justified : Justified Sound history) : Justified Sound (history ++ []) := by
  rw [List.append_nil]
  exact justified

theorem reaches_sound (run : machine.Reaches store history) : Justified Sound history := by
  apply run.invariant
  · intro state _
    exact .nil
  · intro before history call after seen run justified taken
    have kept := reaches_kept run
    cases step_cases taken with
    | put key value ttl fresh =>
        exact justified.snoc fun value deadline member =>
          fresh (kept.used key value deadline member)
    | read key present alive => exact justified.snoc ⟨_, kept.leases key _ present, alive⟩
    | renew key ttl present alive => exact justified.snoc trivial
    | miss key asked absent => exact sound_nothing justified
    | remove key => exact justified.snoc trivial
    | expire key => exact justified.snoc trivial
    | elapse now later => exact sound_nothing justified

/-- Under a key that was written and then removed nothing is read any more. -/
theorem removed_unread (sound : Justified Sound history) {key : Key}
    {earlier later : List (LeaseSeen Key Value)}
    (shape : history = earlier ++ .removed key :: later)
    {value : Value} {deadline : Nat} (written : .put key value deadline ∈ earlier)
    (found : Value) (now : Nat) : .read key found now ∉ later := by
  intro member
  obtain ⟨front, back, rfl⟩ := List.append_of_mem member
  obtain ⟨_, ⟨before, between, again, same, lasts⟩, _⟩ :=
    sound (earlier ++ .removed key :: front) (.read key found now) back (by simp [shape])
  -- the write that was read lies behind the removal, and so behind another write
  have behind : earlier <+: before := by
    rcases List.append_eq_append_iff.mp same with ⟨middle, first, second⟩ | ⟨middle, first, second⟩
    · exact ⟨middle, first.symm⟩
    · cases middle with
      | nil =>
          rw [List.append_nil] at first
          rw [first]
      | cons head rest =>
          rw [List.cons_append, List.cons.injEq] at second
          have unremoved := unremoved_of_lasting lasts
          rw [second.2] at unremoved
          exact absurd (by simp) unremoved
  obtain ⟨middle, rfl⟩ := behind
  have twice := sound (earlier ++ middle) (.put key found again)
    (between ++ .read key found now :: back) (by
      rw [shape, ← List.cons_append, ← List.append_assoc, same]
      simp)
  exact twice value deadline (List.mem_append_left _ written)

end LeaseStore

end RustGameserver.Foundation
