import RustGameserver.Foundation.FiniteMap
import RustGameserver.Foundation.History
import RustGameserver.Foundation.Machine

/-!
Contract: a key-value store whose entries are written under new keys, read by
taking them out, and may vanish at any time.

Owns:
- the store as a machine, each of its commands one step;
- the invariant that ties its content to the commands so far;
- that an entry taken was written before, and is taken once.

Does not own: where keys and values come from.
-/

namespace RustGameserver.Foundation

universe u v

/-- A command to the store, or the end of an entry's lifetime. -/
inductive StoreCall (Key : Type u) (Value : Type v) where
  | put (key : Key) (value : Value)
  | take (key : Key)
  | expire (key : Key)

inductive StoreSeen (Key : Type u) (Value : Type v) where
  | put (key : Key) (value : Value)
  | took (key : Key) (result : Option Value)

/-- The entries, with the keys that have been written so far. -/
structure OneTimeStore (Key : Type u) (Value : Type v) where
  entries : FiniteMap Key Value
  used : List Key

namespace OneTimeStore

variable {Key : Type u} {Value : Type v} [DecidableEq Key]

def step (store : OneTimeStore Key Value) :
    StoreCall Key Value → Option (OneTimeStore Key Value × List (StoreSeen Key Value))
  | .put key value =>
      if key ∉ store.used then
        some (⟨store.entries.insert key value, key :: store.used⟩, [.put key value])
      else none
  | .take key =>
      some ({ store with entries := store.entries.remove key },
        [.took key (store.entries.get key)])
  | .expire key => some ({ store with entries := store.entries.remove key }, [])

/-- The store as a machine. -/
def machine : Machine (OneTimeStore Key Value) (StoreCall Key Value) (StoreSeen Key Value) where
  Initial := fun store => store = ⟨.empty, []⟩
  step := step

end OneTimeStore

section Reading

variable {Key : Type u} {Value : Type v}

/-- The keys written so far, in order. -/
def putKeys (history : List (StoreSeen Key Value)) : List Key :=
  history.filterMap fun
    | .put key _ => some key
    | .took .. => none

/-- The keys whose entries have been taken out so far, in order. -/
def takenKeys (history : List (StoreSeen Key Value)) : List Key :=
  history.filterMap fun
    | .took key (some _) => some key
    | .took _ none | .put .. => none

variable (history : List (StoreSeen Key Value)) (key : Key)

@[simp] theorem putKeys_put (value : Value) :
    putKeys (history ++ [.put key value]) = putKeys history ++ [key] := by
  simp [putKeys]

@[simp] theorem putKeys_took (result : Option Value) :
    putKeys (history ++ [.took key result]) = putKeys history := by
  simp [putKeys]

@[simp] theorem takenKeys_put (value : Value) :
    takenKeys (history ++ [.put key value]) = takenKeys history := by
  simp [takenKeys]

@[simp] theorem takenKeys_none : takenKeys (history ++ [.took key none]) = takenKeys history := by
  simp [takenKeys]

@[simp] theorem takenKeys_some (value : Value) :
    takenKeys (history ++ [.took key (some value)]) = takenKeys history ++ [key] := by
  simp [takenKeys]

end Reading

namespace OneTimeStore

variable {Key : Type u} {Value : Type v} [DecidableEq Key]
  {store after : OneTimeStore Key Value} {history seen : List (StoreSeen Key Value)}

/-- A write is carried out under a new key only, and observed. -/
theorem put_cases {key : Key} {value : Value}
    (taken : store.step (.put key value) = some (after, seen)) :
    key ∉ store.used ∧ after = ⟨store.entries.insert key value, key :: store.used⟩ ∧
      seen = [.put key value] := by
  simp only [step, Option.ite_none_right_eq_some, Option.some.injEq, Prod.mk.injEq] at taken
  exact ⟨taken.1, taken.2.1.symm, taken.2.2.symm⟩

/-- A write that is carried out is observed as such. -/
theorem put_seen {key : Key} {value : Value}
    (taken : store.step (.put key value) = some (after, seen)) : seen = [.put key value] :=
  (put_cases taken).2.2

/-- What the history tells about the content of the store. -/
structure Kept (store : OneTimeStore Key Value) (history : List (StoreSeen Key Value)) : Prop where
  /-- An entry was written, and has not been taken. -/
  entries : ∀ key value, store.entries.get key = some value →
    .put key value ∈ history ∧ key ∉ takenKeys history
  used : ∀ key, key ∈ putKeys history ↔ key ∈ store.used
  taken : ∀ key, key ∈ takenKeys history → key ∈ store.used
  putOnce : (putKeys history).Nodup
  takenOnce : (takenKeys history).Nodup

namespace Kept

theorem put (kept : Kept store history) {key : Key} (fresh : key ∉ store.used) (value : Value) :
    Kept ⟨store.entries.insert key value, key :: store.used⟩ (history ++ [.put key value]) := by
  have unwritten : key ∉ putKeys history := fun member => fresh ((kept.used key).mp member)
  have untaken : key ∉ takenKeys history := fun member => fresh (kept.taken key member)
  refine ⟨?_, ?_, ?_, ?_, ?_⟩
  · intro other found lookup
    rw [FiniteMap.get_insert] at lookup
    rw [takenKeys_put]
    split at lookup
    · next same =>
        rw [Option.some.injEq] at lookup
        rw [same, ← lookup]
        exact ⟨by simp, untaken⟩
    · obtain ⟨written, free⟩ := kept.entries other found lookup
      exact ⟨List.mem_append_left _ written, free⟩
  · intro other
    rw [putKeys_put, List.mem_append, List.mem_singleton, kept.used, List.mem_cons, or_comm]
  · intro other member
    rw [takenKeys_put] at member
    exact List.mem_cons_of_mem _ (kept.taken other member)
  · rw [putKeys_put, ← List.concat_eq_append]
    exact kept.putOnce.concat unwritten
  · rw [takenKeys_put]
    exact kept.takenOnce

/-- An entry leaves the store. -/
theorem remove (kept : Kept store history) (key : Key) :
    Kept { store with entries := store.entries.remove key } history := by
  refine ⟨fun other found lookup => ?_, kept.used, kept.taken, kept.putOnce, kept.takenOnce⟩
  rw [FiniteMap.get_remove] at lookup
  split at lookup
  · contradiction
  · exact kept.entries other found lookup

/-- Nothing is found under the key. -/
theorem miss (kept : Kept store history) (key : Key) :
    Kept { store with entries := store.entries.remove key } (history ++ [.took key none]) := by
  have removed := kept.remove key
  refine ⟨fun other found lookup => ?_, ?_, ?_, ?_, ?_⟩
  · rw [takenKeys_none]
    obtain ⟨written, free⟩ := removed.entries other found lookup
    exact ⟨List.mem_append_left _ written, free⟩
  · simpa using kept.used
  · simpa using kept.taken
  · simpa using kept.putOnce
  · simpa using kept.takenOnce

/-- An entry is taken out. -/
theorem take (kept : Kept store history) {key : Key} {value : Value}
    (present : store.entries.get key = some value) :
    Kept { store with entries := store.entries.remove key }
      (history ++ [.took key (some value)]) := by
  obtain ⟨written, untaken⟩ := kept.entries key value present
  have used : key ∈ store.used :=
    (kept.used key).mp (List.mem_filterMap.mpr ⟨.put key value, written, rfl⟩)
  refine ⟨?_, ?_, ?_, ?_, ?_⟩
  · intro other found lookup
    rw [FiniteMap.get_remove] at lookup
    split at lookup
    · contradiction
    · next different =>
        obtain ⟨before, free⟩ := kept.entries other found lookup
        refine ⟨List.mem_append_left _ before, ?_⟩
        rw [takenKeys_some, List.mem_append, List.mem_singleton, not_or]
        exact ⟨free, different⟩
  · simpa using kept.used
  · intro other member
    rw [takenKeys_some, List.mem_append, List.mem_singleton] at member
    rcases member with member | rfl
    · exact kept.taken other member
    · exact used
  · simpa using kept.putOnce
  · rw [takenKeys_some, ← List.concat_eq_append]
    exact kept.takenOnce.concat untaken

theorem step (kept : Kept store history) {call : StoreCall Key Value}
    (taken : store.step call = some (after, seen)) : Kept after (history ++ seen) := by
  cases call with
  | put key value =>
      obtain ⟨fresh, rfl, rfl⟩ := put_cases taken
      exact kept.put fresh value
  | take key =>
      cases taken
      cases present : store.entries.get key with
      | none => exact kept.miss key
      | some value => exact kept.take present
  | expire key =>
      cases taken
      rw [List.append_nil]
      exact kept.remove key

end Kept

theorem reaches_kept (run : machine.Reaches store history) : Kept store history := by
  apply run.invariant
  · rintro state rfl
    exact ⟨by simp, by simp [putKeys], by simp [takenKeys], by simp [putKeys], by simp [takenKeys]⟩
  · intro before history call after seen _ kept taken
    exact kept.step taken

/-- What is taken out of the store was put into it before. -/
def PutBefore (earlier : List (StoreSeen Key Value)) : StoreSeen Key Value → Prop
  | .took key (some value) => .put key value ∈ earlier
  | .took _ none | .put .. => True

theorem reaches_putBefore (run : machine.Reaches store history) :
    Justified PutBefore history := by
  apply run.invariant
  · intro state _
    exact .nil
  · intro before history call after seen run justified taken
    cases call with
    | put key value =>
        rw [put_seen taken]
        exact justified.snoc trivial
    | take key =>
        cases taken
        apply justified.snoc
        cases present : before.entries.get key with
        | none => trivial
        | some value => exact ((reaches_kept run).entries key value present).1
    | expire key =>
        cases taken
        rw [List.append_nil]
        exact justified

end OneTimeStore

end RustGameserver.Foundation
