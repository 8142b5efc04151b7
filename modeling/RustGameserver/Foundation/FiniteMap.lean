import Mathlib.Data.Finmap

/-!
Contract: finite maps with a lookup, as a thin layer over Mathlib's `Finmap`.

Owns:
- non-dependent maps with `get`, `insert`, `remove` and an in-place `retain`
  that may also rewrite the values it keeps;
- one conditional lookup equation for each operation, so that proofs rewrite
  with them and never unfold an operation;
- how many keys there are, by what accounts for them;
- what is read off all the values of a map together, and how it grows;
- what all the values weigh together.

Maps are equal when their lookups are, so the iteration order of a hash table
is not part of a map.
-/

namespace RustGameserver.Foundation

universe u v w

/-- A finite map from keys to values of one type. -/
abbrev FiniteMap (Key : Type u) (Value : Type v) : Type (max u v) :=
  Finmap (fun _ : Key => Value)

namespace FiniteMap

variable {Key : Type u} {Value : Type v} [DecidableEq Key]

def empty : FiniteMap Key Value := ∅

def get (map : FiniteMap Key Value) (key : Key) : Option Value :=
  map.lookup key

def insert (map : FiniteMap Key Value) (key : Key) (value : Value) :
    FiniteMap Key Value :=
  Finmap.insert key value map

def remove (map : FiniteMap Key Value) (key : Key) : FiniteMap Key Value :=
  Finmap.erase key map

/-- One entry under an update of its value. -/
def updateEntry (update : Key → Value → Option Value)
    (entry : Sigma fun _ : Key => Value) : Option (Sigma fun _ : Key => Value) :=
  (update entry.1 entry.2).map fun value => ⟨entry.1, value⟩

omit [DecidableEq Key] in
private theorem retained_keys (update : Key → Value → Option Value)
    (entries : List (Sigma fun _ : Key => Value)) :
    ((entries.filterMap (updateEntry update)).keys).Sublist entries.keys := by
  induction entries with
  | nil => simp
  | cons entry rest inductionHypothesis =>
      simp only [List.filterMap_cons, updateEntry]
      cases update entry.1 entry.2 with
      | none =>
          simpa [List.keys] using inductionHypothesis.trans (List.sublist_cons_self _ _)
      | some value => simpa [List.keys] using inductionHypothesis

/-- Visit every entry once: keep it with the value `update` returns, or drop it
when `update` returns nothing. -/
def retain (map : FiniteMap Key Value) (update : Key → Value → Option Value) :
    FiniteMap Key Value where
  entries := map.entries.filterMap (updateEntry update)
  nodupKeys := by
    obtain ⟨entries, distinct⟩ := map
    induction entries using Quotient.inductionOn with
    | _ entries => exact List.Nodup.sublist (retained_keys update entries) distinct

@[simp] theorem get_empty (key : Key) :
    (empty : FiniteMap Key Value).get key = none :=
  Finmap.lookup_empty key

theorem get_insert (map : FiniteMap Key Value) (key other : Key) (value : Value) :
    (map.insert key value).get other = if other = key then some value else map.get other := by
  unfold get insert
  split
  · next same => rw [same, Finmap.lookup_insert]
  · next different => rw [Finmap.lookup_insert_of_ne _ different]

theorem get_remove (map : FiniteMap Key Value) (key other : Key) :
    (map.remove key).get other = if other = key then none else map.get other := by
  unfold get remove
  split
  · next same => rw [same, Finmap.lookup_erase]
  · next different => rw [Finmap.lookup_erase_ne different]

theorem get_retain (map : FiniteMap Key Value) (update : Key → Value → Option Value)
    (key : Key) :
    (map.retain update).get key = (map.get key).bind (update key) := by
  apply Option.ext
  intro value
  have kept : value ∈ (map.retain update).get key ↔
      ∃ old, old ∈ map.get key ∧ update key old = some value := by
    simp only [get, Finmap.mem_lookup_iff, retain, Multiset.mem_filterMap, updateEntry,
      Option.map_eq_some_iff, Sigma.exists]
    constructor
    · rintro ⟨entry, old, member, new, updated, same⟩
      cases same
      exact ⟨old, member, updated⟩
    · rintro ⟨old, member, updated⟩
      exact ⟨key, old, member, value, updated, rfl⟩
  simpa [Option.bind_eq_some_iff] using kept

theorem ext {left right : FiniteMap Key Value}
    (same : ∀ key, left.get key = right.get key) : left = right :=
  Finmap.ext_lookup same

/-! ## Counting -/

/-- A map has no more keys than there are things that account for them, each for one. -/
theorem card_keys_le {α : Type w} {map : FiniteMap Key Value} {list : List α} (key : α → Key)
    (accounted : ∀ held value, map.get held = some value → ∃ thing ∈ list, key thing = held) :
    map.keys.card ≤ list.length := by
  have covered : map.keys ⊆ (list.map key).toFinset := by
    intro held member
    rw [Finmap.mem_keys, Finmap.mem_iff] at member
    obtain ⟨value, present⟩ := member
    obtain ⟨thing, among, rfl⟩ := accounted held value present
    rw [List.mem_toFinset]
    exact List.mem_map_of_mem among
  calc map.keys.card ≤ (list.map key).toFinset.card := Finset.card_le_card covered
    _ ≤ (list.map key).length := List.toFinset_card_le _
    _ = list.length := List.length_map key

theorem mem_entries {map : FiniteMap Key Value} {key : Key} {value : Value} :
    ⟨key, value⟩ ∈ map.entries ↔ map.get key = some value :=
  Finmap.lookup_eq_some_iff.symm

theorem keys_insert (map : FiniteMap Key Value) (key : Key) (value : Value) :
    (map.insert key value).keys = Insert.insert key map.keys := by
  ext other
  rw [Finset.mem_insert, Finmap.mem_keys, Finmap.mem_keys, insert, Finmap.mem_insert]

/-- A new key is one more. -/
theorem card_keys_insert_new {map : FiniteMap Key Value} {key : Key}
    (absent : map.get key = none) (value : Value) :
    (map.insert key value).keys.card = map.keys.card + 1 := by
  rw [keys_insert, Finset.card_insert_of_notMem]
  rw [Finmap.mem_keys]
  exact Finmap.lookup_eq_none.mp absent

/-- A value that is replaced leaves the keys as they are. -/
theorem keys_insert_present {map : FiniteMap Key Value} {key : Key} {old : Value}
    (present : map.get key = some old) (value : Value) :
    (map.insert key value).keys = map.keys := by
  rw [keys_insert, Finset.insert_eq_self, Finmap.mem_keys, Finmap.mem_iff]
  exact ⟨old, present⟩

/-! ## Totals -/

section Total

variable (weigh : Value → Nat)

/-- What all the values weigh together. -/
def total (map : FiniteMap Key Value) : Nat :=
  (map.entries.map fun entry => weigh entry.2).sum

end Total

/-! ## Gathering -/

section Gather

variable {α : Type w} (read : Value → Multiset α)

/-- What is read off all the values together. -/
def gather (map : FiniteMap Key Value) : Multiset α :=
  map.entries.bind fun entry => read entry.2

omit [DecidableEq Key] in
theorem gather_empty : gather read (empty : FiniteMap Key Value) = 0 := rfl

theorem gather_insert_new {map : FiniteMap Key Value} {key : Key}
    (absent : map.get key = none) (value : Value) :
    gather read (map.insert key value) = read value + gather read map := by
  have fresh : key ∉ map := Finmap.lookup_eq_none.mp absent
  rw [gather, insert, Finmap.entries_insert_of_notMem fresh, Multiset.cons_bind]
  rfl

/-- A map is the rest of itself with any of its entries put back. -/
theorem insert_remove {map : FiniteMap Key Value} {key : Key} {value : Value}
    (present : map.get key = some value) : (map.remove key).insert key value = map := by
  apply ext
  intro other
  rw [get_insert, get_remove]
  split
  · next same => rw [same, present]
  · rfl

theorem insert_after_remove (map : FiniteMap Key Value) (key : Key) (value : Value) :
    (map.remove key).insert key value = map.insert key value := by
  apply ext
  intro other
  rw [get_insert, get_insert, get_remove]
  split <;> rfl

/-- Putting a value where it is changes nothing. -/
theorem insert_same {map : FiniteMap Key Value} {key : Key} {value : Value}
    (present : map.get key = some value) : map.insert key value = map := by
  rw [← insert_after_remove, insert_remove present]

/-- A value that is replaced by one from which more is read. -/
theorem gather_insert {map : FiniteMap Key Value} {key : Key} {old value : Value}
    {more : Multiset α} (present : map.get key = some old)
    (grown : read value = read old + more) :
    gather read (map.insert key value) = gather read map + more := by
  have absent : (map.remove key).get key = none := by
    rw [get_remove, if_pos rfl]
  have before := gather_insert_new read absent old
  have after := gather_insert_new read absent value
  rw [insert_remove present] at before
  rw [insert_after_remove, grown] at after
  rw [after, before, add_right_comm]

end Gather

end FiniteMap

end RustGameserver.Foundation
