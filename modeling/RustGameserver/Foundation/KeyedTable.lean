import Mathlib.Algebra.BigOperators.Group.List.Basic
import Mathlib.Algebra.GroupWithZero.Nat
import Mathlib.Data.List.Nodup

/-!
Contract: tables whose rows have unique keys, for any rows and keys.

Owns:
- tables that carry the uniqueness of their keys, and the lookup of a key;
- inserting rows unless their key is there already, one after the other;
- the rule by which such insertions are looked up, and how many of them add a row.

Does not own: any column.
-/

namespace RustGameserver.Foundation

universe u v

/-- Rows in the order of their insertion. -/
structure KeyedTable {Row : Type u} {Key : Type v} (key : Row → Key) where
  rows : List Row
  unique : (rows.map key).Nodup

namespace KeyedTable

variable {Row : Type u} {Key : Type v} {key : Row → Key} [DecidableEq Key]
  (table : KeyedTable key)

def find (wanted : Key) : Option Row := table.rows.find? fun row => key row = wanted

variable {table}

theorem find_eq_none {wanted : Key} :
    table.find wanted = none ↔ ∀ row ∈ table.rows, key row ≠ wanted := by
  simp [find]

theorem unique_append {row : Row} (absent : table.find (key row) = none) :
    ((table.rows ++ [row]).map key).Nodup := by
  rw [find_eq_none] at absent
  rw [List.map_append, List.nodup_append]
  refine ⟨table.unique, List.nodup_singleton _, ?_⟩
  intro old member new last
  obtain ⟨other, among, rfl⟩ := List.mem_map.mp member
  rw [List.map_singleton, List.mem_singleton] at last
  rw [last]
  exact absent other among

variable (table)

/-- Insert a row unless its key is there. -/
def insertAbsent (row : Row) : KeyedTable key :=
  if absent : table.find (key row) = none then ⟨table.rows ++ [row], unique_append absent⟩
  else table

/-- How many rows the insertion adds. -/
def adds (row : Row) : Nat := if (table.find (key row)).isSome then 0 else 1

def insertAll (rows : List Row) : KeyedTable key := rows.foldl insertAbsent table

theorem insertAbsent_rows (row : Row) :
    (table.insertAbsent row).rows =
      table.rows ++ if (table.find (key row)).isSome then [] else [row] := by
  unfold insertAbsent
  by_cases absent : table.find (key row) = none
  · rw [dif_pos absent, absent]
    rfl
  · have present : (table.find (key row)).isSome := Option.isSome_iff_ne_none.mpr absent
    rw [dif_neg absent, if_pos present, List.append_nil]

theorem insertAbsent_length (row : Row) :
    (table.insertAbsent row).rows.length = table.rows.length + table.adds row := by
  rw [insertAbsent_rows, List.length_append, adds]
  split <;> rfl

/-- A row that is found stays, and a row that is inserted is found from then on. -/
theorem find_insertAbsent (row : Row) (wanted : Key) :
    (table.insertAbsent row).find wanted =
      (table.find wanted).or (if key row = wanted then some row else none) := by
  rw [find, insertAbsent_rows, List.find?_append]
  show (table.find wanted).or _ = _
  by_cases same : key row = wanted
  · subst same
    cases found : table.find (key row) with
    | none => simp
    | some old => simp
  · rw [if_neg same]
    split <;> simp [same]

theorem insertAll_cons (row : Row) (rest : List Row) :
    table.insertAll (row :: rest) = (table.insertAbsent row).insertAll rest := rfl

/-- The first row with the key is found, whether it was there or has been inserted. -/
theorem find_insertAll (rows : List Row) (wanted : Key) :
    (table.insertAll rows).find wanted =
      (table.find wanted).or (rows.find? fun row => key row = wanted) := by
  induction rows generalizing table with
  | nil => simp [insertAll]
  | cons row rest inductionHypothesis =>
      rw [insertAll_cons, inductionHypothesis, find_insertAbsent, Option.or_assoc, List.find?_cons]
      by_cases same : key row = wanted <;> simp [same]

theorem rows_prefix (rows : List Row) : table.rows <+: (table.insertAll rows).rows := by
  induction rows generalizing table with
  | nil => exact List.prefix_refl _
  | cons row rest inductionHypothesis =>
      have first : table.rows <+: (table.insertAbsent row).rows := by
        rw [insertAbsent_rows]
        exact List.prefix_append _ _
      exact first.trans (inductionHypothesis (table.insertAbsent row))

/-- A row of the table was there or has been inserted. -/
theorem mem_insertAll {rows : List Row} {row : Row} (member : row ∈ (table.insertAll rows).rows) :
    row ∈ table.rows ∨ row ∈ rows := by
  induction rows generalizing table with
  | nil => exact .inl member
  | cons first rest inductionHypothesis =>
      rw [insertAll_cons] at member
      rcases inductionHypothesis _ member with earlier | later
      · rw [insertAbsent_rows, List.mem_append] at earlier
        rcases earlier with old | new
        · exact .inl old
        · split at new
          · contradiction
          · exact .inr (List.mem_cons.mpr (.inl (List.mem_singleton.mp new)))
      · exact .inr (List.mem_cons_of_mem _ later)

/-- Rows whose keys are all there already change nothing. -/
theorem insertAll_present {rows : List Row}
    (present : ∀ row ∈ rows, (table.find (key row)).isSome) : table.insertAll rows = table := by
  induction rows with
  | nil => rfl
  | cons row rest inductionHypothesis =>
      have known := present row List.mem_cons_self
      have same : table.insertAbsent row = table := by
        rw [insertAbsent, dif_neg]
        intro absent
        rw [absent] at known
        contradiction
      rw [insertAll_cons, same]
      exact inductionHypothesis fun other member => present other (List.mem_cons_of_mem _ member)

/-- The table grows by what each of the insertions adds. -/
theorem insertAll_length {rows : List Row} {counts : List Nat}
    (same : counts.length = rows.length)
    (each : ∀ index row count, rows[index]? = some row → counts[index]? = some count →
      count = (table.insertAll (rows.take index)).adds row) :
    (table.insertAll rows).rows.length = table.rows.length + counts.sum := by
  induction rows generalizing table counts with
  | nil =>
      rw [List.length_nil, List.length_eq_zero_iff] at same
      rw [same]
      rfl
  | cons row rest inductionHypothesis =>
      cases counts with
      | nil => contradiction
      | cons count others =>
          have first := each 0 row count rfl rfl
          have fewer : others.length = rest.length := Nat.succ.inj same
          have later := inductionHypothesis (table.insertAbsent row) fewer
            fun index other => each (index + 1) other
          rw [insertAll_cons, later, insertAbsent_length, List.sum_cons, first]
          exact Nat.add_assoc _ _ _

end KeyedTable

end RustGameserver.Foundation
