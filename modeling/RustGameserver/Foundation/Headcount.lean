import Mathlib.Algebra.BigOperators.Group.List.Basic
import Mathlib.Algebra.GroupWithZero.Nat
import Mathlib.Data.List.Count

/-!
Contract: counting those who are at a place, when each of them is at one place or
on the way.

Owns:
- the head count of a place, and how it changes when one leaves or arrives;
- that the head counts of different places together count nobody twice.

Does not own: which ways there are.
-/

namespace RustGameserver.Foundation

universe u

variable {Place : Type u} [DecidableEq Place]

/-- How many are at the place.  Who is on the way is nowhere. -/
def headcount (place : Place) (positions : List (Option Place)) : Nat :=
  positions.count (some place)

namespace Headcount

variable {positions : List (Option Place)} {index : Nat} {place other : Place}

/-- One more sets out, and is nowhere yet. -/
theorem join (place : Place) (positions : List (Option Place)) :
    headcount place (positions ++ [none]) = headcount place positions := by
  simp [headcount]

theorem arrive (onTheWay : positions[index]? = some none) :
    headcount place (positions.set index (some other)) =
      headcount place positions + if other = place then 1 else 0 := by
  obtain ⟨inside, was⟩ := List.getElem?_eq_some_iff.mp onTheWay
  rw [headcount, List.count_set inside, was]
  simp [headcount]

theorem leave (there : positions[index]? = some (some other)) :
    headcount place positions =
      headcount place (positions.set index none) + if other = place then 1 else 0 := by
  obtain ⟨inside, was⟩ := List.getElem?_eq_some_iff.mp there
  have counted : (if other = place then 1 else 0) ≤ positions.count (some place) := by
    split
    · next same =>
        rw [← same, ← was]
        exact List.count_pos_iff.mpr (List.getElem_mem inside)
    · exact Nat.zero_le _
  rw [headcount, headcount, List.count_set inside, was]
  simp only [Option.some.injEq, beq_iff_eq, reduceCtorEq, if_false]
  omega

private theorem one_place {places : List Place} (distinct : places.Nodup)
    (position : Option Place) :
    (places.map fun place => if position = some place then 1 else 0).sum ≤ 1 := by
  cases position with
  | none => simp
  | some home =>
      have counted : (places.map fun place => if some home = some place then 1 else 0).sum =
          places.count home := by
        rw [List.sum_map_ite, List.count_eq_countP, List.countP_eq_length_filter]
        simp [beq_eq_decide, eq_comm]
      rw [counted]
      exact List.nodup_iff_count.mp distinct home

/-- Nobody is counted at two places. -/
theorem sum_le {places : List Place} (distinct : places.Nodup)
    (positions : List (Option Place)) :
    (places.map fun place => headcount place positions).sum ≤ positions.length := by
  induction positions with
  | nil => simp [headcount]
  | cons position rest inductionHypothesis =>
      have first := one_place distinct position
      have parts : (places.map fun place => headcount place (position :: rest)).sum =
          (places.map fun place => headcount place rest).sum +
            (places.map fun place => if position = some place then 1 else 0).sum := by
        rw [← List.sum_map_add]
        simp [headcount, List.count_cons]
      rw [parts, List.length_cons]
      omega

/-- When all are at one place, its head count is their number, and that of any other
place is zero. -/
theorem all_at (home : ∀ position ∈ positions, position = some other) (place : Place) :
    headcount place positions = if other = place then positions.length else 0 := by
  have same : positions = List.replicate positions.length (some other) :=
    List.eq_replicate_of_mem home
  rw [headcount, same, List.count_replicate, List.length_replicate]
  simp

end Headcount

end RustGameserver.Foundation
