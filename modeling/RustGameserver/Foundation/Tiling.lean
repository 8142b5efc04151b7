import Mathlib.Data.List.Basic

/-!
Contract: ranges that are walked in steps, for any width of a step.

Owns:
- the elements of a list that lie a step apart, as `Iterator::step_by` yields them;
- what this is of a range;
- the tiling rule: the pieces that begin at these elements, the last one cut to what
  is left, make up the range.

Does not own: what is done with a piece.
-/

namespace RustGameserver.Foundation.Tiling

universe u

variable {α : Type u}

/-- Skip some elements, and from there on take one in every `width`. -/
def skipping (width : Nat) : Nat → List α → List α
  | _, [] => []
  | 0, entry :: rest => entry :: skipping width (width - 1) rest
  | skip + 1, _ :: rest => skipping width skip rest

/-- `Iterator::step_by`: the first element, and then every `width`-th. -/
def stepBy (width : Nat) (entries : List α) : List α := skipping width 0 entries

@[simp] theorem stepBy_nil (width : Nat) : stepBy width ([] : List α) = [] := rfl

theorem skipping_eq_drop (width skip : Nat) (entries : List α) :
    skipping width skip entries = stepBy width (entries.drop skip) := by
  induction entries generalizing skip with
  | nil => simp [skipping, stepBy]
  | cons entry rest inductionHypothesis =>
      cases skip with
      | zero => rfl
      | succ skip =>
          rw [skipping, inductionHypothesis skip]
          rfl

theorem stepBy_cons (width : Nat) (entry : α) (rest : List α) :
    stepBy width (entry :: rest) = entry :: stepBy width (rest.drop (width - 1)) := by
  rw [stepBy, skipping, skipping_eq_drop]

theorem mem_of_mem_skipping {width skip : Nat} {entries : List α} {entry : α}
    (member : entry ∈ skipping width skip entries) : entry ∈ entries := by
  induction entries generalizing skip with
  | nil => simp [skipping] at member
  | cons first rest inductionHypothesis =>
      cases skip with
      | zero =>
          rw [skipping, List.mem_cons] at member
          rcases member with rfl | later
          · exact List.mem_cons_self
          · exact List.mem_cons_of_mem _ (inductionHypothesis later)
      | succ skip => exact List.mem_cons_of_mem _ (inductionHypothesis member)

theorem mem_of_mem_stepBy {width : Nat} {entries : List α} {entry : α}
    (member : entry ∈ stepBy width entries) : entry ∈ entries :=
  mem_of_mem_skipping member

/-- A range in steps: its first element, and the steps of what lies a width on. -/
theorem stepBy_range' {width count : Nat} (positive : 0 < width) (nonempty : 0 < count)
    (first : Nat) :
    stepBy width (List.range' first count) =
      first :: stepBy width (List.range' (first + width) (count - width)) := by
  obtain ⟨fewer, rfl⟩ : ∃ fewer, count = fewer + 1 := ⟨count - 1, by omega⟩
  rw [List.range'_succ, stepBy_cons, List.drop_range']
  congr 3
  · omega
  · omega

/-- The piece of a range that begins at `start`. -/
def piece (width stop start : Nat) : List Nat :=
  List.range' start (min width (stop - start))

/-- The pieces make up the range, without gap or overlap. -/
theorem flatMap_piece {width : Nat} (positive : 0 < width) (first count : Nat) :
    (stepBy width (List.range' first count)).flatMap (piece width (first + count)) =
      List.range' first count := by
  induction count using Nat.strongRecOn generalizing first with
  | ind count inductionHypothesis =>
      by_cases empty : count = 0
      · simp [empty]
      · have rest := inductionHypothesis (count - width) (by omega) (first + width)
        rw [stepBy_range' positive (by omega), List.flatMap_cons]
        by_cases last : count ≤ width
        · have nothing : count - width = 0 := by omega
          have whole : min width (first + count - first) = count := by omega
          rw [nothing, List.range'_zero, stepBy_nil, List.flatMap_nil, List.append_nil,
            piece, whole]
        · have same : first + width + (count - width) = first + count := by omega
          have full : min width (first + count - first) = width := by omega
          rw [same] at rest
          rw [rest, piece, full]
          have joined := List.range'_append_1 (s := first) (m := width) (n := count - width)
          rw [joined]
          congr 1
          omega

end RustGameserver.Foundation.Tiling
