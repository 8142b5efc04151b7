import Mathlib.Order.Lattice
import Mathlib.Data.List.TakeWhile

/-!
Contract: logs that forget their stale entries, over any ordered type of times.

Owns:
- notions of staleness that only ever grow with time and are closed under
  earlier entries;
- the relation between a full log and a copy of it that has forgotten some
  entries, all of them stale;
- its rules: pruning, appending, the passage of time, and the fact that the
  entries still fresh can be read off the pruned copy.

Does not own: what an entry stands for, or when pruning happens.
-/

namespace RustGameserver.Foundation

universe u

/-- When an entry counts as stale at a given time. -/
structure Staleness (Time : Type u) [LinearOrder Time] where
  stale : Time → Time → Bool
  later : ∀ {now soon entry}, now ≤ soon → stale now entry = true → stale soon entry = true
  earlier : ∀ {now entry before}, before ≤ entry → stale now entry = true →
    stale now before = true

namespace Staleness

variable {Time : Type u} [LinearOrder Time] (staleness : Staleness Time)

/-- Drop stale entries from the front of a log. -/
def prune (now : Time) (log : List Time) : List Time :=
  log.dropWhile (staleness.stale now)

/-- The entries of a full log that are not stale. -/
def fresh (now : Time) (log : List Time) : List Time :=
  log.filter (fun entry => !staleness.stale now entry)

/-- `kept` is the full log without some entries at its front, all stale. -/
def Forgets (now : Time) (full kept : List Time) : Prop :=
  ∃ forgotten, full = forgotten ++ kept ∧ ∀ entry ∈ forgotten, staleness.stale now entry = true

variable {staleness} {now soon : Time} {full kept : List Time}

theorem Forgets.refl (now : Time) (log : List Time) : staleness.Forgets now log log :=
  ⟨[], rfl, by simp⟩

/-- Time passing makes nothing fresh again. -/
theorem Forgets.wait (forgets : staleness.Forgets now full kept) (ordered : now ≤ soon) :
    staleness.Forgets soon full kept := by
  obtain ⟨forgotten, shape, stale⟩ := forgets
  exact ⟨forgotten, shape, fun entry member => staleness.later ordered (stale entry member)⟩

theorem Forgets.prune (forgets : staleness.Forgets now full kept) :
    staleness.Forgets now full (staleness.prune now kept) := by
  obtain ⟨forgotten, rfl, stale⟩ := forgets
  refine ⟨forgotten ++ kept.takeWhile (staleness.stale now), ?_, ?_⟩
  · rw [List.append_assoc, Staleness.prune, List.takeWhile_append_dropWhile]
  · intro entry member
    rcases List.mem_append.mp member with old | taken
    · exact stale entry old
    · exact List.mem_takeWhile_imp taken

theorem Forgets.append (forgets : staleness.Forgets now full kept) (entry : Time) :
    staleness.Forgets now (full ++ [entry]) (kept ++ [entry]) := by
  obtain ⟨forgotten, rfl, stale⟩ := forgets
  exact ⟨forgotten, List.append_assoc .., stale⟩

/-- The forgotten entries are not among the fresh ones. -/
theorem Forgets.fresh_eq (forgets : staleness.Forgets now full kept) :
    staleness.fresh now full = staleness.fresh now kept := by
  obtain ⟨forgotten, rfl, stale⟩ := forgets
  have gone : forgotten.filter (fun entry => !staleness.stale now entry) = [] := by
    rw [List.filter_eq_nil_iff]
    intro entry member
    simp [stale entry member]
  simp [fresh, gone]

/-- A copy without fresh entries may be emptied. -/
theorem Forgets.clear (forgets : staleness.Forgets now full kept)
    (nothing : staleness.fresh now kept = []) : staleness.Forgets now full [] := by
  have stale : staleness.fresh now full = [] := forgets.fresh_eq.trans nothing
  refine ⟨full, (List.append_nil full).symm, fun entry member => ?_⟩
  simpa using List.filter_eq_nil_iff.mp stale entry member

/-- On a sorted log, dropping from the front is the same as filtering. -/
theorem prune_eq_fresh {log : List Time} (sorted : log.Pairwise (· ≤ ·)) :
    staleness.prune now log = staleness.fresh now log := by
  induction log with
  | nil => rfl
  | cons entry rest inductionHypothesis =>
      rw [List.pairwise_cons] at sorted
      by_cases stale : staleness.stale now entry = true
      · have tail := inductionHypothesis sorted.2
        simp only [prune, fresh] at tail ⊢
        simp [stale, tail]
      · have none : ∀ other ∈ rest, staleness.stale now other = false := by
          intro other member
          rw [Bool.eq_false_iff]
          exact fun gone => stale (staleness.earlier (sorted.1 other member) gone)
        have kept : rest.filter (fun other => !staleness.stale now other) = rest := by
          rw [List.filter_eq_self]
          intro other member
          simp [none other member]
        simp [prune, fresh, stale, kept]

/-- Whatever a copy has forgotten, pruning it leaves the fresh entries of the
full log. -/
theorem Forgets.prune_eq_fresh (forgets : staleness.Forgets now full kept)
    (sorted : full.Pairwise (· ≤ ·)) :
    staleness.prune now kept = staleness.fresh now full := by
  rw [forgets.fresh_eq]
  obtain ⟨forgotten, rfl, _⟩ := forgets
  exact Staleness.prune_eq_fresh (List.pairwise_append.mp sorted).2.1

end Staleness

end RustGameserver.Foundation
