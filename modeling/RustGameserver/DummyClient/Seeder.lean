import Mathlib.Data.List.Nodup
import RustGameserver.DummyClient.Client
import RustGameserver.Foundation.Tiling

/-!
Contract: `dummy_client::seeder`, which creates the accounts of the load test.

Owns:
- `generate_hashes`, on any number of threads, and `seed` with its batches;
- the arithmetic of both, with its overflows;
- the user ids that are bound, in their order, and that they differ.

Does not own: what a database makes of a user id it has already.
-/

namespace RustGameserver.DummyClient

open RustGameserver.Foundation
open RustGameserver.Foundation.Tiling

/-! ## The code -/

def seedBatchSize : Nat := 1000

/-- `usize::MAX`, on a 64-bit machine. -/
def usizeMax : Nat := UInt64.size - 1

/-- `+` on `usize`. -/
def checkedAdd (left right : Nat) : Option Nat :=
  if left + right ≤ usizeMax then some (left + right) else none

/-- `-` on `usize`. -/
def checkedSub (left right : Nat) : Option Nat :=
  if right ≤ left then some (left - right) else none

/-- `usize::div_ceil`. -/
def divCeil (left right : Nat) : Nat :=
  if left % right > 0 then left / right + 1 else left / right

/-- `generate_hashes` on `threads` threads.  The pairs `(hash, salt)` are whatever
`generate_stored_hash` draws, for each worker and each of its rounds. -/
def generateHashes (threads : Nat) (storedHash : Nat → Nat → String × String) (count : Nat) :
    Option (List (String × String)) :=
  let chunk := max (divCeil count threads) 1
  let workers := (stepBy chunk (List.range' 0 count)).mapM fun start => do
    let left ← checkedSub count start
    let len := min chunk left
    return (List.range len).map (storedHash start)
  workers.map List.flatten

/-- What one `INSERT` binds. -/
structure AccountSeed where
  userId : String
  passwordHash : String
  salt : String
deriving DecidableEq, Repr

/-- What the machine and the database do during one `seed`. -/
structure SeedConditions where
  threads : Nat
  /-- What `generate_stored_hash` returns, by batch, worker and round. -/
  storedHash : Nat → Nat → Nat → String × String
  /-- Whether the table can be created. -/
  created : Bool
  /-- Whether the blocking task of a batch is joined. -/
  joined : Nat → Bool
  /-- `rows_affected` of an `INSERT`, by the number of those before it. -/
  rowsAffected : Nat → Option Nat

/-- The statements so far, and the rows they have inserted. -/
structure SeedState where
  bound : List AccountSeed
  inserted : Nat
deriving DecidableEq, Repr

/-- Why `seed` ends early. -/
inductive SeedStop where
  | failed
  | overflowed
deriving DecidableEq, Repr

/-- One `INSERT` for every pair of a batch. -/
def insertAll (conditions : SeedConditions) (batchStart : Nat) :
    List ((String × String) × Nat) → SeedState → SeedState × Option SeedStop
  | [], state => (state, none)
  | ((hash, salt), offset) :: later, state =>
      let bound := state.bound ++ [⟨userId (batchStart + offset), hash, salt⟩]
      match conditions.rowsAffected state.bound.length with
      | none => ({ state with bound }, some .failed)
      | some rows => insertAll conditions batchStart later ⟨bound, state.inserted + rows⟩

/-- `SEED_BATCH_SIZE.min(account_count + 1 - batch_start)`. -/
def batchLen (accountCount batchStart : Nat) : Option Nat := do
  let stop ← checkedAdd accountCount 1
  let left ← checkedSub stop batchStart
  return min seedBatchSize left

/-- The body of the loop of `seed`. -/
def seedBatch (conditions : SeedConditions) (accountCount batchStart : Nat)
    (state : SeedState) : SeedState × Option SeedStop :=
  match batchLen accountCount batchStart with
  | none => (state, some .overflowed)
  | some len =>
      match generateHashes conditions.threads (conditions.storedHash batchStart) len with
      | none => (state, some .overflowed)
      | some hashes =>
          if conditions.joined batchStart then
            insertAll conditions batchStart hashes.zipIdx state
          else (state, some .failed)

def seedBatches (conditions : SeedConditions) (accountCount : Nat) :
    List Nat → SeedState → SeedState × Option SeedStop
  | [], state => (state, none)
  | batchStart :: later, state =>
      match seedBatch conditions accountCount batchStart state with
      | (state, some stop) => (state, some stop)
      | (state, none) => seedBatches conditions accountCount later state

/-- `seed`. -/
def seed (conditions : SeedConditions) (accountCount : Nat) : SeedState × Option SeedStop :=
  let state : SeedState := ⟨[], 0⟩
  if conditions.created then
    seedBatches conditions accountCount (stepBy seedBatchSize (List.range' 1 accountCount)) state
  else (state, some .failed)

/-! ## The hashes -/

theorem checkedSub_eq {left right : Nat} (ordered : right ≤ left) :
    checkedSub left right = some (left - right) := by
  rw [checkedSub, if_pos ordered]

theorem mapM_some {α β : Type} {f : α → Option β} {g : α → β} {entries : List α}
    (same : ∀ entry ∈ entries, f entry = some (g entry)) :
    entries.mapM f = some (entries.map g) := by
  induction entries with
  | nil => rfl
  | cons entry rest inductionHypothesis =>
      rw [List.forall_mem_cons] at same
      rw [List.mapM_cons, same.1, inductionHypothesis same.2]
      rfl

/-- As many pairs as asked for, whatever the number of threads, and no subtraction
below zero. -/
theorem generateHashes_length (threads : Nat) (storedHash : Nat → Nat → String × String)
    (count : Nat) :
    ∃ hashes, generateHashes threads storedHash count = some hashes ∧
      hashes.length = count := by
  have positive : 0 < max (divCeil count threads) 1 := by omega
  unfold generateHashes
  generalize max (divCeil count threads) 1 = chunk at positive
  -- what the worker of each chunk returns
  have workers : ∀ start ∈ stepBy chunk (List.range' 0 count),
      (do
        let left ← checkedSub count start
        return (List.range (min chunk left)).map (storedHash start)) =
      some ((List.range (min chunk (count - start))).map (storedHash start)) := by
    intro start member
    have inside := mem_of_mem_stepBy member
    rw [List.mem_range'_1] at inside
    rw [checkedSub_eq (by omega)]
    rfl
  have tiled := congrArg List.length (flatMap_piece positive 0 count)
  simp only [mapM_some workers, Option.map_some]
  refine ⟨_, rfl, ?_⟩
  rw [List.length_flatMap, List.length_range'] at tiled
  rw [List.length_flatten, List.map_map]
  simpa [Function.comp_def, piece] using tiled

/-! ## The batches -/

theorem batchLen_eq {accountCount batchStart : Nat} (small : accountCount < usizeMax)
    (inside : batchStart ≤ accountCount) :
    batchLen accountCount batchStart =
      some (min seedBatchSize (1 + accountCount - batchStart)) := by
  have sum : checkedAdd accountCount 1 = some (1 + accountCount) := by
    rw [checkedAdd, if_pos (by omega), Nat.add_comm]
  simp only [batchLen, sum, checkedSub_eq (by omega : batchStart ≤ 1 + accountCount),
    Option.bind_eq_bind, Option.bind_some]
  rfl

/-- The user ids bound so far. -/
def SeedState.userIds (state : SeedState) : List String := state.bound.map AccountSeed.userId

/-- Nothing but the machine and the database can end the seeding early. -/
def Untroubled (conditions : SeedConditions) : Prop :=
  conditions.created = true ∧ (∀ batchStart, conditions.joined batchStart = true) ∧
    ∀ earlier, (conditions.rowsAffected earlier).isSome

/-- The accounts of these indices are bound, one after the other; only a failure
leaves some out, from some point on. -/
structure Binds (conditions : SeedConditions) (indices : List Nat) (before : SeedState)
    (ran : SeedState × Option SeedStop) : Prop where
  started : ran.1.userIds <+: before.userIds ++ indices.map userId
  finished : ran.2 = none → ran.1.userIds = before.userIds ++ indices.map userId
  fits : ran.2 ≠ some .overflowed
  untroubled : Untroubled conditions → ran.2 = none

namespace Binds

variable {conditions : SeedConditions} {indices later : List Nat} {before middle after : SeedState}
  {stop : SeedStop} {ran : SeedState × Option SeedStop}

theorem nothing (conditions : SeedConditions) (before : SeedState) :
    Binds conditions [] before (before, none) where
  started := by simp
  finished := by simp
  fits := by simp
  untroubled := fun _ => rfl

/-- A failure leaves out all that would have come. -/
theorem abort (indices : List Nat) (failing : ¬ Untroubled conditions) :
    Binds conditions indices before (before, some .failed) where
  started := List.prefix_append _ _
  finished := by simp
  fits := by simp
  untroubled := fun well => absurd well failing

/-- More to bind after a failure. -/
theorem cut (binds : Binds conditions indices before (after, some stop)) (later : List Nat) :
    Binds conditions (indices ++ later) before (after, some stop) where
  started := by
    rw [List.map_append, ← List.append_assoc]
    exact binds.started.trans (List.prefix_append _ _)
  finished := by simp
  fits := binds.fits
  untroubled := binds.untroubled

/-- More to bind after what has been bound. -/
theorem resume (done : middle.userIds = before.userIds ++ indices.map userId)
    (binds : Binds conditions later middle ran) :
    Binds conditions (indices ++ later) before ran where
  started := by
    rw [List.map_append, ← List.append_assoc, ← done]
    exact binds.started
  finished := fun complete => by
    rw [List.map_append, ← List.append_assoc, ← done]
    exact binds.finished complete
  fits := binds.fits
  untroubled := binds.untroubled

end Binds

theorem insertAll_binds (conditions : SeedConditions) (batchStart : Nat)
    (hashes : List (String × String)) (offset : Nat) (state : SeedState) :
    Binds conditions (List.range' (batchStart + offset) hashes.length) state
      (insertAll conditions batchStart (hashes.zipIdx offset) state) := by
  induction hashes generalizing offset state with
  | nil => exact .nothing conditions state
  | cons pair rest inductionHypothesis =>
      rw [List.zipIdx_cons, List.length_cons, List.range'_succ]
      simp only [insertAll]
      cases affected : conditions.rowsAffected state.bound.length with
      | none =>
          have failing : ¬ Untroubled conditions := by
            rintro ⟨_, _, answered⟩
            have success := answered state.bound.length
            rw [affected] at success
            contradiction
          have once : Binds conditions [batchStart + offset] state
              ({ state with bound := state.bound ++
                [⟨userId (batchStart + offset), pair.1, pair.2⟩] }, some .failed) :=
            ⟨by simp [SeedState.userIds], by simp, by simp, fun well => absurd well failing⟩
          exact once.cut _
      | some rows =>
          have rest := inductionHypothesis (offset + 1) ⟨state.bound ++
            [⟨userId (batchStart + offset), pair.1, pair.2⟩], state.inserted + rows⟩
          have done : SeedState.userIds ⟨state.bound ++
                [⟨userId (batchStart + offset), pair.1, pair.2⟩], state.inserted + rows⟩ =
              state.userIds ++ [batchStart + offset].map userId := by
            simp [SeedState.userIds]
          exact .resume done rest

theorem seedBatch_binds (conditions : SeedConditions) {accountCount batchStart : Nat}
    (small : accountCount < usizeMax) (inside : batchStart ≤ accountCount)
    (state : SeedState) :
    Binds conditions (piece seedBatchSize (1 + accountCount) batchStart) state
      (seedBatch conditions accountCount batchStart state) := by
  obtain ⟨hashes, generated, length⟩ := generateHashes_length conditions.threads
    (conditions.storedHash batchStart) (min seedBatchSize (1 + accountCount - batchStart))
  simp only [seedBatch, batchLen_eq small inside, generated]
  by_cases joined : conditions.joined batchStart = true
  · rw [if_pos joined, piece, ← length]
    exact insertAll_binds conditions batchStart hashes 0 state
  · rw [if_neg joined]
    exact .abort _ fun well => joined (well.2.1 batchStart)

theorem seedBatches_binds (conditions : SeedConditions) {accountCount : Nat}
    (small : accountCount < usizeMax) (starts : List Nat)
    (inside : ∀ batchStart ∈ starts, batchStart ≤ accountCount) (state : SeedState) :
    Binds conditions (starts.flatMap (piece seedBatchSize (1 + accountCount))) state
      (seedBatches conditions accountCount starts state) := by
  induction starts generalizing state with
  | nil => exact .nothing conditions state
  | cons batchStart later inductionHypothesis =>
      rw [List.forall_mem_cons] at inside
      have first := seedBatch_binds conditions small inside.1 state
      rw [List.flatMap_cons, seedBatches]
      split
      · next middle stop ran =>
          rw [ran] at first
          exact first.cut _
      · next middle ran =>
          rw [ran] at first
          exact .resume (first.finished rfl) (inductionHypothesis inside.2 middle)

theorem seed_binds (conditions : SeedConditions) {accountCount : Nat}
    (small : accountCount < usizeMax) :
    Binds conditions (List.range' 1 accountCount) ⟨[], 0⟩ (seed conditions accountCount) := by
  unfold seed
  by_cases created : conditions.created = true
  · have tiled := seedBatches_binds conditions small
      (stepBy seedBatchSize (List.range' 1 accountCount)) (fun batchStart member => by
        have inside := mem_of_mem_stepBy member
        rw [List.mem_range'_1] at inside
        omega) ⟨[], 0⟩
    rw [flatMap_piece (by decide)] at tiled
    rw [if_pos created]
    exact tiled
  · rw [if_neg created]
    exact .abort _ fun well => created well.1

/-! ## The user ids -/

/-- The index is read off its user id, with or without padding. -/
theorem userId_injective : Function.Injective userId := by
  intro left right same
  have value : ∀ index, Nat.ofDigitChars 10
      ((List.replicate (5 - (Nat.toDigits 10 index).length) '0') ++ Nat.toDigits 10 index) 0 =
        index := by
    intro index
    rw [Nat.ofDigitChars_append, Nat.ofDigitChars_replicate_zero, Nat.mul_zero,
      Nat.ofDigitChars_ten_toDigits]
  have letters := congrArg String.toList same
  simp only [userId, String.toList_append, String.toList_ofList] at letters
  rw [← value left, List.append_cancel_left letters, value right]

/-- Every account is created once: `seed` binds the user ids of `1` to the number of
accounts in this order, all different, unless a failure of the machine or the
database ends it before; each batch gets as many hashes as it has accounts, whatever
the number of threads, and nothing overflows. -/
theorem seed_binds_each_once (conditions : SeedConditions) (accountCount : Nat)
    (small : accountCount < usizeMax) :
    ((seed conditions accountCount).1.bound.map AccountSeed.userId <+:
        (List.range' 1 accountCount).map userId) ∧
      ((seed conditions accountCount).2 = none →
        (seed conditions accountCount).1.bound.map AccountSeed.userId =
          (List.range' 1 accountCount).map userId) ∧
      (seed conditions accountCount).2 ≠ some .overflowed ∧
      (conditions.created = true → (∀ batchStart, conditions.joined batchStart = true) →
        (∀ earlier, (conditions.rowsAffected earlier).isSome) →
        (seed conditions accountCount).2 = none) ∧
      ((List.range' 1 accountCount).map userId).Nodup ∧
      (∀ batchStart ∈ stepBy seedBatchSize (List.range' 1 accountCount),
        ∃ len hashes, batchLen accountCount batchStart = some len ∧
          generateHashes conditions.threads (conditions.storedHash batchStart) len =
            some hashes ∧
          hashes.length = len) := by
  have binds := seed_binds conditions small
  refine ⟨binds.started, binds.finished, binds.fits, fun created joined answered => ?_, ?_,
    fun batchStart member => ?_⟩
  · exact binds.untroubled ⟨created, joined, answered⟩
  · exact List.Nodup.map userId_injective List.nodup_range'
  · have inside := mem_of_mem_stepBy member
    rw [List.mem_range'_1] at inside
    obtain ⟨hashes, generated, length⟩ := generateHashes_length conditions.threads
      (conditions.storedHash batchStart) (min seedBatchSize (1 + accountCount - batchStart))
    exact ⟨_, hashes, batchLen_eq small (by omega), generated, length⟩

/-- Three threads and a database without trouble. -/
def plainSeeding : SeedConditions where
  threads := 3
  storedHash := fun _ start index => (toString start, toString index)
  created := true
  joined := fun _ => true
  rowsAffected := fun _ => some 1

theorem seed_binds_each_once_plain :
    (seed plainSeeding 2500).1.bound.map AccountSeed.userId =
      (List.range' 1 2500).map userId := by
  have once := seed_binds_each_once plainSeeding 2500 (by decide)
  exact once.2.1 (once.2.2.2.1 rfl (fun _ => rfl) (fun _ => rfl))

end RustGameserver.DummyClient
