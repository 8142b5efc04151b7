import RustGameserver.DummyClient.Seeder
import RustGameserver.Foundation.KeyedTable
import RustGameserver.LoginServer.Backend

/-!
Contract: the table of accounts, and what seeding does to it.

Owns:
- `accounts` under the collation of its user ids, and `INSERT IGNORE` into it;
- what the inserts of a seeding have been answered, and what they have been bound to;
- that a seeding leaves the accounts there are alone, adds those that are missing and
  no others, and counts them; also after an earlier one that has been cut short.

Does not own: when rows are updated.
-/

namespace RustGameserver.DummyClient

open RustGameserver.Foundation
open RustGameserver.Foundation.Tiling
open RustGameserver.LoginServer (AccountRow)

/-! ## The table -/

/-- A `VARCHAR` of this width, as `INSERT IGNORE` stores a string in it. -/
def varchar (width : Nat) (text : String) : String := String.ofList (text.toList.take width)

/-- The row of an `INSERT`. The status is the default. -/
def storedRow (accountId : UInt64) (seed : AccountSeed) : AccountRow :=
  ⟨accountId, varchar 50 seed.userId, varchar 88 seed.passwordHash, varchar 88 seed.salt, 0⟩

/-- The table, in which user ids are unique up to the collation. -/
abbrev AccountTable {Weight : Type} (collation : String → Weight) : Type :=
  KeyedTable fun row : AccountRow => collation row.userId

/-- The rows of these `INSERT`s, with the ids that the table draws for them. -/
def storedRows (accountIds : Nat → UInt64) (bound : List AccountSeed) : List AccountRow :=
  bound.mapIdx fun index seed => storedRow (accountIds index) seed

/-- A seeding of a table, which answers every `INSERT` with the rows that it has added. The
last one may have been carried out or not where it has not been answered. -/
structure Seeds {Weight : Type} [DecidableEq Weight] {collation : String → Weight}
    (accountIds : Nat → UInt64) (conditions : SeedConditions) (accountCount : Nat)
    (before after : AccountTable collation) : Prop where
  answered : ∀ index row rows,
    (storedRows accountIds (seed conditions accountCount).1.bound)[index]? = some row →
    conditions.rowsAffected index = some rows →
    rows = (before.insertAll
      ((storedRows accountIds (seed conditions accountCount).1.bound).take index)).adds row
  ends :
    after = before.insertAll (storedRows accountIds (seed conditions accountCount).1.bound) ∨
      conditions.rowsAffected ((seed conditions accountCount).1.bound.length - 1) = none ∧
        after = before.insertAll
          (storedRows accountIds (seed conditions accountCount).1.bound).dropLast

/-! ## What the inserts are bound to -/

section Tracing

variable {conditions : SeedConditions}

/-- What `inserted` adds up for the first inserts. -/
def answers (conditions : SeedConditions) (inserts : Nat) : List Nat :=
  (List.range inserts).map fun index => (conditions.rowsAffected index).getD 0

/-- The hash and the salt have been generated. -/
def Generated (conditions : SeedConditions) (pair : String × String) : Prop :=
  ∃ batch worker round, pair = conditions.storedHash batch worker round

/-- The row is that of an account of the load test. -/
def Seeded (conditions : SeedConditions) (accountCount : Nat) (row : AccountRow) : Prop :=
  ∃ index accountId hash salt, 1 ≤ index ∧ index ≤ accountCount ∧
    Generated conditions (hash, salt) ∧
    row = ⟨accountId, userId index, varchar 88 hash, varchar 88 salt, 0⟩

/-- What is known of the inserts of a seeding. -/
structure Traced (conditions : SeedConditions) (ran : SeedState × Option SeedStop) : Prop where
  tally : ran.1.inserted = (answers conditions ran.1.bound.length).sum
  answered : ran.2 = none → ∀ index < ran.1.bound.length, (conditions.rowsAffected index).isSome
  generated : ∀ seed ∈ ran.1.bound, Generated conditions (seed.passwordHash, seed.salt)

theorem answers_succ (conditions : SeedConditions) (inserts : Nat) :
    (answers conditions (inserts + 1)).sum =
      (answers conditions inserts).sum + (conditions.rowsAffected inserts).getD 0 := by
  simp [answers, List.range_succ]

theorem insertAll_traced {hashes : List (String × String)} {batchStart offset : Nat}
    {state : SeedState} (traced : Traced conditions (state, none))
    (generated : ∀ pair ∈ hashes, Generated conditions pair) :
    Traced conditions (insertAll conditions batchStart (hashes.zipIdx offset) state) := by
  induction hashes generalizing offset state with
  | nil => exact traced
  | cons pair rest inductionHypothesis =>
      obtain ⟨hash, salt⟩ := pair
      rw [List.forall_mem_cons] at generated
      simp only [List.zipIdx_cons, insertAll]
      have bound : ∀ seed ∈ state.bound ++ [⟨userId (batchStart + offset), hash, salt⟩],
          Generated conditions (seed.passwordHash, seed.salt) := by
        intro seed member
        rw [List.mem_append, List.mem_singleton] at member
        rcases member with earlier | rfl
        · exact traced.generated seed earlier
        · exact generated.1
      cases affected : conditions.rowsAffected state.bound.length with
      | none =>
          refine ⟨?_, by simp, bound⟩
          rw [List.length_append, List.length_singleton, answers_succ, affected]
          exact traced.tally
      | some rows =>
          apply inductionHypothesis _ generated.2
          refine ⟨?_, ?_, bound⟩
          · rw [List.length_append, List.length_singleton, answers_succ, affected]
            exact congrArg (· + rows) traced.tally
          · intro _ index below
            rw [List.length_append, List.length_singleton, Nat.lt_succ_iff_lt_or_eq] at below
            rcases below with earlier | rfl
            · exact traced.answered rfl index earlier
            · rw [affected]
              rfl

theorem mem_mapM {α β : Type} {f : α → Option β} {entries : List α} {results : List β}
    (mapped : entries.mapM f = some results) {result : β} (member : result ∈ results) :
    ∃ entry, f entry = some result := by
  induction entries generalizing results with
  | nil =>
      cases mapped
      contradiction
  | cons entry rest inductionHypothesis =>
      simp only [List.mapM_cons, Option.bind_eq_bind, Option.bind_eq_some_iff] at mapped
      obtain ⟨first, found, others, onwards, outcome⟩ := mapped
      cases outcome
      rcases List.mem_cons.mp member with rfl | later
      · exact ⟨entry, found⟩
      · exact inductionHypothesis onwards later

/-- Every pair comes from one of the workers. -/
theorem generateHashes_generated {threads batch count : Nat} {hashes : List (String × String)}
    (made : generateHashes threads (conditions.storedHash batch) count = some hashes) :
    ∀ pair ∈ hashes, Generated conditions pair := by
  intro pair member
  obtain ⟨pieces, mapped, rfl⟩ := Option.map_eq_some_iff.mp made
  obtain ⟨piece, among, inside⟩ := List.mem_flatten.mp member
  obtain ⟨start, worked⟩ := mem_mapM mapped among
  simp only [Option.bind_eq_bind, Option.bind_eq_some_iff] at worked
  obtain ⟨left, _, outcome⟩ := worked
  cases outcome
  obtain ⟨round, _, rfl⟩ := List.mem_map.mp inside
  exact ⟨batch, start, round, rfl⟩

theorem seedBatches_traced {accountCount : Nat} {starts : List Nat} {state : SeedState}
    (traced : Traced conditions (state, none)) :
    Traced conditions (seedBatches conditions accountCount starts state) := by
  have stopped (stop : SeedStop) : Traced conditions (state, some stop) :=
    ⟨traced.tally, by simp, traced.generated⟩
  induction starts generalizing state with
  | nil => exact traced
  | cons batchStart later inductionHypothesis =>
      have first : Traced conditions (seedBatch conditions accountCount batchStart state) := by
        unfold seedBatch
        split
        · exact stopped .overflowed
        · split
          · exact stopped .overflowed
          · next hashes made =>
              split
              · exact insertAll_traced traced (generateHashes_generated made)
              · exact stopped .failed
      rw [seedBatches]
      split
      · next middle stop ran =>
          rw [ran] at first
          exact first
      · next middle ran =>
          rw [ran] at first
          exact inductionHypothesis first
            fun stop => ⟨first.tally, by simp, first.generated⟩

theorem seed_traced (conditions : SeedConditions) (accountCount : Nat) :
    Traced conditions (seed conditions accountCount) := by
  have start : Traced conditions (⟨[], 0⟩, none) := ⟨rfl, by simp, by simp⟩
  unfold seed
  by_cases created : conditions.created = true
  · rw [if_pos created]
    exact seedBatches_traced start
  · rw [if_neg created]
    exact ⟨rfl, by simp, by simp⟩

end Tracing

/-! ## What a seeding does -/

/-- A user id is not too long for its column. -/
theorem varchar_userId {index : Nat} (small : index < usizeMax) :
    varchar 50 (userId index) = userId index := by
  have digits : (Nat.toDigits 10 index).length ≤ 20 := by
    rw [Nat.length_toDigits_le_iff (by decide) (by decide)]
    exact Nat.lt_of_lt_of_le small (by decide)
  have short : (userId index).toList.length ≤ 50 := by
    simp only [userId, String.toList_append, String.toList_ofList, List.length_append,
      List.length_replicate]
    have prefixed : "user_".toList.length = 5 := rfl
    omega
  rw [varchar, List.take_of_length_le short, String.ofList_toList]

section Seeding

variable {Weight : Type} [DecidableEq Weight] {collation : String → Weight}
  {accountIds : Nat → UInt64} {conditions : SeedConditions} {accountCount : Nat}
  {before after : AccountTable collation}

theorem storedRows_length (accountIds : Nat → UInt64) (bound : List AccountSeed) :
    (storedRows accountIds bound).length = bound.length :=
  List.length_mapIdx

/-- A complete seeding has carried out every insert. -/
theorem Seeds.whole (seeds : Seeds accountIds conditions accountCount before after)
    (complete : (seed conditions accountCount).2 = none) :
    after = before.insertAll (storedRows accountIds (seed conditions accountCount).1.bound) := by
  rcases seeds.ends with all | ⟨unanswered, rest⟩
  · exact all
  · rcases Nat.eq_zero_or_pos (seed conditions accountCount).1.bound.length with none | some
    · have nothing : storedRows accountIds (seed conditions accountCount).1.bound = [] := by
        rw [← List.length_eq_zero_iff, storedRows_length, none]
      rw [rest, nothing]
      rfl
    · have answered := (seed_traced conditions accountCount).answered complete
        ((seed conditions accountCount).1.bound.length - 1) (by omega)
      rw [unanswered] at answered
      contradiction

/-- The rows are those of the accounts from the first on. -/
theorem mem_storedRows (small : accountCount < usizeMax) {row : AccountRow}
    (member : row ∈ storedRows accountIds (seed conditions accountCount).1.bound) :
    Seeded conditions accountCount row := by
  obtain ⟨position, inside, rfl⟩ := List.mem_mapIdx.mp member
  have among := List.getElem_mem inside
  have bound := (seed_binds conditions small).started.subset (List.mem_map_of_mem among)
  obtain ⟨index, ranged, same⟩ := List.mem_map.mp bound
  rw [List.mem_range'_1] at ranged
  have generated := (seed_traced conditions accountCount).generated _ among
  refine ⟨index, accountIds position, _, _, by omega, by omega, generated, ?_⟩
  rw [storedRow, ← same, varchar_userId (by omega)]

/-- A complete seeding has a row for every account. -/
theorem find_storedRows (accountIds : Nat → UInt64) (small : accountCount < usizeMax)
    (complete : (seed conditions accountCount).2 = none) {index : Nat} (first : 1 ≤ index)
    (last : index ≤ accountCount) :
    ∃ row ∈ storedRows accountIds (seed conditions accountCount).1.bound,
      row.userId = userId index := by
  have bound := (seed_binds conditions small).finished complete
  have member : userId index ∈ (seed conditions accountCount).1.userIds := by
    rw [bound]
    exact List.mem_map_of_mem (List.mem_range'_1.mpr (by omega))
  obtain ⟨seeded, among, same⟩ := List.mem_map.mp member
  obtain ⟨position, inside, rfl⟩ := List.mem_iff_getElem.mp among
  refine ⟨storedRow (accountIds position) _, List.mem_mapIdx.mpr ⟨position, inside, rfl⟩, ?_⟩
  rw [storedRow, same, varchar_userId (by omega)]

/-- After a complete seeding no account is without a row. -/
theorem Seeds.covers (seeds : Seeds accountIds conditions accountCount before after)
    (small : accountCount < usizeMax) (complete : (seed conditions accountCount).2 = none)
    {index : Nat} (first : 1 ≤ index) (last : index ≤ accountCount) :
    (after.find (collation (userId index))).isSome := by
  obtain ⟨row, member, same⟩ := find_storedRows accountIds small complete first last
  rw [seeds.whole complete, KeyedTable.find_insertAll, Option.isSome_or, Bool.or_eq_true]
  right
  rw [List.find?_isSome]
  exact ⟨row, member, by simp [same]⟩

/-- Whether it has been cut short or not, a seeding inserts rows of its accounts. -/
theorem Seeds.inserts (seeds : Seeds accountIds conditions accountCount before after) :
    ∃ rows, rows <+: storedRows accountIds (seed conditions accountCount).1.bound ∧
      after = before.insertAll rows := by
  rcases seeds.ends with all | ⟨_, rest⟩
  · exact ⟨_, List.prefix_refl _, all⟩
  · exact ⟨_, List.dropLast_prefix _, rest⟩

/-- What the answers of a complete seeding add up to is what the table has grown by. -/
theorem Seeds.grows (seeds : Seeds accountIds conditions accountCount before after)
    (complete : (seed conditions accountCount).2 = none) :
    after.rows.length = before.rows.length + (seed conditions accountCount).1.inserted := by
  have traced := seed_traced conditions accountCount
  rw [seeds.whole complete, traced.tally]
  apply KeyedTable.insertAll_length
  · simp [answers, storedRows_length]
  · intro index row count found counted
    obtain ⟨inside, same⟩ := List.getElem?_eq_some_iff.mp counted
    simp only [answers, List.length_map, List.length_range] at inside
    obtain ⟨rows, affected⟩ :=
      Option.isSome_iff_exists.mp (traced.answered complete index inside)
    simp only [answers, List.getElem_map, List.getElem_range, affected, Option.getD_some] at same
    rw [← same]
    exact seeds.answered index row rows found affected

/-- Seeding an accounts table, also again after a seeding that has been cut short, leaves the
rows there are as they are and where they are, and adds rows of the accounts `1` to
`accountCount` only, whose hashes have been generated. A complete seeding has counted the
rows it has added, and leaves no account without a row; it changes nothing where none had
been missing. -/
theorem seeding_extends (small : accountCount < usizeMax)
    (seeds : Seeds accountIds conditions accountCount before after) :
    before.rows <+: after.rows ∧
      (∀ row ∈ after.rows, row ∈ before.rows ∨ Seeded conditions accountCount row) ∧
      ((seed conditions accountCount).2 = none →
        after.rows.length = before.rows.length + (seed conditions accountCount).1.inserted ∧
        (∀ index, 1 ≤ index → index ≤ accountCount →
          (after.find (collation (userId index))).isSome) ∧
        ((∀ index, 1 ≤ index → index ≤ accountCount →
            (before.find (collation (userId index))).isSome) →
          after = before ∧ (seed conditions accountCount).1.inserted = 0)) := by
  obtain ⟨rows, among, inserted⟩ := seeds.inserts
  refine ⟨?_, ?_, ?_⟩
  · rw [inserted]
    exact before.rows_prefix rows
  · intro row member
    rw [inserted] at member
    rcases before.mem_insertAll member with old | new
    · exact .inl old
    · exact .inr (mem_storedRows small (among.subset new))
  · intro complete
    have grown := seeds.grows complete
    refine ⟨grown, ?_, ?_⟩
    · intro index first last
      exact seeds.covers small complete first last
    · intro present
      have same : after = before := by
        rw [inserted]
        apply before.insertAll_present
        intro row member
        obtain ⟨index, _, _, _, first, last, _, rfl⟩ := mem_storedRows small (among.subset member)
        exact present index first last
      rw [same] at grown
      exact ⟨same, by omega⟩

/-- An account that was there already, and two that were not. -/
def partlySeeded : SeedConditions :=
  { plainSeeding with rowsAffected := fun earlier => some (if earlier = 1 then 0 else 1) }

theorem seeding_extends_partly :
    ∃ after : AccountTable id,
      after.rows.length = 3 ∧
        ∀ index, 1 ≤ index → index ≤ 3 → (after.find (userId index)).isSome := by
  let before : AccountTable id := ⟨[⟨9, "user_00002", "hash", "salt", 1⟩], List.nodup_singleton _⟩
  have seeds : Seeds (fun index => 10 + UInt64.ofNat index) partlySeeded 3 before
      (before.insertAll (storedRows (fun index => 10 + UInt64.ofNat index)
        (seed partlySeeded 3).1.bound)) := by
    refine ⟨?_, .inl rfl⟩
    intro index row rows found affected
    rcases index with _ | _ | _ | _ <;> cases found <;> cases affected <;> rfl
  have extended := (seeding_extends (by decide) seeds).2.2 rfl
  exact ⟨_, extended.1, extended.2.1⟩

end Seeding

end RustGameserver.DummyClient
