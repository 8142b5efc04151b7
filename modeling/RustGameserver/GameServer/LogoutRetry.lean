import RustGameserver.GameServer.Backend
import RustGameserver.Net.Consts
import RustGameserver.Session.Recording

/-!
Contract: `record_logout`, the attempts to store a logout until the database takes
it or the server shuts down.

Owns:
- the delay between two attempts, with the arithmetic of its types, and its closed
  form;
- the race between the shutdown and the timer;
- the loop, under every backend, every moment of shutdown and every delay of the
  executor;
- what holds between one attempt and the next, and when the loop ends;
- that the loop is a run of the `record_logout` in which sessions end.

Does not own: which account is recorded, which the end of the session decides.
-/

namespace RustGameserver.GameServer

open RustGameserver.Foundation
open RustGameserver.Net
open RustGameserver.Session

/-! ## The delay -/

def logoutRetryBaseDelay : Nat := fromMillis 500

def logoutRetryMaxDelay : Nat := fromSecs 30

/-- `<<` on `u32`, which overflows when the shift reaches the width. -/
def checkedShl (value shift : UInt32) : Option UInt32 :=
  if shift < 32 then some (value <<< shift) else none

/-- `Duration * u32`, which overflows beyond `u64::MAX` seconds. -/
def checkedMul (duration : Nat) (factor : UInt32) : Option Nat :=
  if duration * factor.toNat < fromSecs (2 ^ 64) then some (duration * factor.toNat) else none

/-- `+` on `u32`. -/
def checkedAdd (left right : UInt32) : Option UInt32 :=
  if left.toNat + right.toNat < UInt32.size then some (left + right) else none

/-- `(LOGOUT_RETRY_BASE_DELAY * (1 << attempt.min(10))).min(LOGOUT_RETRY_MAX_DELAY)`. -/
def retryDelay (attempt : UInt32) : Option Nat := do
  let factor ← checkedShl 1 (min attempt 10)
  let delay ← checkedMul logoutRetryBaseDelay factor
  return min delay logoutRetryMaxDelay

/-- Where the bound is reached at the clamp already, the clamp changes nothing. -/
theorem clamped_backoff {base bound clamp : Nat} (reached : bound ≤ base * 2 ^ clamp)
    (count : Nat) : min (base * 2 ^ min count clamp) bound = min (base * 2 ^ count) bound := by
  by_cases low : count ≤ clamp
  · rw [Nat.min_eq_left low]
  · have grown : base * 2 ^ clamp ≤ base * 2 ^ count :=
      Nat.mul_le_mul_left base (Nat.pow_le_pow_right (by decide) (by omega))
    rw [Nat.min_eq_right (by omega : clamp ≤ count)]
    omega

theorem min_toNat (left right : UInt32) :
    (min left right).toNat = min left.toNat right.toNat := by
  rw [Std.min_eq_if]
  by_cases ordered : left ≤ right
  · rw [if_pos ordered, Nat.min_eq_left (UInt32.le_iff_toNat_le.mp ordered)]
  · have reversed : ¬ left.toNat ≤ right.toNat :=
      fun below => ordered (UInt32.le_iff_toNat_le.mpr below)
    rw [if_neg ordered, Nat.min_eq_right (by omega)]

theorem one_shiftLeft_toNat {shift : UInt32} (small : shift.toNat < 32) :
    ((1 : UInt32) <<< shift).toNat = 2 ^ shift.toNat := by
  have fits : 2 ^ shift.toNat < 2 ^ 32 := Nat.pow_lt_pow_right (by decide) small
  rw [UInt32.toNat_shiftLeft, Nat.mod_eq_of_lt small, Nat.shiftLeft_eq]
  show 1 * 2 ^ shift.toNat % 2 ^ 32 = 2 ^ shift.toNat
  rw [Nat.one_mul, Nat.mod_eq_of_lt fits]

/-- No step of the computation overflows, and the clamp at ten doublings is never
felt below the maximum. -/
theorem retryDelay_eq (attempt : UInt32) :
    retryDelay attempt = some (min (fromMillis 500 * 2 ^ attempt.toNat) (fromSecs 30)) := by
  have clamped : (min attempt 10).toNat = min attempt.toNat 10 := min_toNat attempt 10
  have below : 2 ^ min attempt.toNat 10 ≤ 2 ^ 10 :=
    Nat.pow_le_pow_right (by decide) (Nat.min_le_right _ _)
  have shifted : checkedShl 1 (min attempt 10) = some (1 <<< min attempt 10) := by
    have small : min attempt 10 < 32 := by
      rw [UInt32.lt_iff_toNat_lt, clamped]
      show _ < 32
      omega
    rw [checkedShl, if_pos small]
  have factor : ((1 : UInt32) <<< min attempt 10).toNat = 2 ^ min attempt.toNat 10 := by
    rw [one_shiftLeft_toNat (by omega), clamped]
  have scaled : checkedMul logoutRetryBaseDelay (1 <<< min attempt 10) =
      some (logoutRetryBaseDelay * 2 ^ min attempt.toNat 10) := by
    rw [checkedMul, factor, if_pos]
    simp only [logoutRetryBaseDelay, fromMillis, fromSecs]
    omega
  simp only [retryDelay, shifted, scaled, Option.bind_eq_bind, Option.bind_some]
  show some _ = some _
  rw [Option.some.injEq]
  exact clamped_backoff (by decide) attempt.toNat

/-- A delay is never zero, so no timer has fired when it is set. -/
theorem retryDelay_pos {attempt : UInt32} {delay : Nat}
    (computed : retryDelay attempt = some delay) : 0 < delay := by
  rw [retryDelay_eq, Option.some.injEq] at computed
  have positive : 0 < 2 ^ attempt.toNat := Nat.two_pow_pos _
  simp only [fromMillis, fromSecs] at computed
  omega

/-! ## The race -/

/-- What the backend, the shutdown and the executor do during one `record_logout`. -/
structure Conditions where
  /-- What the attempts return, by their number. -/
  outcome : Nat → Except BackendError Unit
  /-- How long the attempts take. -/
  took : Nat → Nat
  /-- When the shutdown is cancelled, if it ever is. -/
  cancelledAt : Option Nat
  /-- How late the task gets to run once a wait can end. -/
  late : Nat → Nat
  /-- Whether `select!` looks at the timer first when both branches are ready. -/
  sleepFirst : Nat → Bool

/-- The shutdown has been cancelled by then. -/
def Conditions.cancelledBy (conditions : Conditions) (now : Nat) : Prop :=
  ∃ moment ∈ conditions.cancelledAt, moment ≤ now

instance (conditions : Conditions) (now : Nat) : Decidable (conditions.cancelledBy now) :=
  inferInstanceAs (Decidable (∃ moment ∈ conditions.cancelledAt, moment ≤ now))

/-- The branch that `select!` takes, and when. -/
inductive Selected where
  | cancelled (now : Nat)
  | slept (now : Nat)
deriving DecidableEq, Repr

/-- One poll of both branches: `None` while neither is ready. -/
def Conditions.poll (conditions : Conditions) (number deadline now : Nat) : Option Selected :=
  if conditions.cancelledBy now then
    if deadline ≤ now ∧ conditions.sleepFirst number then some (.slept now)
    else some (.cancelled now)
  else if deadline ≤ now then some (.slept now)
  else none

/-- When a wait can end. -/
def Conditions.woken (conditions : Conditions) (deadline : Nat) : Nat :=
  match conditions.cancelledAt with
  | none => deadline
  | some moment => min moment deadline

/-- `select!` of `shutdown.cancelled()` and `sleep(delay)`: polled when it is
entered, and if nothing is ready then, again after one of the two has woken the
task, which may be late. -/
def Conditions.select (conditions : Conditions) (number start delay : Nat) : Option Selected :=
  match conditions.poll number (start + delay) start with
  | some selected => some selected
  | none =>
      conditions.poll number (start + delay)
        (conditions.woken (start + delay) + conditions.late number)

section Race

variable {conditions : Conditions} {number deadline start delay now resumed : Nat}

theorem poll_none (idle : conditions.poll number deadline now = none) :
    ¬ conditions.cancelledBy now ∧ now < deadline := by
  unfold Conditions.poll at idle
  by_cases cancelled : conditions.cancelledBy now
  · rw [if_pos cancelled] at idle
    split at idle <;> contradiction
  · rw [if_neg cancelled] at idle
    split at idle
    · contradiction
    · next early => exact ⟨cancelled, by omega⟩

theorem poll_slept (taken : conditions.poll number deadline now = some (.slept resumed)) :
    resumed = now ∧ deadline ≤ now := by
  unfold Conditions.poll at taken
  split at taken
  · split at taken
    · next both =>
        rw [Option.some.injEq, Selected.slept.injEq] at taken
        exact ⟨taken.symm, both.1⟩
    · simp at taken
  · split at taken
    · next elapsed =>
        rw [Option.some.injEq, Selected.slept.injEq] at taken
        exact ⟨taken.symm, elapsed⟩
    · contradiction

theorem poll_cancelled (taken : conditions.poll number deadline now = some (.cancelled resumed)) :
    resumed = now ∧ conditions.cancelledBy now := by
  unfold Conditions.poll at taken
  split at taken
  · next cancelled =>
      split at taken
      · simp at taken
      · rw [Option.some.injEq, Selected.cancelled.injEq] at taken
        exact ⟨taken.symm, cancelled⟩
  · split at taken
    · simp at taken
    · contradiction

theorem woken_le (conditions : Conditions) (deadline : Nat) :
    conditions.woken deadline ≤ deadline := by
  unfold Conditions.woken
  split
  · exact Nat.le_refl deadline
  · exact Nat.min_le_right _ _

/-- Once woken, a branch is ready: the timer, or the shutdown that came before it. -/
theorem ready_of_woken (woken : conditions.woken deadline ≤ now) :
    conditions.cancelledBy now ∨ deadline ≤ now := by
  unfold Conditions.woken at woken
  split at woken
  · exact Or.inr woken
  · next moment present =>
      by_cases early : moment ≤ now
      · exact Or.inl ⟨moment, present, early⟩
      · right
        omega

/-- The race is always decided. -/
theorem select_isSome (conditions : Conditions) (number start delay : Nat) :
    ∃ selected, conditions.select number start delay = some selected := by
  unfold Conditions.select
  split
  · next selected first => exact ⟨selected, rfl⟩
  · cases second : conditions.poll number (start + delay)
        (conditions.woken (start + delay) + conditions.late number) with
    | some selected => exact ⟨selected, rfl⟩
    | none =>
        have idle := poll_none second
        rcases ready_of_woken (Nat.le_add_right _ (conditions.late number)) with
          cancelled | elapsed
        · exact absurd cancelled idle.1
        · omega

/-- The timer wins only if the shutdown had not come when the wait began, and never
before its time. -/
theorem select_slept (positive : 0 < delay)
    (taken : conditions.select number start delay = some (.slept resumed)) :
    ¬ conditions.cancelledBy start ∧ start + delay ≤ resumed ∧
      resumed ≤ start + delay + conditions.late number := by
  unfold Conditions.select at taken
  split at taken
  · next selected first =>
      rw [taken] at first
      have elapsed := poll_slept first
      omega
  · next first =>
      have second := poll_slept taken
      have early := woken_le conditions (start + delay)
      exact ⟨(poll_none first).1, by omega, by omega⟩

theorem select_cancelled
    (taken : conditions.select number start delay = some (.cancelled resumed)) :
    conditions.cancelledBy resumed := by
  unfold Conditions.select at taken
  split at taken
  · next selected first =>
      rw [taken] at first
      have decided := poll_cancelled first
      rw [decided.1]
      exact decided.2
  · have decided := poll_cancelled taken
    rw [decided.1]
    exact decided.2

end Race

/-! ## The loop -/

/-- One attempt, and the wait that follows it if it fails. -/
structure Attempted where
  attempt : UInt32
  start : Nat
  answered : Nat
  outcome : Except BackendError Unit
  delay : Option Nat
deriving DecidableEq

inductive Ending where
  | returned (now : Nat)
  | overflowed
  | unfinished
deriving DecidableEq, Repr

/-- The loop of `record_logout` from an attempt on, for as many rounds as there is
fuel. -/
def recordLogoutFrom (conditions : Conditions) :
    Nat → UInt32 → Nat → List Attempted × Ending
  | 0, _, _ => ([], .unfinished)
  | fuel + 1, attempt, now =>
      let answered := now + conditions.took attempt.toNat
      match conditions.outcome attempt.toNat with
      | .ok () => ([⟨attempt, now, answered, .ok (), none⟩], .returned answered)
      | .error error =>
          let failed := fun delay => (⟨attempt, now, answered, .error error, delay⟩ : Attempted)
          match retryDelay attempt with
          | none => ([failed none], .overflowed)
          | some delay =>
              match conditions.select attempt.toNat answered delay with
              | none => ([failed (some delay)], .unfinished)
              | some (.cancelled resumed) => ([failed (some delay)], .returned resumed)
              | some (.slept resumed) =>
                  match checkedAdd attempt 1 with
                  | none => ([failed (some delay)], .overflowed)
                  | some next =>
                      let (later, ending) := recordLogoutFrom conditions fuel next resumed
                      (failed (some delay) :: later, ending)

/-- `record_logout`, called at `start`. -/
def recordLogout (conditions : Conditions) (fuel start : Nat) : List Attempted × Ending :=
  recordLogoutFrom conditions fuel 0 start

/-! ## One round -/

def Attempted.failed (entry : Attempted) : Bool :=
  match entry.outcome with
  | .ok () => false
  | .error _ => true

/-- The wait after a failure of the given number. -/
def backoff (number : Nat) : Nat := min (fromMillis 500 * 2 ^ number) (fromSecs 30)

section Rounds

variable (conditions : Conditions)

/-- An attempt that succeeds. -/
def success (attempt : UInt32) (now : Nat) : Attempted :=
  ⟨attempt, now, now + conditions.took attempt.toNat, .ok (), none⟩

/-- An attempt that fails, and the wait set after it. -/
def failure (attempt : UInt32) (now : Nat) (error : BackendError) : Attempted :=
  ⟨attempt, now, now + conditions.took attempt.toNat, .error error,
    some (backoff attempt.toNat)⟩

/-- What a round of the loop can come to. -/
inductive Round (fuel : Nat) (attempt : UInt32) (now : Nat) : List Attempted × Ending → Prop where
  | succeeded (accepted : conditions.outcome attempt.toNat = .ok ()) :
      Round fuel attempt now
        ([success conditions attempt now], .returned (now + conditions.took attempt.toNat))
  | cancelled (error : BackendError) (refused : conditions.outcome attempt.toNat = .error error)
      (resumed : Nat) (stopped : conditions.cancelledBy resumed) :
      Round fuel attempt now ([failure conditions attempt now error], .returned resumed)
  | exhausted (error : BackendError) (refused : conditions.outcome attempt.toNat = .error error)
      (last : attempt.toNat + 1 = UInt32.size) :
      Round fuel attempt now ([failure conditions attempt now error], .overflowed)
  | again (error : BackendError) (refused : conditions.outcome attempt.toNat = .error error)
      (next : UInt32) (counted : next.toNat = attempt.toNat + 1) (resumed : Nat)
      (going : ¬ conditions.cancelledBy (now + conditions.took attempt.toNat))
      (full : now + conditions.took attempt.toNat + backoff attempt.toNat ≤ resumed)
      (late : resumed ≤ now + conditions.took attempt.toNat + backoff attempt.toNat +
        conditions.late attempt.toNat) :
      Round fuel attempt now
        (failure conditions attempt now error ::
            (recordLogoutFrom conditions fuel next resumed).1,
          (recordLogoutFrom conditions fuel next resumed).2)

theorem recordLogoutFrom_round (fuel : Nat) (attempt : UInt32) (now : Nat) :
    Round conditions fuel attempt now
      (recordLogoutFrom conditions (fuel + 1) attempt now) := by
  have computed : retryDelay attempt = some (backoff attempt.toNat) := retryDelay_eq attempt
  unfold recordLogoutFrom
  cases answer : conditions.outcome attempt.toNat with
  | ok done => exact .succeeded answer
  | error error =>
      simp only [computed]
      obtain ⟨selected, decided⟩ := select_isSome conditions attempt.toNat
        (now + conditions.took attempt.toNat) (backoff attempt.toNat)
      rw [decided]
      cases selected with
      | cancelled resumed => exact .cancelled error answer resumed (select_cancelled decided)
      | slept resumed =>
          have waited := select_slept (retryDelay_pos computed) decided
          simp only [checkedAdd]
          by_cases counted : attempt.toNat + (1 : UInt32).toNat < UInt32.size
          · rw [if_pos counted]
            have next : (attempt + 1).toNat = attempt.toNat + 1 := by
              rw [UInt32.toNat_add]
              exact Nat.mod_eq_of_lt counted
            exact .again error answer _ next resumed waited.1 waited.2.1 waited.2.2
          · rw [if_neg counted]
            have bound := attempt.toNat_lt
            have last : attempt.toNat + 1 = UInt32.size := by
              have one : (1 : UInt32).toNat = 1 := rfl
              have size : UInt32.size = 2 ^ 32 := rfl
              omega
            exact .exhausted error answer last

end Rounds

/-- The rule for the loop: what a round makes of the rounds after it. -/
theorem recordLogoutFrom_induct {conditions : Conditions}
    {Holds : Nat → UInt32 → Nat → List Attempted × Ending → Prop}
    (unfinished : ∀ attempt start, Holds 0 attempt start ([], .unfinished))
    (made : ∀ fuel attempt start ran, Round conditions fuel attempt start ran →
      (∀ next resumed, Holds fuel next resumed (recordLogoutFrom conditions fuel next resumed)) →
      Holds (fuel + 1) attempt start ran)
    (fuel : Nat) (attempt : UInt32) (start : Nat) :
    Holds fuel attempt start (recordLogoutFrom conditions fuel attempt start) := by
  induction fuel generalizing attempt start with
  | zero => exact unfinished attempt start
  | succ fuel inductionHypothesis =>
      exact made fuel attempt start _ (recordLogoutFrom_round conditions fuel attempt start)
        inductionHypothesis

/-! ## All rounds -/

/-- An attempt gets the outcome of its number, and is followed by the wait of its
number if it fails. -/
structure Attempted.Numbered (conditions : Conditions) (number : Nat) (entry : Attempted) :
    Prop where
  attempt : entry.attempt.toNat = number
  outcome : entry.outcome = conditions.outcome number
  answered : entry.answered = entry.start + conditions.took number
  delay : entry.failed = true → entry.delay = some (backoff number)

/-- An attempt that is made after another, and when. -/
structure Attempted.Follows (conditions : Conditions) (number : Nat)
    (second first : Attempted) : Prop where
  failed : first.failed = true
  going : ¬ conditions.cancelledBy first.answered
  full : first.answered + backoff number ≤ second.start
  late : second.start ≤ first.answered + backoff number + conditions.late number

/-- What the loop does from an attempt on. -/
structure Retries (conditions : Conditions) (attempt : UInt32) (start : Nat)
    (ran : List Attempted × Ending) : Prop where
  first : ∀ entry : Attempted, ran.1[0]? = some entry → entry.start = start
  numbered : ∀ (n : Nat) (entry : Attempted), ran.1[n]? = some entry →
    entry.Numbered conditions (attempt.toNat + n)
  follows : ∀ (n : Nat) (one two : Attempted), ran.1[n]? = some one → ran.1[n + 1]? = some two →
    two.Follows conditions (attempt.toNat + n) one
  overflowed : ran.2 = .overflowed →
    attempt.toNat + ran.1.countP Attempted.failed = UInt32.size
  returned : ∀ now, ran.2 = .returned now →
    (∃ last, ran.1.getLast? = some last ∧ last.failed = false) ∨ conditions.cancelledBy now
  stopped : ∀ moment ∈ conditions.cancelledAt,
    ran.1.countP (fun entry => decide (moment ≤ entry.start)) ≤ 1

namespace Retries

variable {conditions : Conditions} {attempt next : UInt32} {start resumed : Nat}
  {made : Attempted} {later : List Attempted} {ending : Ending}

theorem nothing (conditions : Conditions) (attempt : UInt32) (start : Nat) :
    Retries conditions attempt start ([], .unfinished) where
  first := by simp
  numbered := by simp
  follows := by simp
  overflowed := by simp
  returned := by simp
  stopped := by simp

/-- A loop of one attempt. -/
theorem single (own : made.Numbered conditions attempt.toNat) (first : made.start = start)
    (overflowed : ending = .overflowed →
      attempt.toNat + [made].countP Attempted.failed = UInt32.size)
    (returned : ∀ now, ending = .returned now →
      made.failed = false ∨ conditions.cancelledBy now) :
    Retries conditions attempt start ([made], ending) where
  first := fun entry found => by
    simp only [List.getElem?_cons_zero, Option.some.injEq] at found
    rw [← found]
    exact first
  numbered := fun n entry found => by
    cases n with
    | zero =>
        simp only [List.getElem?_cons_zero, Option.some.injEq] at found
        rw [← found]
        exact own
    | succ n => simp at found
  follows := fun n one two found next => by simp at next
  overflowed := overflowed
  returned := fun now done => by
    rcases returned now done with succeeded | stopped
    · exact Or.inl ⟨made, rfl, succeeded⟩
    · exact Or.inr stopped
  stopped := fun moment _ => List.countP_le_length

/-- A failure before the rest of the loop. -/
theorem again (own : made.Numbered conditions attempt.toNat) (first : made.start = start)
    (counted : next.toNat = attempt.toNat + 1)
    (follow : ∀ two, later[0]? = some two → two.Follows conditions attempt.toNat made)
    (failed : made.failed = true) (going : ¬ conditions.cancelledBy made.start)
    (rest : Retries conditions next resumed (later, ending)) :
    Retries conditions attempt start (made :: later, ending) where
  first := fun entry found => by
    simp only [List.getElem?_cons_zero, Option.some.injEq] at found
    rw [← found]
    exact first
  numbered := fun n entry found => by
    cases n with
    | zero =>
        simp only [List.getElem?_cons_zero, Option.some.injEq] at found
        rw [← found]
        exact own
    | succ n =>
        have tail := rest.numbered n entry found
        rw [counted] at tail
        rwa [show attempt.toNat + (n + 1) = attempt.toNat + 1 + n by omega]
  follows := fun n one two found second => by
    cases n with
    | zero =>
        simp only [List.getElem?_cons_zero, Option.some.injEq] at found
        rw [← found]
        exact follow two second
    | succ n =>
        have tail := rest.follows n one two found second
        rw [counted] at tail
        rwa [show attempt.toNat + (n + 1) = attempt.toNat + 1 + n by omega]
  overflowed := fun done => by
    have tail := rest.overflowed done
    simp only [counted] at tail
    simp only [List.countP_cons, failed, if_true]
    omega
  returned := fun now done => by
    rcases rest.returned now done with ⟨last, found, succeeded⟩ | stopped
    · refine Or.inl ⟨last, ?_, succeeded⟩
      simp only [List.getLast?_cons, found]
      rfl
    · exact Or.inr stopped
  stopped := fun moment present => by
    -- this attempt began before the shutdown, so it is not counted
    have early : ¬ moment ≤ made.start := fun late => going ⟨moment, present, late⟩
    have tail := rest.stopped moment present
    simp only [List.countP_cons, decide_eq_false early]
    simpa using tail

end Retries

theorem recordLogoutFrom_retries (conditions : Conditions) (fuel : Nat) (attempt : UInt32)
    (start : Nat) : Retries conditions attempt start
      (recordLogoutFrom conditions fuel attempt start) := by
  refine @recordLogoutFrom_induct conditions
    (fun _ attempt start ran => Retries conditions attempt start ran)
    (Retries.nothing conditions) ?_ fuel attempt start
  intro fuel attempt start ran round inductionHypothesis
  have failing : ∀ error, conditions.outcome attempt.toNat = .error error →
      (failure conditions attempt start error).Numbered conditions attempt.toNat :=
    fun error refused => ⟨rfl, refused.symm, rfl, fun _ => rfl⟩
  cases round with
  | succeeded accepted =>
      have own : (success conditions attempt start).Numbered conditions attempt.toNat :=
        ⟨rfl, accepted.symm, rfl, by simp [success, Attempted.failed]⟩
      exact .single own rfl (by simp) (fun _ _ => Or.inl rfl)
  | cancelled error refused resumed stopped =>
      refine .single (failing error refused) rfl (by simp) (fun now done => Or.inr ?_)
      rw [Ending.returned.injEq] at done
      rw [← done]
      exact stopped
  | exhausted error refused last =>
      refine .single (failing error refused) rfl (fun _ => ?_) (by simp)
      simpa [failure, Attempted.failed] using last
  | again error refused next counted resumed going full late =>
      have rest := inductionHypothesis next resumed
      refine .again (failing error refused) rfl counted (fun two found => ?_) rfl ?_ rest
      · have begins := rest.first two found
        exact ⟨rfl, going, by rw [begins]; exact full, by rw [begins]; exact late⟩
      · rintro ⟨moment, present, early⟩
        exact going ⟨moment, present, early.trans (Nat.le_add_right _ _)⟩

theorem backoff_pos (number : Nat) : 0 < backoff number := by
  have positive : 0 < 2 ^ number := Nat.two_pow_pos number
  simp only [backoff, fromMillis, fromSecs]
  omega

/-- An attempt that will succeed is reached, if nothing ends the loop before. -/
theorem finished_of_success {conditions : Conditions} {number : Nat}
    (accepted : conditions.outcome number = .ok ()) (fuel : Nat) (attempt : UInt32)
    (start : Nat) : attempt.toNat ≤ number → number < attempt.toNat + fuel →
      (recordLogoutFrom conditions fuel attempt start).2 ≠ .unfinished := by
  refine @recordLogoutFrom_induct conditions
    (fun fuel attempt _ ran => attempt.toNat ≤ number → number < attempt.toNat + fuel →
      ran.2 ≠ .unfinished) ?_ ?_ fuel attempt start
  · intro attempt start ahead enough
    omega
  · intro fuel attempt start ran round inductionHypothesis ahead enough
    cases round with
    | succeeded | cancelled | exhausted => simp
    | again error refused next counted resumed going full late =>
        have different : attempt.toNat ≠ number := by
          rintro rfl
          rw [refused] at accepted
          contradiction
        exact inductionHypothesis next resumed (by omega) (by omega)

/-- The shutdown is reached, since every wait takes time. -/
theorem finished_of_cancelled {conditions : Conditions} {moment : Nat}
    (present : moment ∈ conditions.cancelledAt) (fuel : Nat) (attempt : UInt32) (start : Nat) :
    0 < fuel → moment < start + fuel →
      (recordLogoutFrom conditions fuel attempt start).2 ≠ .unfinished := by
  refine @recordLogoutFrom_induct conditions
    (fun fuel _ start ran => 0 < fuel → moment < start + fuel → ran.2 ≠ .unfinished)
    ?_ ?_ fuel attempt start
  · intro attempt start positive
    contradiction
  · intro fuel attempt start ran round inductionHypothesis positive enough
    cases round with
    | succeeded | cancelled | exhausted => simp
    | again error refused next counted resumed going full late =>
        have later : start < moment := by
          by_contra early
          exact going ⟨moment, present, by omega⟩
        have waited := backoff_pos attempt.toNat
        exact inductionHypothesis next resumed (by omega) (by omega)

/-- Once the shutdown has come, the first failure is the last attempt. -/
theorem recordLogoutFrom_cancelled {conditions : Conditions} {moment start : Nat}
    (present : moment ∈ conditions.cancelledAt) (early : moment ≤ start) (fuel : Nat)
    {attempt : UInt32} (small : attempt.toNat + 1 < UInt32.size) :
    ∃ only now, recordLogoutFrom conditions (fuel + 1) attempt start =
      ([only], .returned now) := by
  generalize recordLogoutFrom conditions (fuel + 1) attempt start = result,
    recordLogoutFrom_round conditions fuel attempt start = round
  cases round with
  | succeeded => exact ⟨_, _, rfl⟩
  | cancelled => exact ⟨_, _, rfl⟩
  | exhausted error refused last => omega
  | again error refused next counted resumed going full late =>
      exact absurd ⟨moment, present, by omega⟩ going

theorem recordLogoutFrom_first (conditions : Conditions) (fuel : Nat) (attempt : UInt32)
    (start : Nat) :
    ∃ first later, (recordLogoutFrom conditions (fuel + 1) attempt start).1 = first :: later := by
  generalize recordLogoutFrom conditions (fuel + 1) attempt start = result,
    recordLogoutFrom_round conditions fuel attempt start = round
  cases round with
  | succeeded | cancelled | exhausted | again => exact ⟨_, _, rfl⟩

/-! ## Without the clock -/

/-- The attempts and the ending are those of a run of the `record_logout` of a session. -/
def Untimed (ran : List Attempted × Ending) : Prop :=
  ∃ events recording seen,
    recordingLogout.exec (some .attempting) events = some (recording, seen) ∧
      events.filterMap RecordEvent.answer = ran.1.map (fun entry => !entry.failed) ∧
      ∀ now, ran.2 = .returned now → recording = none

/-- The timed loop refines the one without a clock. -/
theorem recordLogoutFrom_untimed (conditions : Conditions) (fuel : Nat) (attempt : UInt32)
    (start : Nat) : Untimed (recordLogoutFrom conditions fuel attempt start) := by
  refine @recordLogoutFrom_induct conditions (fun _ _ _ ran => Untimed ran) ?_ ?_ fuel attempt start
  · exact fun _ _ => ⟨[], some .attempting, [], rfl, rfl, nofun⟩
  · intro fuel attempt start ran round inductionHypothesis
    cases round with
    | succeeded => exact ⟨[.answered true false], none, _, rfl, rfl, fun _ _ => rfl⟩
    | cancelled => exact ⟨[.answered false false, .cancelled], none, _, rfl, rfl, fun _ _ => rfl⟩
    | exhausted => exact ⟨[.answered false false], some .waiting, _, rfl, rfl, nofun⟩
    | again error refused next counted resumed =>
        obtain ⟨events, recording, seen, executed, answers, ends⟩ :=
          inductionHypothesis next resumed
        have round : recordingLogout.exec (some .attempting) [.answered false false, .slept] =
            some (some .attempting, [.answered false]) := rfl
        have whole := Machine.exec_append.mpr ⟨_, _, seen, round, executed, rfl⟩
        have answered : ([RecordEvent.answered false false, .slept] ++ events).filterMap
            RecordEvent.answer = false :: _ := congrArg (List.cons false) answers
        exact ⟨_, recording, _, whole, answered, ends⟩

/-- For every outcome of the attempts and every moment of shutdown, `record_logout`
makes a first attempt, and another one only after a failure.  The wait after the
`n`-th failure is `min(500 ms * 2 ^ n, 30 s)`, exactly when the executor is on time
and never less, and computing it overflows nowhere; nor does counting the attempts,
below `2 ^ 32` failures.  The loop returns without success only because of the
shutdown, which leaves one attempt if it came before, and at most one more after it
has come; and it does return when an attempt succeeds or the shutdown comes. -/
theorem record_logout_retries (conditions : Conditions) (fuel start : Nat)
    (attempts : List Attempted) (ending : Ending)
    (ran : recordLogout conditions fuel start = (attempts, ending)) :
    (∀ attempt : UInt32, retryDelay attempt =
      some (min (fromMillis 500 * 2 ^ attempt.toNat) (fromSecs 30))) ∧
    (0 < fuel → ∃ first later, attempts = first :: later ∧ first.start = start) ∧
    (∀ n entry, attempts[n]? = some entry →
      entry.attempt.toNat = n ∧ entry.outcome = conditions.outcome n ∧
        entry.answered = entry.start + conditions.took n ∧
        (entry.failed = true →
          entry.delay = some (min (fromMillis 500 * 2 ^ n) (fromSecs 30)))) ∧
    (∀ n first second, attempts[n]? = some first → attempts[n + 1]? = some second →
      first.failed = true ∧
        first.answered + min (fromMillis 500 * 2 ^ n) (fromSecs 30) ≤ second.start ∧
        second.start ≤
          first.answered + min (fromMillis 500 * 2 ^ n) (fromSecs 30) + conditions.late n) ∧
    (attempts.countP Attempted.failed < 2 ^ 32 → ending ≠ .overflowed) ∧
    (∀ now, ending = .returned now →
      (∃ last, attempts.getLast? = some last ∧ last.failed = false) ∨
        ∃ moment ∈ conditions.cancelledAt, moment ≤ now) ∧
    (∀ moment ∈ conditions.cancelledAt,
      (moment ≤ start → 0 < fuel → ∃ only now, attempts = [only] ∧ ending = .returned now) ∧
        attempts.countP (fun entry => decide (moment ≤ entry.start)) ≤ 1) ∧
    ((∃ n < fuel, conditions.outcome n = .ok ()) ∨
        (∃ moment ∈ conditions.cancelledAt, 0 < fuel ∧ moment < start + fuel) →
      ending ≠ .unfinished) := by
  have retries := recordLogoutFrom_retries conditions fuel 0 start
  have zero : (0 : UInt32).toNat = 0 := rfl
  rw [recordLogout] at ran
  refine ⟨retryDelay_eq, fun enough => ?_, fun n entry found => ?_,
    fun n one two found next => ?_, fun few done => ?_, fun now done => ?_,
    fun moment present => ⟨fun early enough => ?_, ?_⟩, fun reached => ?_⟩
  · obtain ⟨rounds, rfl⟩ : ∃ rounds, fuel = rounds + 1 := ⟨fuel - 1, by omega⟩
    obtain ⟨first, later, made⟩ := recordLogoutFrom_first conditions rounds 0 start
    have begins := retries.first first (by rw [made]; rfl)
    rw [ran] at made
    exact ⟨first, later, made, begins⟩
  · rw [ran] at retries
    have numbered := retries.numbered n entry found
    rw [zero, Nat.zero_add] at numbered
    exact ⟨numbered.attempt, numbered.outcome, numbered.answered, numbered.delay⟩
  · rw [ran] at retries
    have follows := retries.follows n one two found next
    rw [zero, Nat.zero_add] at follows
    exact ⟨follows.failed, follows.full, follows.late⟩
  · rw [ran] at retries
    have full := retries.overflowed done
    have size : UInt32.size = 2 ^ 32 := rfl
    simp only [zero] at full
    omega
  · rw [ran] at retries
    exact retries.returned now done
  · obtain ⟨rounds, rfl⟩ : ∃ rounds, fuel = rounds + 1 := ⟨fuel - 1, by omega⟩
    obtain ⟨only, now, alone⟩ :=
      recordLogoutFrom_cancelled present early rounds (show (0 : UInt32).toNat + 1 < _ by decide)
    rw [ran, Prod.mk.injEq] at alone
    exact ⟨only, now, alone.1, alone.2⟩
  · rw [ran] at retries
    exact retries.stopped moment present
  · have ended : ending = (recordLogoutFrom conditions fuel 0 start).2 := by rw [ran]
    rw [ended]
    rcases reached with ⟨n, inside, accepted⟩ | ⟨moment, present, positive, inside⟩
    · exact finished_of_success accepted fuel 0 start (by omega) (by omega)
    · exact finished_of_cancelled present fuel 0 start positive inside

/-- Two failures, then a shutdown that comes while the task is waiting and loses the
race to the timer, and a third failure. -/
def lastChance : Conditions where
  outcome := fun _ => .error .sql
  took := fun _ => 0
  cancelledAt := some (fromMillis 1500)
  late := fun _ => 0
  sleepFirst := fun _ => true

theorem record_logout_retries_lastChance :
    ((recordLogout lastChance 9 0).1.map fun entry => entry.start) =
        [0, fromMillis 500, fromMillis 1500] ∧
      (recordLogout lastChance 9 0).1.countP
        (fun entry => decide (fromMillis 1500 ≤ entry.start)) ≤ 1 := by
  have ran := record_logout_retries lastChance 9 0 _ _ rfl
  exact ⟨by decide, (ran.2.2.2.2.2.2.1 (fromMillis 1500) rfl).2⟩

end RustGameserver.GameServer
