import Mathlib.Data.List.Forall2
import RustGameserver.LoginServer.Schedule
import RustGameserver.Session.Substitution

/-!
Contract: LoginServer sessions over two tables of accounts.

Owns:
- when credentials do not tell two tables of accounts apart;
- login tasks that are alike, because they are the same or both bound to fail;
- sessions that differ in such tasks only, and that their steps keep them alike.

Does not own: the servers of the sessions.
-/

namespace RustGameserver.LoginServer

open RustGameserver.Db
open RustGameserver.Foundation
open RustGameserver.Net
open RustGameserver.Proto
open RustGameserver.Session

abbrev LoginJob : Type := Job Work Reply LoginOutcome

/-- The password is not that of the user's row, should there be one. -/
def Fails (library : PasswordLibrary) (accounts : Accounts) (userId : String)
    (clientHash : List UInt8) : Prop :=
  ∀ row, accounts userId = some row →
    library.verify clientHash row.passwordHash row.salt = .ok false

/-- The calls that leave a trace of a login behind. -/
def isEffect : Work → Bool
  | .touchLastLogin _ | .issueAuthToken _ => true
  | .findAccount .. | .verify .. => false

/-- The calls of `touch_last_login` and `issue_auth_token`, with their arguments. -/
def effects (calls : List Work) : List Work := calls.filter isEffect

/-! ## One login task -/

/-- A login task on its turn. -/
def turn (library : PasswordLibrary) (accounts : Accounts) (conditions : Conditions)
    (job : LoginJob) : Option LoginJob :=
  match job.state with
  | .running work =>
      match authenticate work (respond library accounts conditions work) with
      | some (.awaits next) =>
          some ⟨job.calls ++ [next], job.replies ++ [respond library accounts conditions work],
            .running next⟩
      | some (.returns outcome) =>
          some ⟨job.calls, job.replies ++ [respond library accounts conditions work],
            .finished outcome⟩
      | none => none
  | .finished _ | .ended _ => some job

/-- A login task that has nothing but the refusal of its password before it or behind
it. -/
inductive Doomed (library : PasswordLibrary) : JobState Work LoginOutcome → Prop where
  | verifying (row : AccountRow) (clientHash : List UInt8)
      (wrong : library.verify clientHash row.passwordHash row.salt = .ok false) :
      Doomed library (.running (.verify row clientHash))
  | finished : Doomed library (.finished (.failure .invalidCredentials))
  | ended : Doomed library (.ended (.failure .invalidCredentials))

variable {library : PasswordLibrary} {left right accounts : Accounts} {conditions : Conditions}
  {job moved one other : LoginJob}

/-- A doomed task stays so on its turn, and makes no further call. -/
theorem Doomed.turn (doomed : Doomed library job.state)
    (taken : LoginServer.turn library accounts conditions job = some moved) :
    Doomed library moved.state ∧ moved.pending = job.pending ∧ moved.calls = job.calls := by
  unfold LoginServer.turn at taken
  generalize state : job.state = old at doomed taken
  cases doomed with
  | verifying row clientHash wrong =>
      simp only [respond, verified, wrong, authenticate, Option.some.injEq] at taken
      rw [← taken]
      exact ⟨.finished, by simp [Job.pending, state], rfl⟩
  | finished =>
      simp only [Option.some.injEq] at taken
      rw [← taken, state]
      exact ⟨.finished, rfl, rfl⟩
  | ended =>
      simp only [Option.some.injEq] at taken
      rw [← taken, state]
      exact ⟨.ended, rfl, rfl⟩

/-- The credentials do not tell the tables apart. -/
def Harmless (library : PasswordLibrary) (left right : Accounts) (userId : String)
    (clientHash : List UInt8) : Prop :=
  left userId = right userId ∨
    Fails library left userId clientHash ∧ Fails library right userId clientHash

/-- A login task that looks an account up does so with harmless credentials. -/
def Careful (library : PasswordLibrary) (left right : Accounts) (job : LoginJob) : Prop :=
  ∀ userId clientHash, job.state = .running (.findAccount userId clientHash) →
    Harmless library left right userId clientHash ∧ effects job.calls = []

/-- Login tasks over two tables: the same, or both doomed and both waiting or both
through with their result. -/
inductive AlikeJobs (library : PasswordLibrary) (left right : Accounts) :
    LoginJob → LoginJob → Prop where
  | same (job : LoginJob) (careful : Careful library left right job) :
      AlikeJobs library left right job job
  | doomed {one other : LoginJob} (first : Doomed library one.state)
      (second : Doomed library other.state) (pending : one.pending = other.pending)
      (noEffect : effects one.calls = [] ∧ effects other.calls = []) :
      AlikeJobs library left right one other

/-- No reply makes a login task look an account up. -/
theorem authenticate_awaits {work : Work} {reply : Reply} {userId : String}
    {clientHash : List UInt8} :
    authenticate work reply ≠ some (.awaits (.findAccount userId clientHash)) := by
  intro resumed
  unfold authenticate at resumed
  split at resumed <;> (try split at resumed) <;> (try split at resumed) <;> simp at resumed

/-- A turn makes no task look an account up. -/
theorem careful_turn (careful : Careful library left right job)
    (taken : turn library accounts conditions job = some moved) :
    Careful library left right moved := by
  intro userId clientHash looking
  unfold turn at taken
  split at taken
  · split at taken
    · next resumed =>
        rw [Option.some.injEq] at taken
        rw [← taken, JobState.running.injEq] at looking
        rw [looking] at resumed
        exact absurd resumed authenticate_awaits
    · rw [Option.some.injEq] at taken
      rw [← taken] at looking
      contradiction
    · contradiction
  · rw [Option.some.injEq] at taken
    rw [← taken] at looking ⊢
    exact careful userId clientHash looking
  · rw [Option.some.injEq] at taken
    rw [← taken] at looking ⊢
    exact careful userId clientHash looking

/-- What a lookup with a wrong password leads to. -/
theorem lookup_turn {userId : String} {clientHash : List UInt8}
    (looking : job.state = .running (.findAccount userId clientHash))
    (fails : Fails library accounts userId clientHash) (working : conditions.lookup = none)
    (noEffect : effects job.calls = [])
    (taken : turn library accounts conditions job = some moved) :
    Doomed library moved.state ∧ moved.pending = true ∧ effects moved.calls = [] := by
  simp only [turn, looking, respond, working] at taken
  cases found : accounts userId with
  | none =>
      simp only [found, authenticate, Option.some.injEq] at taken
      rw [← taken]
      exact ⟨.finished, rfl, noEffect⟩
  | some row =>
      simp only [found, authenticate, Option.some.injEq] at taken
      rw [← taken]
      refine ⟨.verifying row clientHash (fails row found), rfl, ?_⟩
      rw [effects, List.filter_append, show job.calls.filter isEffect = [] from noEffect]
      rfl

/-- Only a lookup can tell the tables apart. -/
theorem turn_congr
    (agree : ∀ userId clientHash, job.state = .running (.findAccount userId clientHash) →
      conditions.lookup = none → left userId = right userId) :
    turn library left conditions job = turn library right conditions job := by
  unfold turn
  cases state : job.state with
  | finished => rfl
  | ended => rfl
  | running work =>
      have same : respond library left conditions work = respond library right conditions work := by
        cases work with
        | findAccount userId clientHash =>
            cases working : conditions.lookup with
            | some error => simp only [respond, working]
            | none => simp only [respond, working, agree userId clientHash state working]
        | _ => rfl
      simp only [same]

/-- The replies to two tasks that are alike keep them alike. -/
theorem AlikeJobs.turn (alike : AlikeJobs library left right one other)
    {nextOne nextOther : LoginJob}
    (first : LoginServer.turn library left conditions one = some nextOne)
    (second : LoginServer.turn library right conditions other = some nextOther) :
    AlikeJobs library left right nextOne nextOther := by
  cases alike with
  | doomed doomedOne doomedOther pending noEffect =>
      obtain ⟨stillOne, samePending, sameCalls⟩ := doomedOne.turn first
      obtain ⟨stillOther, alsoPending, alsoCalls⟩ := doomedOther.turn second
      refine .doomed stillOne stillOther (samePending.trans (pending.trans alsoPending.symm)) ?_
      rw [sameCalls, alsoCalls]
      exact noEffect
  | same careful =>
      by_cases tells : ∃ userId clientHash, one.state = .running (.findAccount userId clientHash) ∧
          conditions.lookup = none ∧ left userId ≠ right userId
      · obtain ⟨userId, clientHash, looking, working, differ⟩ := tells
        obtain ⟨harmless, noEffect⟩ := careful userId clientHash looking
        obtain ⟨failsLeft, failsRight⟩ := harmless.resolve_left differ
        obtain ⟨doomedOne, waits, effectsOne⟩ :=
          lookup_turn looking failsLeft working noEffect first
        obtain ⟨doomedOther, waitsToo, effectsOther⟩ :=
          lookup_turn looking failsRight working noEffect second
        exact .doomed doomedOne doomedOther (waits.trans waitsToo.symm) ⟨effectsOne, effectsOther⟩
      · have agree : LoginServer.turn library left conditions one =
            LoginServer.turn library right conditions one := by
          apply turn_congr
          intro userId clientHash looking working
          by_contra differ
          exact tells ⟨userId, clientHash, looking, working, differ⟩
        rw [agree, second, Option.some.injEq] at first
        rw [← first]
        exact .same nextOther (careful_turn careful second)

/-- Two tasks that are alike deliver the same result, and are alike then. -/
theorem AlikeJobs.deliver (alike : AlikeJobs library left right one other)
    {message outcome : LoginOutcome} (first : one.state = .finished message)
    (second : other.state = .finished outcome) :
    message = outcome ∧
      AlikeJobs library left right { one with state := .ended message }
        { other with state := .ended outcome } := by
  cases alike with
  | same careful =>
      have same := first.symm.trans second
      rw [JobState.finished.injEq] at same
      rw [same]
      exact ⟨rfl, .same _ nofun⟩
  | doomed doomedOne doomedOther pending noEffect =>
      rw [first] at doomedOne
      rw [second] at doomedOther
      cases doomedOne
      cases doomedOther
      exact ⟨rfl, .doomed .ended .ended rfl noEffect⟩

theorem AlikeJobs.effects (alike : AlikeJobs library left right one other) :
    LoginServer.effects one.calls = LoginServer.effects other.calls := by
  cases alike with
  | same => rfl
  | doomed _ _ _ noEffect => rw [noEffect.1, noEffect.2]

/-! ## One session -/

/-- Sessions that differ in their tasks only, which are alike. -/
def AlikeTasks (library : PasswordLibrary) (left right : Accounts) (one other : LoginTask) : Prop :=
  ∃ jobs, other = one.withJobs jobs ∧ List.Forall₂ (AlikeJobs library left right) one.jobs jobs

theorem forall₂_lookup {jobs others : List LoginJob}
    (alike : List.Forall₂ (AlikeJobs library left right) jobs others) {index : Nat}
    {one other : LoginJob} (first : jobs[index]? = some one)
    (second : others[index]? = some other) : AlikeJobs library left right one other := by
  obtain ⟨bound, rfl⟩ := List.getElem?_eq_some_iff.mp first
  obtain ⟨boundToo, rfl⟩ := List.getElem?_eq_some_iff.mp second
  exact alike.get bound boundToo

theorem forall₂_set {jobs others : List LoginJob}
    (alike : List.Forall₂ (AlikeJobs library left right) jobs others) {one other : LoginJob}
    (moved : AlikeJobs library left right one other) (index : Nat) :
    List.Forall₂ (AlikeJobs library left right) (jobs.set index one) (others.set index other) := by
  induction alike generalizing index with
  | nil => exact .nil
  | cons first rest inductionHypothesis =>
      cases index with
      | zero => exact .cons moved rest
      | succ index => exact .cons first (inductionHypothesis index)

variable {keepAliveTimeout : Nat} {a b nextA nextB : LoginTask}
  {seenA seenB : List (Seen Session Work Reply LoginOutcome)}

/-- The login task that a harmless request starts is careful. -/
theorem newJobs_careful {event : Event Reply} (harmless : ∀ now message userId clientHash,
      event = .select now (some (.message message)) →
        credentials message = some (userId, clientHash) →
          Harmless library left right userId clientHash) :
    ∀ job ∈ a.newJobs (service keepAliveTimeout) event, Careful library left right job := by
  intro job member userId clientHash looking
  cases event with
  | select now frame =>
      cases frame with
      | none =>
          simp only [Task.newJobs, Task.reactionTo] at member
          cases received : a.inner.tryRecv with
          | none => simp [received] at member
          | some taken =>
              have answers := a.fields.onLoginOutcome_cases now taken.1.2
              rw [received, Option.map_some, Option.elim_some,
                show (service keepAliveTimeout).onInner a.fields now taken.1.2 =
                  a.fields.onLoginOutcome now taken.1.2 from rfl] at member
              generalize a.fields.onLoginOutcome now taken.1.2 = reaction at answers member
              generalize taken.1.2 = outcome at answers
              cases answers <;> contradiction
      | some frame =>
          cases frame with
          | message message =>
              have handles := a.fields.onRemote_cases now message
              simp only [Task.newJobs, Task.reactionTo, Option.elim_some] at member
              rw [show (service keepAliveTimeout).onRemote a.fields now message =
                a.fields.onRemote now message from rfl] at member
              generalize a.fields.onRemote now message = reaction at handles member
              cases handles with
              | lookedUp req asked =>
                  rw [Reaction.newJobs, List.mem_singleton] at member
                  rw [member, JobState.running.injEq, Work.findAccount.injEq] at looking
                  rw [← looking.1, ← looking.2, member]
                  exact ⟨harmless now message _ _ rfl (by rw [credentials, asked]), rfl⟩
              | _ => contradiction
          | error => contradiction
          | closed => contradiction
  | _ => contradiction

/-- Sessions that are alike deliver alike. -/
theorem AlikeTasks.deliver (alike : AlikeTasks library left right a b) {index : Nat}
    (first : a.deliver index = some nextA) (second : b.deliver index = some nextB) :
    AlikeTasks library left right nextA nextB := by
  obtain ⟨jobs, rfl, all⟩ := alike
  obtain ⟨one, message, presentA, finishedA, wayA⟩ := Task.deliver_eq first
  obtain ⟨other, outcome, presentB, finishedB, wayB⟩ := Task.deliver_eq second
  have pair := forall₂_lookup all presentA presentB
  obtain ⟨rfl, ended⟩ := pair.deliver finishedA finishedB
  have moved := forall₂_set all ended index
  rcases wayA with ⟨inner, queued, rfl⟩ | ⟨gone, rfl⟩
  · rcases wayB with ⟨innerToo, queuedToo, rfl⟩ | ⟨goneToo, rfl⟩
    · have same : Except.ok inner = Except.ok innerToo := queued.symm.trans queuedToo
      cases same
      exact ⟨_, rfl, moved⟩
    · have differ := queued.symm.trans goneToo
      contradiction
  · rcases wayB with ⟨innerToo, queuedToo, rfl⟩ | ⟨goneToo, rfl⟩
    · have differ := gone.symm.trans queuedToo
      contradiction
    · exact ⟨_, rfl, moved⟩

/-- Sessions that are alike take the same steps, and are alike then. -/
theorem AlikeTasks.step (alike : AlikeTasks library left right a b) {event : Event Reply}
    (harmless : ∀ now message userId clientHash,
      event = .select now (some (.message message)) →
        credentials message = some (userId, clientHash) →
          Harmless library left right userId clientHash)
    (noReply : ∀ job reply, event ≠ .reply job reply)
    (first : a.step (service keepAliveTimeout) event = some (nextA, seenA))
    (second : b.step (service keepAliveTimeout) event = some (nextB, seenB)) :
    AlikeTasks library left right nextA nextB ∧ seenA = seenB := by
  by_cases session : event.ofJob = false
  · obtain ⟨jobs, rfl, all⟩ := alike
    have grown := Task.step_jobs _ a session first
    rw [Task.step_withJobs _ a all.length_eq.symm session, first, Option.map_some,
      Option.some.injEq, Prod.mk.injEq] at second
    obtain ⟨rfl, rfl⟩ := second
    refine ⟨⟨_, rfl, ?_⟩, rfl⟩
    rw [grown]
    refine List.rel_append all (List.forall₂_same.mpr fun job member => ?_)
    exact .same job (newJobs_careful harmless job member)
  · cases event with
    | reply job reply => exact absurd rfl (noReply job reply)
    | deliver index =>
        simp only [Task.step, Option.map_eq_some_iff, Prod.mk.injEq] at first second
        obtain ⟨_, deliveredA, rfl, rfl⟩ := first
        obtain ⟨_, deliveredB, rfl, rfl⟩ := second
        exact ⟨alike.deliver deliveredA deliveredB, rfl⟩
    | _ => exact absurd rfl session

end RustGameserver.LoginServer
