import RustGameserver.LoginServer.Authenticate
import RustGameserver.LoginServer.Indistinguishable

/-!
Contract: how logins end, given the accounts.

Owns:
- what the accounts and the password check say about credentials;
- that every login task of a LoginServer ends accordingly, unless its backend fails;
- that a session is authenticated only for credentials that are right.

Does not own: who has which credentials.
-/

namespace RustGameserver.LoginServer

open RustGameserver.Db
open RustGameserver.Foundation
open RustGameserver.Net
open RustGameserver.Proto
open RustGameserver.Session

/-- What is to be said about credentials. -/
inductive Verdict where
  | unknown
  | malformed
  | wrongPassword
  | banned
  | granted (row : AccountRow)
deriving DecidableEq, Repr

def judge (library : PasswordLibrary) (accounts : Accounts) (userId : String)
    (clientHash : List UInt8) : Verdict :=
  match accounts userId with
  | none => .unknown
  | some row =>
      match library.verify clientHash row.passwordHash row.salt with
      | .error _ => .malformed
      | .ok false => .wrongPassword
      | .ok true => if row.status = 1 then .banned else .granted row

/-- How a login ends whose backend works. -/
def Verdict.Expects : Verdict → LoginOutcome → Prop
  | .unknown, outcome | .wrongPassword, outcome => outcome = .failure .invalidCredentials
  | .malformed, outcome => outcome = .dbError
  | .banned, outcome => outcome = .failure .banned
  | .granted row, outcome => ∃ token, outcome = .success ⟨row.userId⟩ token

/-- A backend call has failed. -/
def Reply.troubled : Reply → Bool
  | .account (.error _) | .touched (.error _) | .issued (.error _) | .issued (.ok none) => true
  | .account (.ok _) | .touched (.ok _) | .issued (.ok (some _)) | .verified _ => false

/-- How a login ends whose backend fails. -/
def LoginOutcome.isTrouble : LoginOutcome → Bool
  | .dbError | .failure .serverError => true
  | .success .. | .failure _ => false

/-- The login has ended as it had to. -/
def Closed (verdict : Verdict) (replies : List Reply) (outcome : LoginOutcome) : Prop :=
  verdict.Expects outcome ∨ replies.any Reply.troubled = true ∧ outcome.isTrouble = true

variable {library : PasswordLibrary} {accounts : Accounts} {conditions : Conditions}
  {job moved : LoginJob} {keepAliveTimeout : Nat}

/-- Where a login task with these credentials stands. -/
def Stands (library : PasswordLibrary) (accounts : Accounts) (userId : String)
    (clientHash : List UInt8) (replies : List Reply) : JobState Work LoginOutcome → Prop
  | .running (.findAccount user hash) => user = userId ∧ hash = clientHash
  | .running (.verify row hash) => accounts userId = some row ∧ hash = clientHash
  | .running (.touchLastLogin row) | .running (.issueAuthToken row) =>
      judge library accounts userId clientHash = .granted row
  | .finished outcome | .ended outcome =>
      Closed (judge library accounts userId clientHash) replies outcome

/-- A login task that stands where its credentials have led it. -/
def Judged (library : PasswordLibrary) (accounts : Accounts) (job : LoginJob) : Prop :=
  ∃ userId clientHash, job.calls.head? = some (.findAccount userId clientHash) ∧
    Stands library accounts userId clientHash job.replies job.state

/-- Where a task is after a reply. -/
def stateAfter : Progress Work LoginOutcome → JobState Work LoginOutcome
  | .awaits next => .running next
  | .returns outcome => .finished outcome

/-! ## One login task -/

/-- What a task that gets its reply does next. -/
theorem Stands.resumes {userId : String} {clientHash : List UInt8} {replies : List Reply}
    {work : Work} {progress : Progress Work LoginOutcome}
    (stands : Stands library accounts userId clientHash replies (.running work))
    (resumed : authenticate work (respond library accounts conditions work) = some progress) :
    Stands library accounts userId clientHash
      (replies ++ [respond library accounts conditions work])
      (stateAfter progress) := by
  cases work with
  | findAccount user hash =>
      obtain ⟨rfl, rfl⟩ := stands
      simp only [respond] at resumed ⊢
      cases failed : conditions.lookup with
      | some error =>
          simp only [failed, authenticate, Option.some.injEq] at resumed
          subst resumed
          exact .inr ⟨by simp [Reply.troubled], rfl⟩
      | none =>
          simp only [failed, authenticate] at resumed
          cases found : accounts user with
          | none =>
              simp only [found, Option.some.injEq] at resumed
              subst resumed
              exact .inl (by simp [judge, found, Verdict.Expects])
          | some row =>
              simp only [found, Option.some.injEq] at resumed
              subst resumed
              exact ⟨found, rfl⟩
  | verify row hash =>
      obtain ⟨found, rfl⟩ := stands
      simp only [respond, verified] at resumed ⊢
      cases checked : library.verify hash row.passwordHash row.salt with
      | error error =>
          cases error
          simp only [checked, authenticate, Option.some.injEq] at resumed
          subst resumed
          exact .inl (by simp [judge, found, checked, Verdict.Expects])
      | ok verdict =>
          cases verdict with
          | false =>
              simp only [checked, authenticate, Option.some.injEq] at resumed
              subst resumed
              exact .inl (by simp [judge, found, checked, Verdict.Expects])
          | true =>
              simp only [checked, authenticate] at resumed
              by_cases banned : row.status = 1
              · rw [if_pos banned, Option.some.injEq] at resumed
                subst resumed
                exact .inl (by simp [judge, found, checked, banned, Verdict.Expects])
              · rw [if_neg banned, Option.some.injEq] at resumed
                subst resumed
                show judge library accounts userId hash = .granted row
                simp [judge, found, checked, banned]
  | touchLastLogin row =>
      simp only [respond] at resumed ⊢
      cases touched : conditions.touched with
      | error error =>
          simp only [touched, authenticate, Option.some.injEq] at resumed
          subst resumed
          exact .inr ⟨by simp [Reply.troubled], rfl⟩
      | ok =>
          simp only [touched, authenticate, Option.some.injEq] at resumed
          subst resumed
          exact stands
  | issueAuthToken row =>
      have granted : judge library accounts userId clientHash = .granted row := stands
      simp only [respond] at resumed ⊢
      rcases issued : conditions.issued with error | token
      · simp only [issued, authenticate, Option.some.injEq] at resumed
        subst resumed
        exact .inr ⟨by simp [Reply.troubled], rfl⟩
      · cases token with
        | none =>
            simp only [issued, authenticate, Option.some.injEq] at resumed
            subst resumed
            exact .inr ⟨by simp [Reply.troubled], rfl⟩
        | some token =>
            simp only [issued, authenticate, Option.some.injEq] at resumed
            subst resumed
            refine .inl ?_
            rw [granted]
            exact ⟨token, rfl⟩

theorem Judged.turn (judged : Judged library accounts job)
    (taken : turn library accounts conditions job = some moved) :
    Judged library accounts moved := by
  obtain ⟨userId, clientHash, head, stands⟩ := judged
  unfold LoginServer.turn at taken
  split at taken
  · next work running =>
      rw [running] at stands
      split at taken
      · next next resumed =>
          cases taken
          exact ⟨userId, clientHash, by simp [head], stands.resumes resumed⟩
      · next outcome resumed =>
          cases taken
          exact ⟨userId, clientHash, head, stands.resumes resumed⟩
      · contradiction
  · cases taken
    exact ⟨userId, clientHash, head, stands⟩
  · cases taken
    exact ⟨userId, clientHash, head, stands⟩

theorem Judged.ended {outcome : LoginOutcome} (judged : Judged library accounts job)
    (finished : job.state = .finished outcome) :
    Judged library accounts { job with state := .ended outcome } := by
  obtain ⟨userId, clientHash, head, stands⟩ := judged
  rw [finished] at stands
  exact ⟨userId, clientHash, head, stands⟩

/-! ## The sessions of a LoginServer -/

variable {state after : LoginState} {history seen : List LoginSeen} {task next : LoginTask}

/-- Every new task looks an account up first. -/
theorem newJobs_findAccount {event : Event Reply} :
    ∀ job ∈ task.newJobs (service keepAliveTimeout) event, ∃ userId clientHash,
      job = ⟨[.findAccount userId clientHash], [], .running (.findAccount userId clientHash)⟩ := by
  intro job member
  have spawned {reaction : Reaction Session Work} (own : job ∈ reaction.newJobs) :
      ∃ fields work, reaction = .spawn fields work ∧ job = ⟨[work], [], .running work⟩ := by
    cases reaction with
    | spawn fields work => exact ⟨fields, work, rfl, List.mem_singleton.mp own⟩
    | proceed | stop | send | authenticate => contradiction
  cases event with
  | select now frame =>
      cases reacts : task.reactionTo (service keepAliveTimeout) now frame with
      | none =>
          rw [Task.newJobs, reacts] at member
          contradiction
      | some reaction =>
          rw [Task.newJobs, reacts] at member
          obtain ⟨fields, work, rfl, rfl⟩ := spawned member
          cases frame with
          | none =>
              obtain ⟨taken, _, answered⟩ := Option.map_eq_some_iff.mp reacts
              have answers := task.fields.onLoginOutcome_cases now taken.1.2
              rw [show task.fields.onLoginOutcome now taken.1.2 = .spawn fields work from answered]
                at answers
              generalize taken.1.2 = outcome at answers
              cases answers
          | some frame =>
              cases frame with
              | message message =>
                  have handles := task.fields.onRemote_cases now message
                  rw [show task.fields.onRemote now message = .spawn fields work from
                    Option.some.inj reacts] at handles
                  obtain ⟨req, _, rfl⟩ := handles.spawn
                  exact ⟨_, _, rfl⟩
              | error | closed => contradiction
  | _ => contradiction

/-- A step of a session without a reply keeps its tasks where they stand. -/
theorem jobs_judged {event : Event Reply} {made : List (Seen Session Work Reply LoginOutcome)}
    (judged : ∀ job ∈ task.jobs, Judged library accounts job)
    (noReply : ∀ index reply, event ≠ .reply index reply)
    (stepped : task.step (service keepAliveTimeout) event = some (next, made)) :
    ∀ job ∈ next.jobs, Judged library accounts job := by
  intro job member
  by_cases session : event.ofJob = false
  · rw [Task.step_jobs _ task session stepped, List.mem_append] at member
    rcases member with old | new
    · exact judged job old
    · obtain ⟨userId, clientHash, rfl⟩ := newJobs_findAccount job new
      exact ⟨userId, clientHash, rfl, rfl, rfl⟩
  · cases event with
    | reply index reply => exact absurd rfl (noReply index reply)
    | deliver index =>
        obtain ⟨moved, delivered, outcome⟩ := Option.map_eq_some_iff.mp stepped
        cases outcome
        obtain ⟨old, message, present, finished, way⟩ := Task.deliver_eq delivered
        have jobs : next.jobs = task.jobs.set index { old with state := .ended message } := by
          rcases way with ⟨inner, _, rfl⟩ | ⟨_, rfl⟩ <;> rfl
        rw [jobs] at member
        rcases List.mem_or_eq_of_mem_set member with same | rfl
        · exact judged job same
        · exact (judged old (List.mem_of_getElem? present)).ended finished
    | _ => contradiction

/-- Every login task of every session stands where its credentials have led it. -/
theorem reaches_judged (run : (scheduled keepAliveTimeout library accounts).Reaches state history)
    {sessionId : SessionId} (present : state.tasks.get sessionId = some task) :
    ∀ job ∈ task.jobs, Judged library accounts job := by
  induction run generalizing sessionId task with
  | initial start =>
      cases start
      rw [FiniteMap.get_empty] at present
      contradiction
  | @step before after history seen turn run taken inductionHypothesis =>
      cases turn with
      | backend owner index conditions =>
          obtain ⟨old, job, moved, there, found, turned, rfl, _⟩ := backend_step taken
          have tasks : (old.withJobs (old.jobs.set index moved)).jobs = old.jobs.set index moved :=
            rfl
          rw [ServerState.withTasks, FiniteMap.get_insert] at present
          split at present
          · cases present
            intro other member
            rw [tasks] at member
            have judged := inductionHypothesis there
            rcases List.mem_or_eq_of_mem_set member with same | rfl
            · exact judged other same
            · exact (judged job (List.mem_of_getElem? found)).turn turned
          · exact inductionHypothesis present
      | server event =>
          simp only [scheduled] at taken
          split at taken
          · contradiction
          · next noReply =>
              cases server_step_cases taken with
              | drawn => exact inductionHypothesis present
              | disconnected => exact inductionHypothesis present
              | shutDown => exact inductionHypothesis present
              | accepted =>
                  rw [FiniteMap.get_insert] at present
                  split at present
                  · cases present
                    intro job member
                    contradiction
                  · exact inductionHypothesis present
              | moved owner event old there admitted stepped =>
                  rw [moved_tasks] at present
                  split at present
                  · cases present
                    apply jobs_judged (inductionHypothesis there) _ stepped
                    rintro index reply rfl
                    exact noReply rfl
                  · exact inductionHypothesis present

/-! ## The credentials of a login -/

/-- The session has been asked to log in with these credentials. -/
def Requested (history : List LoginSeen) (sessionId : SessionId) (userId : String)
    (clientHash : List UInt8) : Prop :=
  ∃ before message, .session sessionId (.handled before message) ∈ history ∧
    credentials message = some (userId, clientHash)

theorem spawned_requested {own : List (Seen Session Work Reply LoginOutcome)}
    (run : (machine (service keepAliveTimeout)).Reaches task own) {index : Nat} {userId : String}
    {clientHash : List UInt8} (member : .spawned index (.findAccount userId clientHash) ∈ own) :
    ∃ before message, .handled before message ∈ own ∧
      credentials message = some (userId, clientHash) := by
  obtain ⟨front, back, rfl⟩ := List.append_of_mem member
  obtain ⟨cause, fields, input⟩ := reaches_justified run front _ back rfl
  generalize spawns : Reaction.spawn fields (Work.findAccount userId clientHash) = reaction at input
  cases input with
  | connection => contradiction
  | frame earlier other now message =>
      obtain ⟨req, asked, same⟩ := Session.Handles.spawn
        (by rw [spawns]; exact other.onRemote_cases now message)
      cases same
      exact ⟨other, message, by simp, by simp [credentials, asked]⟩
  | result earlier other now job outcome => cases outcome <;> contradiction

theorem judge_granted {userId : String} {clientHash : List UInt8} {row : AccountRow}
    (granted : judge library accounts userId clientHash = .granted row) :
    accounts userId = some row ∧ library.verify clientHash row.passwordHash row.salt = .ok true ∧
      row.status ≠ 1 := by
  unfold judge at granted
  split at granted
  · contradiction
  · next found lookup =>
      split at granted
      · contradiction
      · contradiction
      · next verified =>
          split at granted
          · contradiction
          · next unbanned =>
              cases granted
              exact ⟨lookup, verified, unbanned⟩

theorem closed_success {verdict : Verdict} {replies : List Reply} {account : Account}
    {token : String} (closed : Closed verdict replies (.success account token)) :
    ∃ row, verdict = .granted row ∧ account = ⟨row.userId⟩ := by
  rcases closed with expected | ⟨_, trouble⟩
  · cases verdict with
    | granted row =>
        obtain ⟨_, same⟩ := expected
        cases same
        exact ⟨row, rfl, rfl⟩
    | unknown | malformed | wrongPassword | banned => contradiction
  · contradiction

/-- Only the success of a login task registers a user id. -/
theorem authenticate_success {own : List (Seen Session Work Reply LoginOutcome)}
    (run : (machine (service keepAliveTimeout)).Reaches task own) {fields : Session}
    {userId : String} (member : .authenticate fields userId ∈ own) :
    ∃ job account token, job ∈ task.jobs ∧ job.state = .ended (.success account token) ∧
      userId = account.userId := by
  obtain ⟨front, back, rfl⟩ := List.append_of_mem member
  obtain ⟨cause, payload, input⟩ := reaches_justified run front _ back rfl
  generalize registers : Reaction.authenticate fields userId payload = reaction at input
  cases input with
  | connection => contradiction
  | frame earlier other now message =>
      have handles := other.onRemote_cases now message
      rw [show other.onRemote now message = .authenticate fields userId payload from
        registers.symm] at handles
      cases handles
  | result earlier other now index outcome =>
      have answers := other.onLoginOutcome_cases now outcome
      rw [show other.onLoginOutcome now outcome = .authenticate fields userId payload from
        registers.symm] at answers
      cases answers with
      | authenticated account token =>
          obtain ⟨job, present, ended⟩ := (reaches_tracked run).delivered index
            (.success account token) (by simp [consumed, Seen.consumedMessage])
          exact ⟨job, account, token, List.mem_of_getElem? present, ended, rfl⟩

/-- Logins end as the accounts and the password check say: a login task whose backend works
ends with the verdict on its credentials, any other one may end with an error instead; and a
session gets a user id only if it has asked for it, by any spelling that finds the row, with
the right password, the row not being banned. -/
theorem logins_judged (run : (scheduled keepAliveTimeout library accounts).Reaches state history)
    {sessionId : SessionId} (present : state.tasks.get sessionId = some task) :
    (∀ job ∈ task.jobs, ∃ userId clientHash, Requested history sessionId userId clientHash ∧
      job.calls.head? = some (.findAccount userId clientHash) ∧
      ∀ outcome, job.state = .finished outcome ∨ job.state = .ended outcome →
        (judge library accounts userId clientHash).Expects outcome ∨
          job.replies.any Reply.troubled = true ∧ outcome.isTrouble = true) ∧
    ∀ fields registered, .session sessionId (.authenticate fields registered) ∈ history →
      ∃ userId clientHash row, Requested history sessionId userId clientHash ∧
        accounts userId = some row ∧
        library.verify clientHash row.passwordHash row.salt = .ok true ∧ row.status ≠ 1 ∧
        registered = row.userId := by
  have own := reaches_session (scheduled_reaches run) present
  have credited (job) (member : job ∈ task.jobs) :
      ∃ userId clientHash, Requested history sessionId userId clientHash ∧
        job.calls.head? = some (.findAccount userId clientHash) ∧
        Stands library accounts userId clientHash job.replies job.state := by
    obtain ⟨userId, clientHash, head, stands⟩ := reaches_judged run present job member
    obtain ⟨index, found⟩ := List.mem_iff_getElem?.mp member
    obtain ⟨work, first, spawned⟩ := ((reaches_tracked own).recorded index job found).spawned
    rw [head, Option.some.injEq] at first
    rw [← first] at spawned
    obtain ⟨before, message, handled, asked⟩ := spawned_requested own spawned
    exact ⟨userId, clientHash, ⟨before, message, mem_historyOf.mp handled, asked⟩, head, stands⟩
  constructor
  · intro job member
    obtain ⟨userId, clientHash, requested, head, stands⟩ := credited job member
    refine ⟨userId, clientHash, requested, head, ?_⟩
    intro outcome ended
    rcases ended with same | same <;> rw [same] at stands <;> exact stands
  · intro fields registered member
    obtain ⟨job, account, token, among, ended, rfl⟩ :=
      authenticate_success own (mem_historyOf.mpr member)
    obtain ⟨userId, clientHash, requested, _, stands⟩ := credited job among
    rw [ended] at stands
    obtain ⟨row, granted, rfl⟩ := closed_success stands
    obtain ⟨found, verified, unbanned⟩ := judge_granted granted
    exact ⟨userId, clientHash, row, requested, found, verified, unbanned, rfl⟩

theorem logins_judged_guessThenLogin :
    ∃ state history,
      (scheduled 10 smallLibrary aliceAndBob).exec ⟨.default, .empty, 0, [], [], false⟩
        guessThenLogin = some (state, history) ∧
      callsOf history = [⟨.register 1 ⟨0⟩, []⟩, ⟨.authenticate 1 "alice", []⟩] ∧
      ∃ userId clientHash row, Requested history 1 userId clientHash ∧
        aliceAndBob userId = some row ∧
        smallLibrary.verify clientHash row.passwordHash row.salt = .ok true ∧ row.status ≠ 1 ∧
        row.userId = "alice" := by
  have runs : ∃ state history task fields,
      (scheduled 10 smallLibrary aliceAndBob).exec ⟨.default, .empty, 0, [], [], false⟩
        guessThenLogin = some (state, history) ∧
      callsOf history = [⟨.register 1 ⟨0⟩, []⟩, ⟨.authenticate 1 "alice", []⟩] ∧
      state.tasks.get 1 = some task ∧
      history[15]? = some (.session 1 (.authenticate fields "alice")) :=
    ⟨_, _, _, _, rfl, rfl, rfl, rfl⟩
  obtain ⟨state, history, task, fields, executed, calls, present, place⟩ := runs
  have member : .session 1 (.authenticate fields "alice") ∈ history :=
    List.mem_of_getElem? place
  obtain ⟨_, registered⟩ := logins_judged (Machine.reaches_of_exec rfl executed) present
  obtain ⟨userId, clientHash, row, requested, found, verified, unbanned, same⟩ :=
    registered fields "alice" member
  exact ⟨state, history, executed, calls, userId, clientHash, row, requested, found, verified,
    unbanned, same.symm⟩

end RustGameserver.LoginServer
