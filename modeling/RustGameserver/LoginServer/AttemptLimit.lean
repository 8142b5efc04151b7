import RustGameserver.Foundation.FixedWindow
import RustGameserver.LoginServer.SingleRequest

/-!
Contract: how many login attempts a LoginServer session grants its client.

Owns:
- the attempts of a session, which are the login requests it handles without an
  account;
- that they are the log of a limiter with a fixed window, as long as the counter of
  the code does not wrap around;
- the strength of the limit, in a window and in any interval of its width.

Does not own: what comes of an attempt that is granted.
-/

namespace RustGameserver.LoginServer

open RustGameserver.Foundation
open RustGameserver.Foundation.FixedWindow
open RustGameserver.Net
open RustGameserver.Proto
open RustGameserver.Session

/-! ## The attempts -/

/-- A login request as it meets a session without an account. -/
structure LoginAttempt where
  now : Nat
  before : Session

namespace LoginAttempt

/-- `try_consume_login_attempt` returns true. -/
def granted (attempt : LoginAttempt) : Bool :=
  (attempt.before.tryConsumeLoginAttempt attempt.now).2

/-- `try_consume_login_attempt` starts a window. -/
def opens (attempt : LoginAttempt) : Bool :=
  attempt.before.loginWindow.all fun start =>
    loginAttemptWindow ≤ durationSince attempt.now start

def entry (attempt : LoginAttempt) : FixedWindow.Entry :=
  ⟨attempt.now, attempt.opens, attempt.granted⟩

end LoginAttempt

def loginAttempt : Nat × Seen Session Work Reply LoginOutcome → Option LoginAttempt
  | (now, .handled before message) =>
      if isLoginRequest message && before.account.isNone then some ⟨now, before⟩ else none
  | _ => none

/-- The attempts among what has been observed, in their order. -/
def attemptsOf (history : List (Nat × Seen Session Work Reply LoginOutcome)) : List LoginAttempt :=
  history.filterMap loginAttempt

/-- The attempts since the last window was started, the one that started it included. -/
def sinceOpening (attempts : List LoginAttempt) : Nat :=
  attempts.foldl (fun count attempt => if attempt.opens then 1 else count + 1) 0

theorem sinceOpening_snoc (attempts : List LoginAttempt) (attempt : LoginAttempt) :
    sinceOpening (attempts ++ [attempt]) =
      if attempt.opens then 1 else sinceOpening attempts + 1 := by
  simp [sinceOpening]

/-- The counter of attempts never reaches its width. -/
def Countable (attempts : List LoginAttempt) : Prop :=
  ∀ earlier later, attempts = earlier ++ later → sinceOpening earlier < UInt32.size

theorem Countable.earlier {earlier later : List LoginAttempt}
    (countable : Countable (earlier ++ later)) : Countable earlier := by
  intro first rest shape
  exact countable first (rest ++ later) (by rw [shape, List.append_assoc])

/-! ## One attempt -/

/-- The limiter of the code, as long as its counter has not wrapped around. -/
structure Limits (session : Session) (limiter : Limiter) : Prop where
  window : session.loginWindow = limiter.window
  count : session.loginAttempts.toNat = limiter.count

variable {session after : Session} {limiter : Limiter}

theorem Limits.opens (limits : Limits session limiter) (now : Nat) :
    (⟨now, session⟩ : LoginAttempt).opens = limiter.expired loginAttemptWindow now := by
  rw [LoginAttempt.opens, limits.window]
  rfl

/-- The limiter counts the attempts since the last opening. -/
theorem Limits.sinceOpening (limits : Limits session limiter) (now : Nat) :
    (limiter.consume loginAttemptWindow now).count =
      if (⟨now, session⟩ : LoginAttempt).opens then 1 else limiter.count + 1 := by
  rw [limits.opens, Limiter.consume]
  split <;> rfl

/-- An attempt on the session is one on its limiter. -/
theorem Limits.consume (limits : Limits session limiter) {now : Nat}
    (small : (limiter.consume loginAttemptWindow now).count < UInt32.size) :
    Limits (session.tryConsumeLoginAttempt now).1 (limiter.consume loginAttemptWindow now) ∧
      (⟨now, session⟩ : LoginAttempt).entry = limiter.entry loginAttemptWindow 5 now := by
  have opens := limits.opens now
  have counted : Limits (session.tryConsumeLoginAttempt now).1
      (limiter.consume loginAttemptWindow now) := by
    unfold Limiter.consume at small ⊢
    unfold Session.tryConsumeLoginAttempt
    rw [LoginAttempt.opens] at opens
    simp only [opens]
    split at small
    · next expired =>
        simp only [expired, if_true]
        exact ⟨rfl, rfl⟩
    · next lasting =>
        simp only [lasting, if_false, Bool.false_eq_true]
        refine ⟨limits.window, ?_⟩
        rw [UInt32.toNat_add, limits.count]
        exact Nat.mod_eq_of_lt small
  refine ⟨counted, ?_⟩
  have granted : (⟨now, session⟩ : LoginAttempt).granted =
      decide ((limiter.consume loginAttemptWindow now).count ≤ 5) := by
    rw [← counted.count]
    rfl
  rw [LoginAttempt.entry, opens, granted]
  rfl

theorem Session.Answers.keepsLimiter {now : Nat} {outcome : LoginOutcome}
    {reaction : Reaction Session Work} (answers : session.Answers now outcome reaction) :
    reaction.fields.loginWindow = session.loginWindow ∧
      reaction.fields.loginAttempts = session.loginAttempts := by
  cases answers <;> exact ⟨rfl, rfl⟩

/-! ## Runs -/

variable {keepAliveTimeout : Nat} {task next : Task Session Work Reply LoginOutcome}
  {history : List (Nat × Seen Session Work Reply LoginOutcome)}
  {seen : List (Seen Session Work Reply LoginOutcome)}

theorem attemptsOf_append (history more : List (Nat × Seen Session Work Reply LoginOutcome)) :
    attemptsOf (history ++ more) = attemptsOf history ++ attemptsOf more :=
  List.filterMap_append

theorem attemptsOf_unhandled (silent : ∀ fields message, .handled fields message ∉ seen)
    (now : Nat) : attemptsOf (seen.map (Prod.mk now)) = [] := by
  rw [attemptsOf, List.filterMap_eq_nil_iff]
  intro entry member
  obtain ⟨found, among, rfl⟩ := List.mem_map.mp member
  cases found with
  | handled fields message => exact absurd among (silent fields message)
  | _ => rfl

/-- What a session has done with its limiter, and the attempts it made. -/
inductive Attempted (before after : Session) (now : Nat) : List LoginAttempt → Prop where
  | nothing (window : after.loginWindow = before.loginWindow)
      (count : after.loginAttempts = before.loginAttempts) : Attempted before after now []
  | once (window : after.loginWindow = (before.tryConsumeLoginAttempt now).1.loginWindow)
      (count : after.loginAttempts = (before.tryConsumeLoginAttempt now).1.loginAttempts) :
      Attempted before after now [⟨now, before⟩]

theorem Session.Handles.attempted {now : Nat} {message : MessageWrapper}
    {reaction : Reaction Session Work} (handles : session.Handles now message reaction) :
    Attempted session reaction.fields now (attemptsOf [(now, .handled session message)]) := by
  have made (asked : isLoginRequest message = true) (anonymous : session.account = none) :
      attemptsOf [(now, .handled session message)] = [⟨now, session⟩] := by
    simp [attemptsOf, loginAttempt, asked, anonymous]
  have quiet (silent : (isLoginRequest message && session.account.isNone) = false) :
      attemptsOf [(now, .handled session message)] = [] := by
    simp [attemptsOf, loginAttempt, silent]
  cases handles with
  | limited req asked anonymous | blank req asked anonymous | lookedUp req asked anonymous =>
      rw [made (by simp [isLoginRequest, asked]) anonymous]
      exact .once rfl rfl
  | refused req account asked authenticated =>
      rw [quiet (by simp [authenticated])]
      exact .nothing rfl rfl
  | keptAlive asked =>
      rw [quiet (by simp [isLoginRequest, asked])]
      exact .nothing rfl rfl
  | gated other | ignored account other =>
      rw [quiet (by rw [isLoginRequest_gated other, Bool.false_and])]
      exact .nothing rfl rfl

/-- A step of a session makes no attempt, or one. -/
theorem attempted_stepped
    (stepped : Task.Stepped (service keepAliveTimeout) task next seen) :
    Attempted task.fields next.fields next.clock (attemptsOf (seen.map (Prod.mk next.clock))) := by
  cases stepped.moves with
  | rests rests =>
      rw [attemptsOf_unhandled rests.unhandled, rests.fields]
      exact .nothing rfl rfl
  | ran takes performed shape =>
      obtain ⟨fields, _, clock⟩ := performed.frame_eq
      rw [shape, List.map_append, attemptsOf_append,
        attemptsOf_unhandled performed.handles_nothing, List.append_nil, fields]
      cases takes with
      | greeting => exact .nothing rfl rfl
      | frame now message =>
          rw [clock]
          exact (task.fields.onRemote_cases now message).attempted
      | result now job outcome =>
          have kept := (task.fields.onLoginOutcome_cases now outcome).keepsLimiter
          exact .nothing kept.1 kept.2

/-- The attempts of a session are the log of its limiter. -/
theorem reaches_logs
    (run : ((machine (service keepAliveTimeout)).stamped Task.clock).Reaches task history)
    (countable : Countable (attemptsOf history)) :
    Logs loginAttemptWindow 5 ((attemptsOf history).map LoginAttempt.entry)
        ⟨task.fields.loginWindow, sinceOpening (attemptsOf history)⟩ task.clock ∧
      task.fields.loginAttempts.toNat = sinceOpening (attemptsOf history) := by
  revert countable
  apply run.invariant
  · rintro state ⟨sessionId, kick, now, rfl⟩ _
    exact ⟨.start now, rfl⟩
  · intro before history event after made _ known taken countable
    obtain ⟨seen, stepped, rfl⟩ := Machine.stamped_step taken
    rw [attemptsOf_append] at countable ⊢
    obtain ⟨logs, count⟩ := known countable.earlier
    have stepped := Task.step_cases stepped
    have waited := logs.wait stepped.clock_le
    have attempted := attempted_stepped stepped
    generalize attemptsOf (seen.map (Prod.mk after.clock)) = made at attempted countable ⊢
    cases attempted with
    | nothing window counted =>
        rw [List.append_nil, window, counted]
        exact ⟨waited, count⟩
    | once window counted =>
        have limits : Limits before.fields
            ⟨before.fields.loginWindow, sinceOpening (attemptsOf history)⟩ := ⟨rfl, count⟩
        have small := countable _ [] (List.append_nil _).symm
        rw [sinceOpening_snoc] at small ⊢
        rw [← limits.sinceOpening after.clock] at small ⊢
        obtain ⟨limited, entry⟩ := limits.consume small
        have attempt := waited.attempt
        rw [← entry] at attempt
        rw [List.map_append, window, limited.window, counted, limited.count]
        exact ⟨attempt, rfl⟩

/-! ## The limit -/

/-- The attempts granted in the 60 seconds from `start`. -/
def grantedFrom (start : Nat) (attempts : List LoginAttempt) : Nat :=
  attempts.countP fun attempt =>
    attempt.granted ∧ start ≤ attempt.now ∧ attempt.now < start + fromSecs 60

/-- How strong the limit is. -/
structure Limited (attempts : List LoginAttempt) : Prop where
  /-- From one opening to the next five attempts are granted at most. -/
  stretch : ∀ front block back, attempts = front ++ block ++ back →
    (∀ attempt ∈ block.tail, attempt.opens = false) → block.countP LoginAttempt.granted ≤ 5
  apart : (attempts.filter LoginAttempt.opens).Pairwise fun one other =>
    one.now + fromSecs 60 ≤ other.now
  interval : ∀ start, grantedFrom start attempts ≤ 9
  /-- A refused attempt comes after five that were granted less than 60 seconds ago. -/
  refusals : ∀ earlier attempt later, attempts = earlier ++ attempt :: later →
    attempt.granted = false →
    5 ≤ earlier.countP fun other => other.granted ∧ attempt.now < other.now + fromSecs 60

theorem limited_of_logs {attempts : List LoginAttempt} {clock : Nat}
    (logs : Logs loginAttemptWindow 5 (attempts.map LoginAttempt.entry) limiter clock) :
    Limited attempts := by
  have positive : 0 < loginAttemptWindow := by decide
  constructor
  · rintro front block back rfl silent
    rw [List.map_append, List.map_append] at logs
    have granted := logs.stretch positive fun entry member => by
      rw [← List.map_tail, List.mem_map] at member
      obtain ⟨attempt, among, rfl⟩ := member
      exact silent attempt among
    rw [List.countP_map] at granted
    exact granted
  · have apart := (logs.openings positive).2
    rw [List.filter_map, List.pairwise_map] at apart
    exact apart
  · intro start
    have granted := logs.granted_in positive (by decide) start
    rw [grantedIn, List.countP_map] at granted
    exact granted
  · rintro earlier attempt later rfl refused
    rw [List.map_append, List.map_cons] at logs
    have granted := logs.refused positive (by decide) refused
    rw [List.countP_map] at granted
    exact granted

theorem sinceOpening_le (attempts : List LoginAttempt) :
    sinceOpening attempts ≤ attempts.length := by
  induction attempts using List.reverseRecOn with
  | nil => exact Nat.le_refl 0
  | append_singleton earlier attempt inductionHypothesis =>
      rw [sinceOpening_snoc, List.length_append, List.length_singleton]
      split <;> omega

/-! ## Attempts at given times -/

/-- The attempts of a session at these times. -/
def attemptsAt (session : Session) : List Nat → List LoginAttempt
  | [] => []
  | now :: rest => ⟨now, session⟩ :: attemptsAt (session.tryConsumeLoginAttempt now).1 rest

/-- A request with empty fields. -/
def blankRequest : MessageWrapper := ⟨0, some (.loginRequest ⟨"", []⟩)⟩

def attemptAt (now : Nat) : List (Event Reply) :=
  [.poll false, .select now (some (.message blankRequest))]

/-- The session takes requests, and its queue as many answers as `room` says. -/
structure Ready (task : Task Session Work Reply LoginOutcome) (room : Nat) : Prop where
  stage : task.stage = .selecting
  anonymous : task.fields.account = none
  alive : task.path.channel.receiverAlive = true
  room : task.path.channel.queue.length + room ≤ maxSendQueueSize

/-- What a request with empty fields is answered. -/
theorem onRemote_blank (anonymous : session.account = none) (now : Nat) :
    ∃ payload, session.onRemote now blankRequest =
      .send (session.tryConsumeLoginAttempt now).1 payload := by
  have handles := session.onRemote_cases now blankRequest
  generalize session.onRemote now blankRequest = reaction at handles
  cases handles with
  | limited | blank => exact ⟨_, rfl⟩
  | refused req account asked authenticated =>
      rw [anonymous] at authenticated
      contradiction
  | lookedUp req asked _ _ filled =>
      cases asked
      contradiction
  | keptAlive | gated | ignored => contradiction

theorem Ready.attempt (keepAliveTimeout : Nat) {room now : Nat} (ready : Ready task (room + 1))
    (later : task.clock ≤ now) :
    ∃ next made, ((machine (service keepAliveTimeout)).stamped Task.clock).exec task
        (attemptAt now) = some (next, made) ∧
      Ready next room ∧ next.clock = now ∧
      next.fields = (task.fields.tryConsumeLoginAttempt now).1 ∧
      attemptsOf made = [⟨now, task.fields⟩] := by
  obtain ⟨payload, reaction⟩ := onRemote_blank ready.anonymous now
  have bound := ready.room
  have vacant : task.path.channel.queue.length < maxSendQueueSize := by omega
  obtain ⟨path, sent⟩ : ∃ path, task.path.send payload = some path := by
    simp [SendPath.send, Channel.trySend, ready.alive, vacant]
  obtain ⟨_, queue, alive, _⟩ := SendPath.send_some sent
  refine ⟨{ task with
    stage := .selecting
    fields := (task.fields.tryConsumeLoginAttempt now).1
    clock := now
    path }, [(now, .handled task.fields blankRequest), (now, .accepted .frame payload)], ?_,
    ⟨rfl, ?_, alive, ?_⟩, rfl, rfl, ?_⟩
  · simp [attemptAt, Machine.exec, Machine.stamped, machine, service, Task.step, ready.stage,
      later, Task.select, Task.onFrame, reaction, Task.perform, Task.sendFlow, sent]
  · rw [Session.tryConsumeLoginAttempt_account]
    exact ready.anonymous
  · rw [queue, List.length_append, List.length_singleton]
    omega
  · simp [attemptsOf, loginAttempt, ready.anonymous, isLoginRequest, blankRequest]

theorem Ready.attempts {times : List Nat} (ready : Ready task times.length)
    (ordered : (task.clock :: times).Pairwise (· ≤ ·)) :
    ∃ next made, ((machine (service keepAliveTimeout)).stamped Task.clock).exec task
        (times.flatMap attemptAt) = some (next, made) ∧
      attemptsOf made = attemptsAt task.fields times := by
  induction times generalizing task with
  | nil => exact ⟨task, [], rfl, rfl⟩
  | cons now rest inductionHypothesis =>
      obtain ⟨later, sorted⟩ := List.pairwise_cons.mp ordered
      obtain ⟨next, made, executed, still, clock, fields, one⟩ :=
        ready.attempt keepAliveTimeout (later now (by simp))
      rw [← clock] at sorted
      obtain ⟨final, more, following, others⟩ := inductionHypothesis still sorted
      refine ⟨final, made ++ more, ?_, ?_⟩
      · exact Machine.exec_append.mpr ⟨next, made, more, executed, following, rfl⟩
      · rw [attemptsOf_append, one, others, fields]
        rfl

/-- A session whose client makes attempts at these times. -/
theorem attempts_reached (keepAliveTimeout : Nat) (times : List Nat)
    (few : times.length < maxSendQueueSize) (ordered : times.Pairwise (· ≤ ·)) :
    ∃ task history,
      ((machine (service keepAliveTimeout)).stamped Task.clock).Reaches task history ∧
      attemptsOf history = attemptsAt (Session.create 1 0) times := by
  have greeted : ∃ next made, ((machine (service keepAliveTimeout)).stamped Task.clock).exec
      (.create (service keepAliveTimeout) 1 ⟨0⟩ 0) [.greet] = some (next, made) ∧
      next.stage = .selecting ∧ next.fields = Session.create 1 0 ∧ next.clock = 0 ∧
      next.path.channel.receiverAlive = true ∧ next.path.channel.queue.length = 1 ∧
      attemptsOf made = [] :=
    ⟨_, _, rfl, rfl, rfl, rfl, rfl, rfl, rfl⟩
  obtain ⟨greeted, made, first, stage, fields, clock, alive, queue, nothing⟩ := greeted
  have ready : Ready greeted times.length :=
    ⟨stage, by rw [fields]; rfl, alive, by omega⟩
  have sorted : (greeted.clock :: times).Pairwise (· ≤ ·) := by
    rw [clock]
    exact ordered.cons (by simp)
  obtain ⟨task, more, second, others⟩ := ready.attempts sorted
  refine ⟨task, made ++ more, Machine.reaches_of_exec ⟨1, ⟨0⟩, 0, rfl⟩
    (Machine.exec_append.mpr ⟨greeted, made, more, first, second, rfl⟩), ?_⟩
  rw [attemptsOf_append, nothing, others, fields, List.nil_append]

/-- One attempt, four just before its window has passed, and five right after. -/
def straddling : List Nat := [0, 59, 59, 59, 59, 60, 60, 60, 60, 60].map fromSecs

/-- Of these ten attempts nine are granted in an interval of 60 seconds. -/
theorem straddling_granted (keepAliveTimeout : Nat) :
    ∃ task history,
      ((machine (service keepAliveTimeout)).stamped Task.clock).Reaches task history ∧
      Countable (attemptsOf history) ∧ grantedFrom (fromSecs 59) (attemptsOf history) = 9 := by
  obtain ⟨task, history, run, made⟩ :=
    attempts_reached keepAliveTimeout straddling (by decide) (by decide)
  refine ⟨task, history, run, ?_, ?_⟩
  · intro earlier later shape
    have bound := sinceOpening_le earlier
    have few : (attemptsOf history).length = 10 := by
      rw [made]
      rfl
    rw [shape, List.length_append] at few
    show sinceOpening earlier < 4294967296
    omega
  · rw [made]
    decide +kernel

/-- The strength of the limit: from one opening of a window to the next five attempts
are granted at most, openings lie 60 seconds apart, and in any interval of 60 seconds
nine are granted at most, which some run attains.  An attempt is refused only if
five have been granted in the 60 seconds before. -/
theorem login_attempts_limited (keepAliveTimeout : Nat) :
    (∀ task history,
      ((machine (service keepAliveTimeout)).stamped Task.clock).Reaches task history →
      Countable (attemptsOf history) → Limited (attemptsOf history)) ∧
    ∃ task history start,
      ((machine (service keepAliveTimeout)).stamped Task.clock).Reaches task history ∧
      Countable (attemptsOf history) ∧ grantedFrom start (attemptsOf history) = 9 := by
  constructor
  · intro task history run countable
    exact limited_of_logs (reaches_logs run countable).1
  · obtain ⟨task, history, run, countable, granted⟩ := straddling_granted keepAliveTimeout
    exact ⟨task, history, fromSecs 59, run, countable, granted⟩

theorem login_attempts_limited_straddling :
    ∃ task history,
      ((machine (service 10)).stamped Task.clock).Reaches task history ∧
      Limited (attemptsOf history) ∧ grantedFrom (fromSecs 59) (attemptsOf history) = 9 := by
  obtain ⟨task, history, run, countable, granted⟩ := straddling_granted 10
  exact ⟨task, history, run, (login_attempts_limited 10).1 task history run countable, granted⟩

end RustGameserver.LoginServer
