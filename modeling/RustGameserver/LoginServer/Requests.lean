import RustGameserver.LoginServer.Session
import RustGameserver.Session.Accounting
import RustGameserver.Session.Delivery
import RustGameserver.Session.Reactions

/-!
Contract: requests and answers of a LoginServer session.

Owns:
- which requests are handed to a login task and which are answered at once;
- the balance of requests, answers and login tasks, over timed runs.

Does not own: what a login task asks of the backend.
-/

namespace RustGameserver.LoginServer

open RustGameserver.Foundation
open RustGameserver.Net
open RustGameserver.Proto
open RustGameserver.Session

/-- The answers to login requests. -/
def isAnswer : Payload → Bool
  | .loginResponse _ | .errorResponse _ => true
  | _ => false

def isLoginRequest (message : MessageWrapper) : Bool :=
  match message.payload with
  | some (.loginRequest _) => true
  | _ => false

/-- The request finds the session without an account, is within the limit of login
attempts, and names a user and a password hash. -/
def isAdmitted (before : Session) (now : Nat) (message : MessageWrapper) : Bool :=
  match message.payload with
  | some (.loginRequest req) =>
      before.account.isNone && (before.tryConsumeLoginAttempt now).2 &&
        !(req.userId.isEmpty || req.passwordHash.isEmpty)
  | _ => false

theorem isLoginRequest_gated {message : MessageWrapper}
    (other : passesGate message.payload = false) : isLoginRequest message = false := by
  unfold isLoginRequest
  split
  · next asked =>
      rw [asked] at other
      contradiction
  · rfl

theorem isAdmitted_gated {message : MessageWrapper} (other : passesGate message.payload = false)
    (before : Session) (now : Nat) : isAdmitted before now message = false := by
  unfold isAdmitted
  split
  · next asked =>
      rw [asked] at other
      contradiction
  · rfl

namespace Session

variable {session : Session} {now : Nat} {message : MessageWrapper}
  {reaction : Reaction Session Work}

theorem Handles.load {load : Nat} (handles : session.Handles now message reaction)
    (adds : reaction.load isAnswer = some load) : load = (isLoginRequest message).toNat := by
  cases handles with
  | refused req account asked =>
      simpa [isLoginRequest, asked, Reaction.load, isAnswer] using adds.symm
  | limited req asked => simpa [isLoginRequest, asked, Reaction.load, isAnswer] using adds.symm
  | blank req asked => simpa [isLoginRequest, asked, Reaction.load, isAnswer] using adds.symm
  | lookedUp req asked => simpa [isLoginRequest, asked, Reaction.load] using adds.symm
  | keptAlive asked => simpa [isLoginRequest, asked, Reaction.load] using adds.symm
  | gated => contradiction
  | ignored account other =>
      rw [isLoginRequest_gated other]
      simpa [Reaction.load] using adds.symm

theorem Answers.load {load : Nat} {outcome : LoginOutcome}
    (answers : session.Answers now outcome reaction)
    (adds : reaction.load isAnswer = some load) : load = 1 := by
  cases answers <;> simpa [Reaction.load, isAnswer] using adds.symm

/-- A login task is started for the admitted requests. -/
theorem Handles.spawns (handles : session.Handles now message reaction) :
    reaction.spawns = isAdmitted session now message := by
  cases handles with
  | refused req account asked authenticated =>
      simp [isAdmitted, asked, authenticated, Reaction.spawns]
  | limited req asked anonymous spent =>
      simp [isAdmitted, asked, anonymous, spent, Reaction.spawns]
  | blank req asked anonymous granted empty =>
      simp [isAdmitted, asked, anonymous, granted, empty, Reaction.spawns]
  | lookedUp req asked anonymous granted filled =>
      simp [isAdmitted, asked, anonymous, granted, filled, Reaction.spawns]
  | keptAlive asked => simp [isAdmitted, asked, Reaction.spawns]
  | gated other => rw [isAdmitted_gated other]; rfl
  | ignored account other => rw [isAdmitted_gated other]; rfl

theorem Answers.spawns {outcome : LoginOutcome}
    (answers : session.Answers now outcome reaction) : reaction.spawns = false := by
  cases answers <;> rfl

/-- An admitted request starts the task that looks its account up. -/
theorem Handles.admitted (handles : session.Handles now message reaction) (req : LoginRequest)
    (asked : message.payload = some (.loginRequest req))
    (admitted : isAdmitted session now message = true) :
    ∃ after, reaction = .spawn after (.findAccount req.userId req.passwordHash) := by
  have spawns := handles.spawns
  rw [admitted] at spawns
  cases handles with
  | lookedUp found same =>
      rw [asked] at same
      cases same
      exact ⟨_, rfl⟩
  | _ => contradiction

/-- Any other login request is refused. -/
theorem Handles.declined (handles : session.Handles now message reaction) (req : LoginRequest)
    (asked : message.payload = some (.loginRequest req))
    (declined : isAdmitted session now message = false) :
    ∃ after code, reaction = .send after (.loginResponse ⟨false, code, ""⟩) := by
  have spawns := handles.spawns
  rw [declined] at spawns
  cases handles with
  | refused | limited | blank => exact ⟨_, _, rfl⟩
  | lookedUp => contradiction
  | keptAlive same =>
      rw [asked] at same
      cases same
  | gated other =>
      rw [asked] at other
      contradiction
  | ignored account other =>
      rw [asked] at other
      contradiction

end Session

/-- A LoginServer session answers or delegates each login request once. -/
def accounting (keepAliveTimeout : Nat) : Accounting (service keepAliveTimeout) where
  request := fun _ message => isLoginRequest message
  answer := isAnswer
  greeting := rfl
  remote := fun session now message _ adds => (session.onRemote_cases now message).load adds
  result := fun session now message _ adds => (session.onLoginOutcome_cases now message).load adds

variable {keepAliveTimeout : Nat} {task : Task Session Work Reply LoginOutcome}
  {prepared after : Task Session Work Reply LoginOutcome}
  {seen : List (Seen Session Work Reply LoginOutcome)}
  {timed : List (Nat × Seen Session Work Reply LoginOutcome)}

/-- What directly follows the reaction to a login request. -/
theorem performed_admitted {before : Session} {now : Nat} {message : MessageWrapper}
    {cause : Cause} {reaction : Reaction Session Work}
    (performed : Task.Performed prepared cause reaction after seen)
    (handles : before.Handles now message reaction) (req : LoginRequest)
    (asked : message.payload = some (.loginRequest req))
    (admitted : isAdmitted before now message = true) :
    ∃ job, seen = [.spawned job (.findAccount req.userId req.passwordHash)] := by
  obtain ⟨fields, rfl⟩ := handles.admitted req asked admitted
  cases performed
  exact ⟨_, rfl⟩

theorem performed_declined {before : Session} {now : Nat} {message : MessageWrapper}
    {cause : Cause} {reaction : Reaction Session Work}
    (performed : Task.Performed prepared cause reaction after seen)
    (handles : before.Handles now message reaction) (req : LoginRequest)
    (asked : message.payload = some (.loginRequest req))
    (declined : isAdmitted before now message = false) :
    ∃ code, seen = [.accepted cause (.loginResponse ⟨false, code, ""⟩)] ∨
      seen = [.refused cause (.loginResponse ⟨false, code, ""⟩)] := by
  obtain ⟨fields, code, rfl⟩ := handles.declined req asked declined
  cases performed with
  | send => exact ⟨code, .inl rfl⟩
  | refuse => exact ⟨code, .inr rfl⟩

/-- Every login request is answered once, at once or through one login task. -/
theorem requests_accounted {keepAliveTimeout : Nat}
    {task : Task Session Work Reply LoginOutcome}
    {timed : List (Nat × Seen Session Work Reply LoginOutcome)}
    (run : ((machine (service keepAliveTimeout)).stamped Task.clock).Reaches task timed) :
    -- the balance of a running event loop
    (task.stage.inLoop = true →
      (accepted (timed.map Prod.snd)).countP isAnswer +
          (task.jobs.countP Job.pending + task.inner.queue.length) =
        (handled (timed.map Prod.snd)).countP fun entry => isLoginRequest entry.2) ∧
      -- login tasks are started for the admitted requests
      (spawnedJobs (timed.map Prod.snd)).length = timed.countP (Seen.asks isAdmitted) ∧
      task.jobs.length = timed.countP (Seen.asks isAdmitted) ∧
      (∀ earlier now before message later req,
        timed = earlier ++ (now, .handled before message) :: later →
          message.payload = some (.loginRequest req) →
            isAdmitted before now message = true →
              ∃ job rest, later =
                (now, .spawned job (.findAccount req.userId req.passwordHash)) :: rest) ∧
      -- any other login request is refused at once; only a full or closed outbox keeps
      -- the answer back, and then the event loop has ended
      ∀ earlier now before message later req,
        timed = earlier ++ (now, .handled before message) :: later →
          message.payload = some (.loginRequest req) →
            isAdmitted before now message = false →
              ∃ code rest,
                later = (now, .accepted .frame (.loginResponse ⟨false, code, ""⟩)) :: rest ∨
                later = (now, .refused .frame (.loginResponse ⟨false, code, ""⟩)) :: rest ∧
                  task.stage.inLoop = false := by
  have plain := Machine.Reaches.unstamped run
  have counted := spawnedJobs_length_eq
    (fun session now message => (session.onRemote_cases now message).spawns)
    (fun session now outcome => (session.onLoginOutcome_cases now outcome).spawns) run
  have followed := reaches_reacts run
  refine ⟨(accounting keepAliveTimeout).balance plain, counted, ?_, ?_, ?_⟩
  · rw [← counted, spawnedJobs_eq_range plain, List.length_range]
  · intro earlier now before message later req shape asked admitted
    obtain ⟨prepared, after, made, rest, performed, rfl⟩ := followed earlier _ later shape
    obtain ⟨job, rfl⟩ :=
      performed_admitted performed (before.onRemote_cases now message) req asked admitted
    exact ⟨job, rest, rfl⟩
  · intro earlier now before message later req shape asked declined
    obtain ⟨prepared, after, made, rest, performed, rfl⟩ := followed earlier _ later shape
    obtain ⟨code, rfl | rfl⟩ :=
      performed_declined performed (before.onRemote_cases now message) req asked declined
    · exact ⟨code, rest, .inl rfl⟩
    · refine ⟨code, rest, .inr ⟨rfl, ?_⟩⟩
      by_contra inLoop
      rw [Bool.not_eq_false] at inLoop
      exact (reaches_breaks plain).unrefused inLoop .frame (.loginResponse ⟨false, code, ""⟩)
        (by rw [shape]; simp)

/-- A request without a user id, and one whose account is looked up. -/
def blankThenLookup : List (Event Reply) :=
  [.greet, .poll false, .select 1 (some (.message ⟨0, some (.loginRequest ⟨"", [1]⟩)⟩)),
    .poll false, .select 2 (some (.message ⟨0, some (.loginRequest ⟨"user", [1]⟩)⟩))]

theorem requests_accounted_blankThenLookup :
    ∃ task timed,
      ((machine (service 10)).stamped Task.clock).exec (.create (service 10) 1 ⟨0⟩ 0)
        blankThenLookup = some (task, timed) ∧
      task.stage.inLoop = true ∧
      (accepted (timed.map Prod.snd)).countP isAnswer +
          (task.jobs.countP Job.pending + task.inner.queue.length) =
        (handled (timed.map Prod.snd)).countP fun entry => isLoginRequest entry.2 := by
  have runs : ∃ task timed,
      ((machine (service 10)).stamped Task.clock).exec (.create (service 10) 1 ⟨0⟩ 0)
        blankThenLookup = some (task, timed) ∧
      task.stage.inLoop = true :=
    ⟨_, _, rfl, rfl⟩
  obtain ⟨task, timed, executed, inLoop⟩ := runs
  have start : ((machine (service 10)).stamped Task.clock).Initial
      (.create (service 10) 1 ⟨0⟩ 0) := ⟨1, ⟨0⟩, 0, rfl⟩
  have run := Machine.reaches_of_exec start executed
  exact ⟨task, timed, executed, inLoop, (requests_accounted run).1 inLoop⟩

end RustGameserver.LoginServer
