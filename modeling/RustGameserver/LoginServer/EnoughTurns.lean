import RustGameserver.LoginServer.Indistinguishable

/-!
Contract: schedules that give every login task its turns.

Owns:
- how many turns a login task can use, and that each one takes it further;
- that a schedule with as many of them before each result is delivered goes on over
  both tables of accounts, and so compares two runs that there are.

Does not own: what the two runs have in common.
-/

namespace RustGameserver.LoginServer

open RustGameserver.Db
open RustGameserver.Foundation
open RustGameserver.Net
open RustGameserver.Proto
open RustGameserver.Session

variable {library : PasswordLibrary} {left right accounts : Accounts} {conditions : Conditions}
  {job moved one other : LoginJob}

/-! ## One login task -/

/-- How many calls come from here on at most, the awaited one among them. -/
def callsFrom : Work → Nat
  | .findAccount .. => 4
  | .verify .. => 3
  | .touchLastLogin _ => 2
  | .issueAuthToken _ => 1

def callsLeft (job : LoginJob) : Nat :=
  match job.state with
  | .running work => callsFrom work
  | .finished _ | .ended _ => 0

theorem callsLeft_le (job : LoginJob) : callsLeft job ≤ 4 := by
  unfold callsLeft
  split
  · next work _ => cases work <;> simp [callsFrom]
  · exact Nat.zero_le 4
  · exact Nat.zero_le 4

/-- A login task that has no call left to make has its result. -/
theorem finished_of_callsLeft (through : callsLeft job = 0) (pending : job.pending = true) :
    ∃ outcome, job.state = .finished outcome := by
  unfold callsLeft at through
  unfold Job.pending at pending
  cases state : job.state with
  | running work =>
      rw [state] at through
      cases work <;> contradiction
  | finished outcome => exact ⟨outcome, rfl⟩
  | ended outcome =>
      rw [state] at pending
      contradiction

/-- The reply to a call fits it: a result, or a call further on. -/
theorem authenticate_respond (library : PasswordLibrary) (accounts : Accounts)
    (conditions : Conditions) (work : Work) :
    (∃ outcome,
      authenticate work (respond library accounts conditions work) = some (.returns outcome)) ∨
      ∃ next, authenticate work (respond library accounts conditions work) = some (.awaits next) ∧
        callsFrom next < callsFrom work := by
  cases work with
  | findAccount userId clientHash =>
      cases lookup : conditions.lookup with
      | some error =>
          simp only [respond, lookup]
          exact .inl ⟨_, rfl⟩
      | none =>
          cases found : accounts userId with
          | none =>
              simp only [respond, lookup, found]
              exact .inl ⟨_, rfl⟩
          | some row =>
              simp only [respond, lookup, found]
              exact .inr ⟨_, rfl, Nat.lt_succ_self 3⟩
  | verify row clientHash =>
      rw [respond]
      rcases verified library row clientHash with error | accepted
      · exact .inl ⟨_, rfl⟩
      cases accepted with
      | false => exact .inl ⟨_, rfl⟩
      | true =>
          rw [authenticate]
          split
          · exact .inl ⟨_, rfl⟩
          · exact .inr ⟨_, rfl, Nat.lt_succ_self 2⟩
  | touchLastLogin row =>
      rw [respond]
      rcases conditions.touched with error | _
      · exact .inl ⟨_, rfl⟩
      · exact .inr ⟨_, rfl, Nat.lt_succ_self 1⟩
  | issueAuthToken row =>
      rw [respond]
      rcases conditions.issued with error | _ | token <;> exact .inl ⟨_, rfl⟩

/-- A login task gets on with every turn. -/
theorem turn_goesOn (library : PasswordLibrary) (accounts : Accounts) (conditions : Conditions)
    (job : LoginJob) :
    ∃ moved, turn library accounts conditions job = some moved ∧
      callsLeft moved ≤ callsLeft job - 1 := by
  unfold turn
  cases state : job.state with
  | running work =>
      rcases authenticate_respond library accounts conditions work with
        ⟨outcome, returns⟩ | ⟨next, awaits, fewer⟩
      · simp only [returns]
        exact ⟨_, rfl, Nat.zero_le _⟩
      · simp only [awaits]
        refine ⟨_, rfl, ?_⟩
        simp only [callsLeft, state]
        omega
  | finished outcome => exact ⟨job, rfl, by simp [callsLeft, state]⟩
  | ended outcome => exact ⟨job, rfl, by simp [callsLeft, state]⟩

/-! ## What has been given and what is left -/

variable {state after : LoginState} {seen : List LoginSeen} {keepAliveTimeout : Nat}

/-- How many turns a schedule has given to a login task. -/
def given (turns : List Turn) (sessionId : SessionId) (index : Nat) : Nat :=
  turns.countP fun
    | .backend other job _ => decide (other = sessionId ∧ job = index)
    | .server _ => false

def jobOf (tasks : FiniteMap SessionId LoginTask) (sessionId : SessionId) (index : Nat) :
    Option LoginJob :=
  (tasks.get sessionId).bind fun task => task.jobs[index]?

/-- A login task has fewer calls left with every turn that it has had, and has had none before
it was there. -/
def Owed (had : Nat) : Option LoginJob → Prop
  | none => had = 0
  | some job => callsLeft job ≤ 4 - had

def Paid (turns : List Turn) (tasks : FiniteMap SessionId LoginTask) : Prop :=
  ∀ sessionId index, Owed (given turns sessionId index) (jobOf tasks sessionId index)

/-- What a login task goes through without a turn. -/
inductive Unturned : Option LoginJob → Option LoginJob → Prop where
  | rests (job : Option LoginJob) : Unturned job job
  | spawned (job : LoginJob) : Unturned none (some job)
  | ended (job last : LoginJob) (through : callsLeft last = 0) : Unturned (some job) (some last)

theorem Owed.unturned {had : Nat} {old new : Option LoginJob} (owed : Owed had old)
    (unturned : Unturned old new) : Owed had new := by
  cases unturned with
  | rests => exact owed
  | spawned job =>
      have nothing : had = 0 := owed
      rw [nothing]
      exact callsLeft_le job
  | ended job last through =>
      show callsLeft last ≤ 4 - had
      rw [through]
      exact Nat.zero_le _

theorem jobOf_insert (tasks : FiniteMap SessionId LoginTask) (own : SessionId) (task : LoginTask)
    (sessionId : SessionId) (index : Nat) :
    jobOf (tasks.insert own task) sessionId index =
      if sessionId = own then task.jobs[index]? else jobOf tasks sessionId index := by
  unfold jobOf
  rw [FiniteMap.get_insert]
  split <;> rfl

theorem session_unturned {task moved : LoginTask} {event : Event Reply}
    {made : List (Seen Session Work Reply LoginOutcome)}
    (noReply : ∀ job reply, event ≠ .reply job reply)
    (taken : task.step (service keepAliveTimeout) event = some (moved, made)) (index : Nat) :
    Unturned task.jobs[index]? moved.jobs[index]? := by
  by_cases session : event.ofJob = false
  · rw [Task.step_jobs _ _ session taken]
    by_cases bound : index < task.jobs.length
    · rw [List.getElem?_append_left bound]
      exact .rests _
    · rw [List.getElem?_eq_none (Nat.not_lt.mp bound)]
      cases (task.jobs ++ task.newJobs (service keepAliveTimeout) event)[index]? with
      | none => exact .rests none
      | some job => exact .spawned job
  · cases event with
    | reply job reply => exact absurd rfl (noReply job reply)
    | deliver own =>
        simp only [Task.step, Option.map_eq_some_iff, Prod.mk.injEq] at taken
        obtain ⟨last, delivered, rfl, rfl⟩ := taken
        obtain ⟨job, message, present, _, way⟩ := Task.deliver_eq delivered
        have jobs : last.jobs = task.jobs.set own { job with state := .ended message } := by
          rcases way with ⟨_, _, rfl⟩ | ⟨_, rfl⟩ <;> rfl
        rw [jobs]
        by_cases same : own = index
        · subst same
          rw [present, List.getElem?_set_self (List.getElem?_eq_some_iff.mp present).1]
          exact .ended job _ rfl
        · rw [List.getElem?_set_ne same]
          exact .rests _
    | _ => exact absurd rfl session

/-- Only a backend turn moves a login task. -/
theorem server_unturned {event : ServerEvent Reply} (noReply : isReply event = false)
    (taken : (server (service keepAliveTimeout)).step state event = some (after, seen))
    (sessionId : SessionId) (index : Nat) :
    Unturned (jobOf state.tasks sessionId index) (jobOf after.tasks sessionId index) := by
  cases event with
  | session own event =>
      obtain ⟨task, moved, made, present, _, stepped, rfl, _⟩ := session_step taken
      have tasks : ((state.observeAll own task.kick made).1.withTasks
        (state.tasks.insert own moved)).tasks = state.tasks.insert own moved := rfl
      rw [tasks, jobOf_insert]
      split
      · next same =>
          subst same
          have here : jobOf state.tasks sessionId index = task.jobs[index]? := by
            rw [jobOf, present]
            rfl
          rw [here]
          refine session_unturned ?_ stepped index
          intro job reply same
          subst same
          contradiction
      · exact .rests _
  | accept own kick now =>
      cases server_step_cases taken with
      | accepted _ _ _ newId =>
          show Unturned _ (jobOf (state.tasks.insert own _) sessionId index)
          rw [jobOf_insert]
          split
          · next same =>
              subst same
              rw [jobOf, newId]
              exact .rests none
          · exact .rests _
  | generate | disconnect | shutdown =>
      cases server_step_cases taken
      exact .rests _

theorem given_append (turns : List Turn) (turn : Turn) (sessionId : SessionId) (index : Nat) :
    given (turns ++ [turn]) sessionId index = given turns sessionId index +
      given [turn] sessionId index :=
  List.countP_append

/-- A server event comes from the server machine. -/
theorem scheduled_server {event : ServerEvent Reply}
    (taken : (scheduled keepAliveTimeout library accounts).step state (.server event) =
      some (after, seen)) :
    isReply event = false ∧
      (server (service keepAliveTimeout)).step state event = some (after, seen) := by
  simp only [scheduled] at taken
  split at taken
  · contradiction
  · next noReply => exact ⟨by simpa using noReply, taken⟩

theorem Paid.step {turns : List Turn} (paid : Paid turns state.tasks) {turn : Turn}
    (taken : (scheduled keepAliveTimeout library accounts).step state turn = some (after, seen)) :
    Paid (turns ++ [turn]) after.tasks := by
  intro sessionId index
  have owed := paid sessionId index
  rw [given_append]
  cases turn with
  | server event =>
      obtain ⟨noReply, stepped⟩ := scheduled_server taken
      exact owed.unturned (server_unturned noReply stepped sessionId index)
  | backend own job conditions =>
      obtain ⟨task, old, moved, present, found, turned, rfl, _⟩ := backend_step taken
      show Owed _ (jobOf (state.tasks.insert own (task.withJobs (task.jobs.set job moved)))
        sessionId index)
      rw [jobOf_insert]
      by_cases mine : own = sessionId ∧ job = index
      · obtain ⟨rfl, rfl⟩ := mine
        have here : jobOf state.tasks own job = some old := by
          rw [jobOf, present]
          exact found
        have there : (task.withJobs (task.jobs.set job moved)).jobs[job]? = some moved :=
          List.getElem?_set_self (List.getElem?_eq_some_iff.mp found).1
        have once : given [.backend own job conditions] own job = 1 := by simp [given]
        obtain ⟨_, same, fewer⟩ := turn_goesOn library accounts conditions old
        rw [turned] at same
        cases same
        rw [here] at owed
        rw [if_pos rfl, there, once]
        have bound : callsLeft old ≤ 4 - given turns own job := owed
        show callsLeft moved ≤ 4 - (given turns own job + 1)
        omega
      · have nothing : given [.backend own job conditions] sessionId index = 0 := by
          simp [given, mine]
        rw [nothing]
        split
        · next same =>
            subst same
            have different : job ≠ index := fun same => mine ⟨rfl, same⟩
            have here : jobOf state.tasks sessionId index = task.jobs[index]? := by
              rw [jobOf, present]
              rfl
            rw [here] at owed
            show Owed _ (task.jobs.set job moved)[index]?
            rw [List.getElem?_set_ne different]
            exact owed
        · exact owed

/-! ## Two servers -/

variable {a b nextA : LoginTask} {seenA : List (Seen Session Work Reply LoginOutcome)}
  {oneServer otherServer nextOne : LoginState} {seenOne : List LoginSeen}

/-- What a session delivers another one like it delivers, whose task is through. -/
theorem AlikeTasks.delivers (alike : AlikeTasks library left right a b) {index : Nat}
    (through : ∀ job, b.jobs[index]? = some job → callsLeft job = 0)
    (delivered : a.deliver index = some nextA) : ∃ nextB, b.deliver index = some nextB := by
  obtain ⟨jobs, rfl, all⟩ := alike
  obtain ⟨one, message, present, finished, way⟩ := Task.deliver_eq delivered
  have bound : index < jobs.length := by
    rw [← all.length_eq]
    exact (List.getElem?_eq_some_iff.mp present).1
  have found : jobs[index]? = some jobs[index] := List.getElem?_eq_getElem bound
  have pair := forall₂_lookup all present found
  have pending : jobs[index].pending = true := by
    have waits : one.pending = true := by
      rw [Job.pending, finished]
    cases pair with
    | same => exact waits
    | doomed _ _ same => rw [← same, waits]
  obtain ⟨outcome, ready⟩ := finished_of_callsLeft (through _ found) pending
  obtain ⟨rfl, _⟩ := pair.deliver finished ready
  have here : (a.withJobs jobs).jobs[index]? = some jobs[index] := found
  unfold Task.deliver
  rw [here]
  simp only [ready]
  rcases way with ⟨inner, queued, _⟩ | ⟨gone, _⟩
  · have same : (a.withJobs jobs).inner.trySend (index, message) = .ok inner := queued
    rw [same]
    exact ⟨_, rfl⟩
  · have same : (a.withJobs jobs).inner.trySend (index, message) = .error .closed := gone
    rw [same]
    exact ⟨_, rfl⟩

theorem AlikeTasks.goesOn (alike : AlikeTasks library left right a b) {event : Event Reply}
    (noReply : ∀ job reply, event ≠ .reply job reply)
    (through : ∀ index, event = .deliver index →
      ∀ job, b.jobs[index]? = some job → callsLeft job = 0)
    (taken : a.step (service keepAliveTimeout) event = some (nextA, seenA)) :
    ∃ nextB seenB, b.step (service keepAliveTimeout) event = some (nextB, seenB) := by
  by_cases session : event.ofJob = false
  · obtain ⟨jobs, rfl, all⟩ := alike
    rw [Task.step_withJobs _ a all.length_eq.symm session, taken]
    exact ⟨_, _, rfl⟩
  · cases event with
    | reply job reply => exact absurd rfl (noReply job reply)
    | deliver index =>
        simp only [Task.step, Option.map_eq_some_iff, Prod.mk.injEq] at taken
        obtain ⟨last, delivered, rfl, rfl⟩ := taken
        obtain ⟨nextB, same⟩ := alike.delivers (through index rfl) delivered
        exact ⟨nextB, [], by rw [Task.step, same]; rfl⟩
    | _ => exact absurd rfl session

/-- The session of the other server that is like a session of the one. -/
theorem Alike.present {tasks : FiniteMap SessionId LoginTask} {sessionId : SessionId}
    (all : ∀ sessionId, Option.Rel (AlikeTasks library left right)
      (oneServer.tasks.get sessionId) (tasks.get sessionId))
    (present : oneServer.tasks.get sessionId = some a) :
    ∃ b, tasks.get sessionId = some b ∧ AlikeTasks library left right a b := by
  have pair := all sessionId
  rw [present] at pair
  generalize tasks.get sessionId = theirs at pair
  cases pair with
  | some alike => exact ⟨_, rfl, alike⟩

/-- A login task can always have a turn. -/
theorem backend_goesOn {sessionId : SessionId} {index : Nat} {task : LoginTask}
    (present : state.tasks.get sessionId = some task) (found : task.jobs[index]? = some job) :
    ∃ after seen, (scheduled keepAliveTimeout library accounts).step state
      (.backend sessionId index conditions) = some (after, seen) := by
  simp only [scheduled, present, found]
  cases running : job.state with
  | running work =>
      obtain ⟨moved, turned, _⟩ := turn_goesOn library accounts conditions job
      simp only [ServerState.step, present, ServerState.admits, if_true, Task.step,
        reply_turn found running, turned, Option.map_some]
      exact ⟨_, _, rfl⟩
  | finished outcome | ended outcome => exact ⟨_, _, rfl⟩

/-- What one server does, another one like it does, whose task is through when it delivers. -/
theorem Alike.goesOn (alike : Alike library left right oneServer otherServer) {turn : Turn}
    (through : ∀ sessionId index, turn = .server (.session sessionId (.deliver index)) →
      ∀ job, jobOf otherServer.tasks sessionId index = some job → callsLeft job = 0)
    (taken : (scheduled keepAliveTimeout library left).step oneServer turn =
      some (nextOne, seenOne)) :
    ∃ nextOther seenOther, (scheduled keepAliveTimeout library right).step otherServer turn =
      some (nextOther, seenOther) := by
  obtain ⟨tasks, rfl, all⟩ := alike
  cases turn with
  | backend sessionId index conditions =>
      obtain ⟨a, job, _, present, found, _⟩ := backend_step taken
      obtain ⟨b, presentToo, jobs, rfl, pairs⟩ := Alike.present all present
      have bound : index < jobs.length := by
        rw [← pairs.length_eq]
        exact (List.getElem?_eq_some_iff.mp found).1
      exact backend_goesOn presentToo (List.getElem?_eq_getElem bound)
  | server event =>
      obtain ⟨noReply, stepped⟩ := scheduled_server taken
      simp only [scheduled, if_neg (Bool.not_eq_true _ ▸ noReply)]
      cases event with
      | session sessionId event =>
          obtain ⟨a, moved, made, present, admitted, taken, _⟩ := session_step stepped
          obtain ⟨b, presentToo, pair⟩ := Alike.present all present
          have kick : b.kick = a.kick := by
            obtain ⟨jobs, rfl, _⟩ := pair
            rfl
          have follows : ∃ nextB seenB, b.step (service keepAliveTimeout) event =
              some (nextB, seenB) := by
            apply pair.goesOn _ _ taken
            · intro job reply same
              subst same
              contradiction
            · intro index same job found
              subst same
              apply through sessionId index rfl job
              show (tasks.get sessionId).bind _ = _
              rw [presentToo]
              exact found
          obtain ⟨nextB, seenB, follows⟩ := follows
          have admittedToo : (oneServer.withTasks tasks).admits b.kick event = true := by
            rw [kick]
            exact admitted
          have presentThere : (oneServer.withTasks tasks).tasks.get sessionId = some b := presentToo
          simp only [ServerState.step, presentThere, admittedToo, if_true, follows]
          exact ⟨_, _, rfl⟩
      | accept sessionId kick now =>
          have absent : tasks.get sessionId = none := by
            cases server_step_cases stepped with
            | accepted _ _ _ newId =>
                have pair := all sessionId
                rw [newId] at pair
                generalize tasks.get sessionId = theirs at pair
                cases pair
                rfl
          simp only [Session.server, ServerState.step, Option.ite_none_right_eq_some] at stepped
          obtain ⟨⟨drawn, _, newKick⟩, _⟩ := stepped
          have free : (0 < sessionId ∧ sessionId ≤ (oneServer.withTasks tasks).nextId) ∧
              (oneServer.withTasks tasks).tasks.get sessionId = none ∧
                kick ∉ (oneServer.withTasks tasks).kicks := ⟨drawn, absent, newKick⟩
          simp only [ServerState.step, if_pos free]
          exact ⟨_, _, rfl⟩
      | generate =>
          simp only [Session.server, ServerState.step, Option.ite_none_right_eq_some] at stepped
          have wraps : (oneServer.withTasks tasks).nextId <
            generate (oneServer.withTasks tasks).nextId := stepped.1
          simp only [ServerState.step, if_pos wraps]
          exact ⟨_, _, rfl⟩
      | disconnect | shutdown => exact ⟨_, _, rfl⟩

/-- Before a result is delivered its task has had as many turns as it can use. -/
def Generous (turns : List Turn) : Prop :=
  ∀ front sessionId index back,
    turns = front ++ .server (.session sessionId (.deliver index)) :: back →
      4 ≤ given front sessionId index

theorem Alike.exec {front turns : List Turn} (generous : Generous (front ++ turns))
    (harmless : ∀ turn ∈ turns, ∀ userId clientHash,
      turn.credentials = some (userId, clientHash) →
        Harmless library left right userId clientHash)
    (alike : Alike library left right oneServer otherServer) (paid : Paid front otherServer.tasks)
    (executed : (scheduled keepAliveTimeout library left).exec oneServer turns =
      some (nextOne, seenOne)) :
    ∃ nextOther seenOther, (scheduled keepAliveTimeout library right).exec otherServer turns =
      some (nextOther, seenOther) := by
  induction turns generalizing front oneServer otherServer seenOne with
  | nil => exact ⟨otherServer, [], rfl⟩
  | cons turn rest inductionHypothesis =>
      obtain ⟨middle, first, second, taken, onwards, rfl⟩ := Machine.exec_cons executed
      have through : ∀ sessionId index, turn = .server (.session sessionId (.deliver index)) →
          ∀ job, jobOf otherServer.tasks sessionId index = some job → callsLeft job = 0 := by
        intro sessionId index same job present
        have enough := generous front sessionId index rest (by rw [same])
        have owed := paid sessionId index
        rw [present] at owed
        have bound : callsLeft job ≤ 4 - given front sessionId index := owed
        omega
      obtain ⟨follower, made, follows⟩ := alike.goesOn through taken
      have moved := (alike.step (harmless turn List.mem_cons_self) taken follows).1
      have later : Generous ((front ++ [turn]) ++ rest) := by
        rw [List.append_assoc]
        exact generous
      obtain ⟨last, others, tail⟩ := inductionHypothesis later
        (fun turn member => harmless turn (List.mem_cons_of_mem _ member)) moved
        (paid.step follows) onwards
      exact ⟨last, made ++ others, by simp only [Machine.exec, follows, tail]⟩

/-- A schedule that gives every login task enough turns goes on over either of two tables of
accounts that the passwords tried in it do not tell apart, if over the other. -/
theorem generous_executes {turns : List Turn} (generous : Generous turns)
    (harmless : ∀ turn ∈ turns, ∀ userId clientHash,
      turn.credentials = some (userId, clientHash) →
        Harmless library left right userId clientHash)
    (executed : (scheduled keepAliveTimeout library left).exec
      ⟨.default, .empty, 0, [], [], false⟩ turns = some (nextOne, seenOne)) :
    ∃ nextOther seenOther, (scheduled keepAliveTimeout library right).exec
      ⟨.default, .empty, 0, [], [], false⟩ turns = some (nextOther, seenOther) := by
  have unpaid : Paid [] FiniteMap.empty := by
    intro sessionId index
    rw [jobOf, FiniteMap.get_empty]
    rfl
  have whole : Generous ([] ++ turns) := generous
  exact (alike_empty library left right).exec whole harmless unpaid executed

end RustGameserver.LoginServer
