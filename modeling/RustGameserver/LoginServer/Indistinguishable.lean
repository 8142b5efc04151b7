import RustGameserver.LoginServer.Alike

/-!
Contract: what a LoginServer tells about accounts to someone without their password.

Owns:
- servers over two tables of accounts whose sessions are alike, and that a schedule
  keeps them so;
- what is the same of two such servers;
- a guess at a banned account, and the same guess without the account.

Does not own: how long the tasks take, which is the schedule's.
-/

namespace RustGameserver.LoginServer

open RustGameserver.Db
open RustGameserver.Foundation
open RustGameserver.Net
open RustGameserver.Proto
open RustGameserver.Session

variable {library : PasswordLibrary} {left right accounts : Accounts} {conditions : Conditions}
  {job : LoginJob} {keepAliveTimeout : Nat} {a b : LoginTask}

/-- Nobody but the task itself hears of a reply. -/
def visible : LoginSeen → Bool
  | .session _ (.replied ..) => false
  | _ => true

variable {state after : LoginState} {seen : List LoginSeen}

/-- The reply that a waiting task gets is its turn. -/
theorem reply_turn {task : LoginTask} {index : Nat} {work : Work}
    (found : task.jobs[index]? = some job) (running : job.state = .running work) :
    task.reply (service keepAliveTimeout) index (respond library accounts conditions work) =
      (turn library accounts conditions job).map fun moved =>
        (task.withJobs (task.jobs.set index moved),
          [.replied index (respond library accounts conditions work)]) := by
  unfold Task.reply turn
  simp only [found, running]
  rw [show (service keepAliveTimeout).resume = authenticate from rfl]
  cases resumed : authenticate work (respond library accounts conditions work) with
  | none => rfl
  | some progress => cases progress <;> rfl

/-- What a backend turn does. -/
theorem backend_step {sessionId : SessionId} {index : Nat}
    (taken : (scheduled keepAliveTimeout library accounts).step state
      (.backend sessionId index conditions) = some (after, seen)) :
    ∃ task job moved, state.tasks.get sessionId = some task ∧ task.jobs[index]? = some job ∧
      turn library accounts conditions job = some moved ∧
      after = state.withTasks
        (state.tasks.insert sessionId (task.withJobs (task.jobs.set index moved))) ∧
      seen.filter visible = [] := by
  simp only [scheduled] at taken
  split at taken
  · contradiction
  · next task present =>
      split at taken
      · contradiction
      · next job found =>
          refine ⟨task, job, ?_⟩
          cases state_eq : job.state with
          | running work =>
              simp only [state_eq, ServerState.step, present, ServerState.admits, if_true,
                Task.step, reply_turn found state_eq] at taken
              cases moved : turn library accounts conditions job with
              | none =>
                  rw [moved] at taken
                  contradiction
              | some next =>
                  simp only [moved, Option.map_some, Option.some.injEq] at taken
                  obtain ⟨rfl, rfl⟩ := Prod.ext_iff.mp taken
                  exact ⟨next, present, found, rfl, rfl, rfl⟩
          | finished outcome | ended outcome =>
              -- the task has its result already, and its turn passes
              have idle : task.jobs.set index job = task.jobs := by
                obtain ⟨bound, same⟩ := List.getElem?_eq_some_iff.mp found
                rw [← same, List.set_getElem_self]
              have unmoved : task.withJobs (task.jobs.set index job) = task := by
                rw [idle]
                rfl
              simp only [state_eq, Option.some.injEq, Prod.mk.injEq] at taken
              refine ⟨job, present, found, by simp only [turn, state_eq], ?_⟩
              rw [unmoved, FiniteMap.insert_same present, ← taken.1, ← taken.2]
              exact ⟨rfl, rfl⟩

/-- Servers that differ in their sessions only, which are alike. -/
def Alike (library : PasswordLibrary) (left right : Accounts) (one other : LoginState) : Prop :=
  ∃ tasks, other = one.withTasks tasks ∧
    ∀ sessionId, Option.Rel (AlikeTasks library left right) (one.tasks.get sessionId)
      (tasks.get sessionId)

/-- Servers without sessions are alike. -/
theorem alike_empty (library : PasswordLibrary) (left right : Accounts) :
    Alike library left right ⟨.default, .empty, 0, [], [], false⟩
      ⟨.default, .empty, 0, [], [], false⟩ := by
  refine ⟨.empty, rfl, fun sessionId => ?_⟩
  rw [FiniteMap.get_empty]
  exact .none

variable {tasks others : FiniteMap SessionId LoginTask}

/-- Sessions that are alike stay so when each gets a session like the other's. -/
theorem alike_insert (all : ∀ sessionId, Option.Rel (AlikeTasks library left right)
      (tasks.get sessionId) (others.get sessionId))
    (pair : AlikeTasks library left right a b) (sessionId other : SessionId) :
    Option.Rel (AlikeTasks library left right) ((tasks.insert sessionId a).get other)
      ((others.insert sessionId b).get other) := by
  rw [FiniteMap.get_insert, FiniteMap.get_insert]
  split
  · exact .some pair
  · exact all other

/-- The session of one server, and the session like it of the other. -/
theorem alike_present (all : ∀ sessionId, Option.Rel (AlikeTasks library left right)
      (tasks.get sessionId) (others.get sessionId)) {sessionId : SessionId}
    (first : tasks.get sessionId = some a) (second : others.get sessionId = some b) :
    AlikeTasks library left right a b := by
  have pair := all sessionId
  rw [first, second] at pair
  cases pair with
  | some alike => exact alike

variable {one other nextOne nextOther : LoginState} {seenOne seenOther : List LoginSeen}

/-- A backend turn of two servers that are alike. -/
theorem Alike.backend (alike : Alike library left right one other) {sessionId : SessionId}
    {index : Nat}
    (first : (scheduled keepAliveTimeout library left).step one
      (.backend sessionId index conditions) = some (nextOne, seenOne))
    (second : (scheduled keepAliveTimeout library right).step other
      (.backend sessionId index conditions) = some (nextOther, seenOther)) :
    Alike library left right nextOne nextOther ∧
      seenOne.filter visible = seenOther.filter visible := by
  obtain ⟨tasks, rfl, all⟩ := alike
  obtain ⟨a, jobA, movedA, presentA, foundA, turnA, rfl, silentA⟩ := backend_step first
  obtain ⟨b, jobB, movedB, presentB, foundB, turnB, rfl, silentB⟩ := backend_step second
  obtain ⟨jobs, rfl, pairs⟩ := alike_present all presentA presentB
  have moved := (forall₂_lookup pairs foundA foundB).turn turnA turnB
  refine ⟨⟨_, rfl, ?_⟩, silentA.trans silentB.symm⟩
  exact alike_insert all ⟨_, rfl, forall₂_set pairs moved index⟩ sessionId

/-- What a step of a session does to a server. -/
theorem session_step {sessionId : SessionId} {event : Event Reply}
    (taken : (server (service keepAliveTimeout)).step state (.session sessionId event) =
      some (after, seen)) :
    ∃ task moved made, state.tasks.get sessionId = some task ∧
      state.admits task.kick event = true ∧
      task.step (service keepAliveTimeout) event = some (moved, made) ∧
      after = ((state.observeAll sessionId task.kick made).1.withTasks
        (state.tasks.insert sessionId moved)) ∧
      seen = (state.observeAll sessionId task.kick made).2 := by
  cases server_step_cases taken with
  | @moved moved made sessionId event task present admitted stepped =>
      have elsewhere := ServerState.observeAll_withTasks (state.tasks.insert sessionId moved)
        sessionId task.kick made state
      have left := congrArg Prod.fst elsewhere
      have right := congrArg Prod.snd elsewhere
      exact ⟨task, moved, made, present, admitted, stepped, left, right⟩

/-- A step of the sessions of two servers that are alike. -/
theorem Alike.session (alike : Alike library left right one other) {sessionId : SessionId}
    {event : Event Reply}
    (harmless : ∀ now message userId clientHash,
      event = .select now (some (.message message)) →
        credentials message = some (userId, clientHash) →
          Harmless library left right userId clientHash)
    (noReply : ∀ job reply, event ≠ .reply job reply)
    (first : (server (service keepAliveTimeout)).step one (.session sessionId event) =
      some (nextOne, seenOne))
    (second : (server (service keepAliveTimeout)).step other (.session sessionId event) =
      some (nextOther, seenOther)) :
    Alike library left right nextOne nextOther ∧ seenOne = seenOther := by
  obtain ⟨tasks, rfl, all⟩ := alike
  obtain ⟨a, movedA, madeA, presentA, admittedA, stepA, rfl, rfl⟩ := session_step first
  obtain ⟨b, movedB, madeB, presentB, admittedB, stepB, rfl, rfl⟩ := session_step second
  have pair := alike_present all presentA presentB
  obtain ⟨moved, rfl⟩ := pair.step harmless noReply stepA stepB
  have kick : b.kick = a.kick := by
    obtain ⟨jobs, rfl, _⟩ := pair
    rfl
  rw [kick, ServerState.observeAll_withTasks]
  refine ⟨⟨_, rfl, ?_⟩, rfl⟩
  exact alike_insert all moved sessionId

/-- A step of two servers that are alike. -/
theorem Alike.server (alike : Alike library left right one other) {event : ServerEvent Reply}
    (harmless : ∀ userId clientHash,
      (Turn.server event).credentials = some (userId, clientHash) →
        Harmless library left right userId clientHash)
    (noReply : isReply event = false)
    (first : (Session.server (service keepAliveTimeout)).step one event =
      some (nextOne, seenOne))
    (second : (Session.server (service keepAliveTimeout)).step other event =
      some (nextOther, seenOther)) :
    Alike library left right nextOne nextOther ∧ seenOne = seenOther := by
  cases event with
  | session sessionId event =>
      refine alike.session ?_ ?_ first second
      · intro now message userId clientHash same found
        subst same
        exact harmless userId clientHash found
      · intro job reply same
        subst same
        contradiction
  | generate =>
      obtain ⟨tasks, rfl, all⟩ := alike
      cases server_step_cases first
      cases server_step_cases second
      exact ⟨⟨tasks, rfl, all⟩, rfl⟩
  | accept sessionId kick now =>
      obtain ⟨tasks, rfl, all⟩ := alike
      cases server_step_cases first
      cases server_step_cases second
      exact ⟨⟨_, rfl, alike_insert all ⟨[], rfl, .nil⟩ sessionId⟩, rfl⟩
  | disconnect sessionId =>
      obtain ⟨tasks, rfl, all⟩ := alike
      cases server_step_cases first
      cases server_step_cases second
      exact ⟨⟨tasks, rfl, all⟩, rfl⟩
  | shutdown =>
      obtain ⟨tasks, rfl, all⟩ := alike
      cases server_step_cases first
      cases server_step_cases second
      exact ⟨⟨tasks, rfl, all⟩, rfl⟩

/-- One turn of two servers that are alike. -/
theorem Alike.step (alike : Alike library left right one other) {turn : Turn}
    (harmless : ∀ userId clientHash, turn.credentials = some (userId, clientHash) →
      Harmless library left right userId clientHash)
    (first : (scheduled keepAliveTimeout library left).step one turn = some (nextOne, seenOne))
    (second : (scheduled keepAliveTimeout library right).step other turn =
      some (nextOther, seenOther)) :
    Alike library left right nextOne nextOther ∧
      seenOne.filter visible = seenOther.filter visible := by
  cases turn with
  | backend sessionId index conditions => exact alike.backend first second
  | server event =>
      simp only [scheduled] at first second
      split at first
      · contradiction
      · next noReply =>
          rw [if_neg noReply] at second
          rw [Bool.not_eq_true] at noReply
          obtain ⟨moved, same⟩ := alike.server harmless noReply first second
          exact ⟨moved, by rw [same]⟩

/-- A schedule keeps servers alike that are alike. -/
theorem Alike.run {turns : List Turn}
    (harmless : ∀ turn ∈ turns, ∀ userId clientHash,
      turn.credentials = some (userId, clientHash) →
        Harmless library left right userId clientHash) :
    ∀ {one other nextOne nextOther : LoginState} {seenOne seenOther : List LoginSeen},
      Alike library left right one other →
      (scheduled keepAliveTimeout library left).exec one turns = some (nextOne, seenOne) →
      (scheduled keepAliveTimeout library right).exec other turns = some (nextOther, seenOther) →
      Alike library left right nextOne nextOther ∧
        seenOne.filter visible = seenOther.filter visible := by
  induction turns with
  | nil =>
      intro one other nextOne nextOther seenOne seenOther alike first second
      rw [Machine.exec, Option.some.injEq, Prod.mk.injEq] at first second
      rw [← first.1, ← first.2, ← second.1, ← second.2]
      exact ⟨alike, rfl⟩
  | cons turn rest inductionHypothesis =>
      intro one other nextOne nextOther seenOne seenOther alike first second
      obtain ⟨middleOne, earlierOne, laterOne, stepOne, tailOne, rfl⟩ := Machine.exec_cons first
      obtain ⟨middleOther, earlierOther, laterOther, stepOther, tailOther, rfl⟩ :=
        Machine.exec_cons second
      obtain ⟨moved, same⟩ := alike.step (harmless turn List.mem_cons_self) stepOne stepOther
      obtain ⟨final, later⟩ := inductionHypothesis
        (fun turn member => harmless turn (List.mem_cons_of_mem _ member)) moved tailOne tailOther
      rw [List.filter_append, List.filter_append, same, later]
      exact ⟨final, rfl⟩

/-! ## What can be told apart -/

/-- What a session has enqueued is visible. -/
theorem accepted_visible (sessionId : SessionId) (history : List LoginSeen) :
    accepted (historyOf sessionId (history.filter visible)) =
      accepted (historyOf sessionId history) := by
  rw [accepted, accepted, historyOf, historyOf, List.filterMap_filterMap, List.filterMap_filterMap,
    List.filterMap_filter]
  congr 1
  funext entry
  split
  · rfl
  · next hidden =>
      unfold visible at hidden
      split at hidden
      · next other job reply =>
          by_cases own : other = sessionId <;>
            simp [ServerSeen.ofSession, own, Seen.acceptedPayload]
      · contradiction

/-- The calls of each task of a session that leave a trace behind. -/
def effectsOf (task : LoginTask) : List (List Work) :=
  task.jobs.map fun job => effects job.calls

theorem AlikeTasks.effects (alike : AlikeTasks library left right a b) :
    effectsOf a = effectsOf b := by
  obtain ⟨jobs, rfl, all⟩ := alike
  rw [effectsOf, effectsOf, ← List.forall₂_eq_eq_eq]
  exact List.rel_map (fun _ _ pair => pair.effects) all

theorem AlikeTasks.session (alike : AlikeTasks library left right a b) :
    a.withJobs [] = b.withJobs [] := by
  obtain ⟨jobs, rfl, _⟩ := alike
  rfl

/-- What is the same of sessions that are alike is the same of their servers. -/
theorem alike_read {α : Type} {read : LoginTask → α}
    (same : ∀ a b, AlikeTasks library left right a b → read a = read b)
    (alike : Alike library left right one other) (sessionId : SessionId) :
    (one.tasks.get sessionId).map read = (other.tasks.get sessionId).map read := by
  obtain ⟨tasks, rfl, all⟩ := alike
  have pair := all sessionId
  show (one.tasks.get sessionId).map read = (tasks.get sessionId).map read
  generalize one.tasks.get sessionId = mine at pair
  generalize tasks.get sessionId = theirs at pair
  cases pair with
  | none => rfl
  | some alike => exact congrArg some (same _ _ alike)

/-- Over two tables of accounts that differ in users whose passwords are not tried, and
on the same schedule, a LoginServer sends the same, leaves the same traces behind and
ends in the same state. -/
theorem logins_indistinguishable {keepAliveTimeout : Nat} {library : PasswordLibrary}
    {left right : Accounts} {turns : List Turn} {one other : LoginState}
    {seenOne seenOther : List LoginSeen}
    (untried : ∀ userId, left userId ≠ right userId →
      ∀ clientHash, (userId, clientHash) ∈ turns.filterMap Turn.credentials →
        Fails library left userId clientHash ∧ Fails library right userId clientHash)
    (first : (scheduled keepAliveTimeout library left).exec
      ⟨.default, .empty, 0, [], [], false⟩ turns = some (one, seenOne))
    (second : (scheduled keepAliveTimeout library right).exec
      ⟨.default, .empty, 0, [], [], false⟩ turns = some (other, seenOther)) :
    (∀ sessionId,
      accepted (historyOf sessionId seenOne) = accepted (historyOf sessionId seenOther)) ∧
      -- the calls of `touch_last_login` and `issue_auth_token`, task by task
      (∀ sessionId,
        (one.tasks.get sessionId).map effectsOf = (other.tasks.get sessionId).map effectsOf) ∧
      -- every session, its tasks apart
      (∀ sessionId,
        (one.tasks.get sessionId).map (fun task => task.withJobs []) =
          (other.tasks.get sessionId).map fun task => task.withJobs []) ∧
      one.registry = other.registry ∧ one.cancelled = other.cancelled := by
  have harmless : ∀ turn ∈ turns, ∀ userId clientHash,
      turn.credentials = some (userId, clientHash) →
        Harmless library left right userId clientHash := by
    intro turn member userId clientHash brings
    by_cases agree : left userId = right userId
    · exact .inl agree
    · exact .inr (untried userId agree clientHash (List.mem_filterMap.mpr ⟨turn, member, brings⟩))
  obtain ⟨alike, same⟩ := (alike_empty library left right).run harmless first second
  refine ⟨fun sessionId => ?_, alike_read (fun _ _ pair => pair.effects) alike,
    alike_read (fun _ _ pair => pair.session) alike, ?_⟩
  · rw [← accepted_visible, same, accepted_visible]
  · obtain ⟨tasks, rfl, _⟩ := alike
    exact ⟨rfl, rfl⟩

/-! ## A guess at a banned account -/

/-- PBKDF2 of the passwords 1 and 2 without a salt, in 100000 rounds. -/
def derivedOne : List UInt8 :=
  [234, 250, 225, 232, 119, 103, 247, 197, 19, 236, 192, 211, 178, 230, 84, 90, 1, 37, 114, 44,
    118, 76, 213, 167, 235, 221, 44, 222, 221, 81, 191, 233]

def derivedTwo : List UInt8 :=
  [133, 211, 30, 55, 103, 10, 123, 123, 90, 116, 139, 205, 7, 122, 102, 172, 163, 108, 242, 133,
    47, 195, 190, 193, 194, 71, 76, 24, 192, 144, 222, 190]

/-- The library, as far as two accounts need it. -/
def smallLibrary : PasswordLibrary where
  sha256 := fun _ => []
  decode := fun text =>
    if text = "" then some []
    else if text = "hdMeN2cKe3tadIvNB3pmrKNs8oUvw77BwkdMGMCQ3r4=" then some derivedTwo
    else none
  pbkdf2 := fun password _ _ _ => if password = [1] then derivedOne else derivedTwo

/-- The row of the user with password 2. -/
def aliceRow : AccountRow :=
  ⟨7, "alice", "hdMeN2cKe3tadIvNB3pmrKNs8oUvw77BwkdMGMCQ3r4=", "", 0⟩

def aliceOnly (userId : String) : Option AccountRow :=
  if userId = "alice" then some aliceRow else none

def aliceAndBob (userId : String) : Option AccountRow :=
  if userId = "alice" then some aliceRow
  else if userId = "bob" then some ⟨8, "bob", "", "", 1⟩
  else none

def working : Conditions := ⟨none, .ok (), .ok (some "token")⟩

/-- A client guesses the password of one user, and knows that of another. -/
def guessThenLogin : List Turn :=
  [.server .generate, .server (.accept 1 ⟨0⟩ 0), .server (.session 1 .greet),
    .server (.session 1 (.poll false)),
    .server (.session 1 (.select 1 (some (.message ⟨0, some (.loginRequest ⟨"bob", [1]⟩)⟩)))),
    .backend 1 0 working, .backend 1 0 working, .server (.session 1 (.deliver 0)),
    .server (.session 1 (.poll false)), .server (.session 1 (.select 2 none)),
    .server (.session 1 (.poll false)),
    .server (.session 1 (.select 3 (some (.message ⟨0, some (.loginRequest ⟨"alice", [2]⟩)⟩)))),
    .backend 1 1 working, .backend 1 1 working, .backend 1 1 working, .backend 1 1 working,
    .server (.session 1 (.deliver 1)), .server (.session 1 (.poll false)),
    .server (.session 1 (.select 4 none))]

theorem logins_indistinguishable_guessThenLogin :
    ∃ one seenOne other seenOther,
      (scheduled 10 smallLibrary aliceOnly).exec ⟨.default, .empty, 0, [], [], false⟩
        guessThenLogin = some (one, seenOne) ∧
      (scheduled 10 smallLibrary aliceAndBob).exec ⟨.default, .empty, 0, [], [], false⟩
        guessThenLogin = some (other, seenOther) ∧
      accepted (historyOf 1 seenOne) = [.connectedResponse ⟨0⟩, .loginResponse ⟨false, 1, ""⟩,
        .loginResponse ⟨true, 0, "token"⟩] ∧
      accepted (historyOf 1 seenOther) = accepted (historyOf 1 seenOne) := by
  have runs : ∃ one seenOne other seenOther,
      (scheduled 10 smallLibrary aliceOnly).exec ⟨.default, .empty, 0, [], [], false⟩
        guessThenLogin = some (one, seenOne) ∧
      (scheduled 10 smallLibrary aliceAndBob).exec ⟨.default, .empty, 0, [], [], false⟩
        guessThenLogin = some (other, seenOther) ∧
      accepted (historyOf 1 seenOne) = [.connectedResponse ⟨0⟩, .loginResponse ⟨false, 1, ""⟩,
        .loginResponse ⟨true, 0, "token"⟩] :=
    ⟨_, _, _, _, rfl, rfl, rfl⟩
  obtain ⟨one, seenOne, other, seenOther, first, second, told⟩ := runs
  have untried : ∀ userId, aliceOnly userId ≠ aliceAndBob userId →
      ∀ clientHash, (userId, clientHash) ∈ guessThenLogin.filterMap Turn.credentials →
        Fails smallLibrary aliceOnly userId clientHash ∧
          Fails smallLibrary aliceAndBob userId clientHash := by
    intro userId differ clientHash tried
    have pair : (userId, clientHash) = ("bob", [1]) ∨ (userId, clientHash) = ("alice", [2]) := by
      simpa [guessThenLogin, Turn.credentials, credentials, eq_comm] using tried
    rcases pair with pair | pair
    · cases pair
      constructor
      · intro row found
        contradiction
      · intro row found
        cases found
        rfl
    · cases pair
      exact absurd rfl differ
  exact ⟨one, seenOne, other, seenOther, first, second, told,
    ((logins_indistinguishable untried first second).1 1).symm⟩

end RustGameserver.LoginServer
