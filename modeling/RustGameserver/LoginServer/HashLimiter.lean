import RustGameserver.Foundation.FairSemaphore
import RustGameserver.LoginServer.Authenticate
import RustGameserver.Session.Substitution

/-!
Contract: `hash_limiter`, which all login tasks of a LoginServer share.

Owns:
- the permit a login task acquires before `verify` and drops after it;
- the LoginServer in which a verification waits for its permit;
- that its semaphore runs by itself;
- how many passwords are verified at once, in which order, and what waits for that.

Does not own: the verification.
-/

namespace RustGameserver.LoginServer

open RustGameserver.Foundation
open RustGameserver.Net
open RustGameserver.Session

/-- A login task of a session. -/
abbrev HashingTask := SessionId × Nat

/-- The task holds a permit or waits for one. -/
def verifying (job : Job Work Reply LoginOutcome) : Bool :=
  match job.state with
  | .running (.verify ..) => true
  | .running _ | .finished _ | .ended _ => false

/-- The same of a task of a session. -/
def verifies (session : Session.Task LoginServer.Session Work Reply LoginOutcome) (index : Nat) :
    Bool :=
  session.jobs[index]?.any verifying

/-- The same of a task of the server. -/
def isVerifying (state : ServerState Session Work Reply LoginOutcome) (task : HashingTask) : Bool :=
  (state.tasks.get task.1).any fun session => verifies session task.2

/-- What a reply means for the semaphore. -/
def turnOf (before after : ServerState Session Work Reply LoginOutcome) :
    ServerEvent Reply → Option (PermitTurn HashingTask)
  | .session sessionId (.reply job _) =>
      match isVerifying before (sessionId, job), isVerifying after (sessionId, job) with
      | false, true => some (.acquire (sessionId, job))
      | true, false => some (.release (sessionId, job))
      | false, false | true, true => none
  | _ => none

/-- A LoginServer with its `hash_limiter`. -/
structure LimitedState (permits : Nat) where
  server : ServerState Session Work Reply LoginOutcome
  limiter : FairSemaphore HashingTask permits

inductive LimitedSeen where
  | server (seen : ServerSeen Session Work Reply LoginOutcome)
  | limiter (seen : PermitSeen HashingTask)

/-- A task that has not got its permit is not told a verdict. -/
def LimitedState.step {permits : Nat} (keepAliveTimeout : Nat) (state : LimitedState permits)
    (event : ServerEvent Reply) : Option (LimitedState permits × List LimitedSeen) :=
  match state.server.step (service keepAliveTimeout) event with
  | none => none
  | some (server, seen) =>
      match turnOf state.server server event with
      | none => some ({ state with server }, seen.map .server)
      | some turn =>
          match state.limiter.step turn with
          | none => none
          | some (limiter, turned) =>
              some ({ server, limiter }, seen.map .server ++ turned.map .limiter)

def limited (permits keepAliveTimeout : Nat) :
    Machine (LimitedState permits) (ServerEvent Reply) LimitedSeen where
  Initial := fun state => state = ⟨⟨.default, .empty, 0, [], [], false⟩, .new HashingTask permits⟩
  step := fun state event => state.step keepAliveTimeout event

def LimitedSeen.ofLimiter : LimitedSeen → Option (PermitSeen HashingTask)
  | .server _ => none
  | .limiter seen => some seen

/-- What is observed of the semaphore. -/
def limiterHistory (history : List LimitedSeen) : List (PermitSeen HashingTask) :=
  history.filterMap LimitedSeen.ofLimiter

variable {permits keepAliveTimeout : Nat} {before after state : LimitedState permits}
  {event : ServerEvent Reply} {history seen : List LimitedSeen}

/-- What one step of the server with its limiter does. -/
inductive LimitedStepped (keepAliveTimeout : Nat) (before : LimitedState permits)
    (event : ServerEvent Reply) : LimitedState permits → List LimitedSeen → Prop where
  | aside {next : ServerState Session Work Reply LoginOutcome}
      {made : List (ServerSeen Session Work Reply LoginOutcome)}
      (taken : (server (service keepAliveTimeout)).step before.server event = some (next, made))
      (unasked : turnOf before.server next event = none) :
      LimitedStepped keepAliveTimeout before event { before with server := next }
        (made.map .server)
  | turned {next : ServerState Session Work Reply LoginOutcome}
      {made : List (ServerSeen Session Work Reply LoginOutcome)} {turn : PermitTurn HashingTask}
      {limiter : FairSemaphore HashingTask permits} {turned : List (PermitSeen HashingTask)}
      (taken : (server (service keepAliveTimeout)).step before.server event = some (next, made))
      (asked : turnOf before.server next event = some turn)
      (limits : (turns HashingTask permits).step before.limiter turn = some (limiter, turned)) :
      LimitedStepped keepAliveTimeout before event ⟨next, limiter⟩
        (made.map .server ++ turned.map .limiter)

theorem limited_step_cases
    (taken : (limited permits keepAliveTimeout).step before event = some (after, seen)) :
    LimitedStepped keepAliveTimeout before event after seen := by
  simp only [limited, LimitedState.step] at taken
  split at taken
  · contradiction
  next next made moved =>
  split at taken
  · next unasked =>
      cases taken
      exact .aside moved unasked
  next turn asked =>
  split at taken
  · contradiction
  next limiter turned limits =>
  cases taken
  exact .turned moved asked limits

/-- The limiter runs as a semaphore does. -/
theorem limited_projects_turns (permits keepAliveTimeout : Nat) :
    (limited permits keepAliveTimeout).Projects (turns HashingTask permits)
      (fun state => some state.limiter) LimitedSeen.ofLimiter := by
  apply Machine.Projects.component
  · rintro state rfl
    rfl
  · intro before event after seen taken
    cases limited_step_cases taken with
    | aside =>
        rw [filterMap_wrapped LimitedSeen.server _ (fun _ => rfl)]
        exact .rests rfl rfl
    | turned moved asked limits =>
        rw [List.filterMap_append, filterMap_wrapped LimitedSeen.server _ (fun _ => rfl),
          filterMap_unwrapped LimitedSeen.limiter _ (fun _ => rfl), List.nil_append]
        exact .one limits

theorem reaches_limiter (run : (limited permits keepAliveTimeout).Reaches state history) :
    (turns HashingTask permits).Reaches state.limiter (limiterHistory history) :=
  (limited_projects_turns permits keepAliveTimeout).reaches run rfl

/-! ## Who verifies -/

section Sessions

variable {task next : Session.Task LoginServer.Session Work Reply LoginOutcome}
  {own : Event Reply} {made : List (Seen Session Work Reply LoginOutcome)}

/-- A new task looks an account up first. -/
theorem newJobs_lookUp (keepAliveTimeout : Nat)
    (task : Session.Task LoginServer.Session Work Reply LoginOutcome) (own : Event Reply) :
    ∀ job ∈ task.newJobs (service keepAliveTimeout) own, verifying job = false := by
  intro job member
  cases own with
  | select now frame =>
      have reacts : ∃ reaction : Reaction Session Work,
          job ∈ reaction.newJobs ∧ ∀ fields work, reaction = .spawn fields work →
            ∃ userId clientHash, work = .findAccount userId clientHash := by
        cases frame with
        | none =>
            simp only [Task.newJobs, Task.reactionTo] at member
            cases received : task.inner.tryRecv with
            | none => simp [received] at member
            | some taken =>
                rw [received, Option.map_some, Option.elim_some] at member
                refine ⟨_, member, fun fields work spawns => ?_⟩
                have answers := task.fields.onLoginOutcome_cases now taken.1.2
                rw [show task.fields.onLoginOutcome now taken.1.2 = .spawn fields work from
                  spawns] at answers
                generalize taken.1.2 = outcome at answers
                cases answers
        | some frame =>
            cases frame with
            | message message =>
                refine ⟨_, member, fun fields work spawns => ?_⟩
                obtain ⟨req, _, same⟩ := Session.Handles.spawn
                  (by rw [← spawns]; exact task.fields.onRemote_cases now message)
                exact ⟨_, _, same⟩
            | error | closed => contradiction
      obtain ⟨reaction, among, starts⟩ := reacts
      cases reaction with
      | spawn fields work =>
          obtain ⟨userId, clientHash, rfl⟩ := starts fields work rfl
          rw [Reaction.newJobs, List.mem_singleton] at among
          rw [among]
          rfl
      | proceed | stop | send | authenticate => contradiction
  | _ => contradiction

/-- Putting a task where one was that verifies as little. -/
theorem verifies_set {jobs : List (Job Work Reply LoginOutcome)} {place index : Nat}
    {old new : Job Work Reply LoginOutcome} (present : jobs[place]? = some old)
    (same : verifying new = verifying old ∨ place ≠ index) :
    (jobs.set place new)[index]?.any verifying = jobs[index]?.any verifying := by
  by_cases here : place = index
  · subst here
    have inside := (List.getElem?_eq_some_iff.mp present).1
    rw [List.getElem?_set_self inside, present, Option.any_some, Option.any_some]
    exact same.resolve_right (fun different => different rfl)
  · rw [List.getElem?_set_ne here]

/-- What the reply to a task does to the tasks. -/
theorem reply_jobs {index : Nat} {reply : Reply}
    (taken : task.reply (service keepAliveTimeout) index reply = some (next, made)) :
    ∃ job new work, task.jobs[index]? = some job ∧ job.state = .running work ∧
      next.jobs = task.jobs.set index new ∧
      ((∃ further, authenticate work reply = some (.awaits further) ∧
          new.state = .running further) ∨
        ∃ outcome, authenticate work reply = some (.returns outcome) ∧
          new.state = .finished outcome) := by
  obtain ⟨job, work, present, running, _, way⟩ := Task.reply_eq taken
  rcases way with ⟨further, resumed, rfl⟩ | ⟨outcome, resumed, rfl⟩
  · exact ⟨job, _, work, present, running, rfl, .inl ⟨further, resumed, rfl⟩⟩
  · exact ⟨job, _, work, present, running, rfl, .inr ⟨outcome, resumed, rfl⟩⟩

/-- Only the reply to a task decides whether the task verifies. -/
theorem step_verifies {index : Nat} (other : ∀ reply, own ≠ .reply index reply)
    (taken : task.step (service keepAliveTimeout) own = some (next, made)) :
    verifies next index = verifies task index := by
  by_cases ofJob : own.ofJob = true
  · cases own with
    | reply place reply =>
        have elsewhere : place ≠ index := by
          rintro rfl
          exact other reply rfl
        obtain ⟨job, new, work, present, _, jobs, _⟩ := reply_jobs taken
        rw [verifies, jobs]
        exact verifies_set present (.inr elsewhere)
    | deliver place =>
        simp only [Task.step, Option.map_eq_some_iff, Prod.mk.injEq] at taken
        obtain ⟨_, delivered, rfl, _⟩ := taken
        obtain ⟨job, outcome, present, finished, way⟩ := Task.deliver_eq delivered
        have idle : verifying { job with state := .ended outcome } = verifying job := by
          rw [verifying, verifying, finished]
        rcases way with ⟨inner, _, rfl⟩ | ⟨_, rfl⟩
        · exact verifies_set present (.inl idle)
        · exact verifies_set present (.inl idle)
    | _ => contradiction
  · rw [Bool.not_eq_true] at ofJob
    rw [verifies, Task.step_jobs _ _ ofJob taken, List.getElem?_append, verifies]
    split
    · rfl
    · next past =>
        rw [List.getElem?_eq_none (Nat.le_of_not_lt past), Option.any_none,
          Option.any_eq_false]
        intro job found
        have idle := newJobs_lookUp keepAliveTimeout task own job (List.mem_of_getElem? found)
        rw [idle]

/-- A task that is told its verdict does not verify again. -/
theorem verdict_ends {index : Nat} {reply : Reply}
    (taken : task.reply (service keepAliveTimeout) index reply = some (next, made))
    (atWork : verifies task index = true) : verifies next index = false := by
  obtain ⟨job, new, work, present, running, jobs, goesOn⟩ := reply_jobs taken
  have inside := (List.getElem?_eq_some_iff.mp present).1
  rw [verifies, present, Option.any_some, verifying, running] at atWork
  rw [verifies, jobs, List.getElem?_set_self inside, Option.any_some, verifying]
  rcases goesOn with ⟨further, resumed, state⟩ | ⟨outcome, _, state⟩
  · rw [state]
    cases further with
    | verify row clientHash =>
        cases work with
        | verify =>
            cases reply with
            | verified result =>
                rcases result with _ | _ | _
                · simp [authenticate] at resumed
                · simp [authenticate] at resumed
                · simp only [authenticate] at resumed
                  split at resumed <;> simp at resumed
            | _ => contradiction
        | _ => contradiction
    | _ => rfl
  · rw [state]

end Sessions

section Servers

variable {current next : ServerState Session Work Reply LoginOutcome}
  {made : List (ServerSeen Session Work Reply LoginOutcome)}

/-- Only the reply to a task of the server decides whether the task verifies. -/
theorem server_step_verifying {task : HashingTask}
    (taken : (server (service keepAliveTimeout)).step current event = some (next, made))
    (other : ∀ reply, event ≠ .session task.1 (.reply task.2 reply)) :
    isVerifying next task = isVerifying current task := by
  cases server_step_cases taken with
  | drawn | disconnected | shutDown => rfl
  | accepted sessionId kick now newId =>
      rw [isVerifying, isVerifying, FiniteMap.get_insert]
      split
      · next same =>
          rw [same, newId]
          rfl
      · rfl
  | @moved after made sessionId own session present admitted stepped =>
      rw [isVerifying, isVerifying, moved_tasks]
      split
      · next same =>
          rw [same, present, Option.any_some, Option.any_some]
          apply step_verifies _ stepped
          rintro reply rfl
          rw [← same] at other
          exact other reply rfl
      · rfl

/-- A task of the server that is told its verdict does not verify again. -/
theorem server_verdict_ends {task : HashingTask} {reply : Reply}
    (taken : (server (service keepAliveTimeout)).step current
      (.session task.1 (.reply task.2 reply)) = some (next, made))
    (atWork : isVerifying current task = true) : isVerifying next task = false := by
  cases server_step_cases taken with
  | @moved after made sessionId own session present admitted stepped =>
      rw [isVerifying, present, Option.any_some] at atWork
      rw [isVerifying, moved_tasks, if_pos rfl, Option.any_some]
      exact verdict_ends stepped atWork

/-- Whatever the verdict is, a task that verifies can be told of it. -/
theorem verdict_taken (keepAliveTimeout : Nat) {task : HashingTask}
    (atWork : isVerifying current task = true) (verdict : Except VerifyError Bool) :
    ∃ next made, (server (service keepAliveTimeout)).step current
      (.session task.1 (.reply task.2 (.verified verdict))) = some (next, made) := by
  obtain ⟨session, present, running⟩ := (Option.any_eq_true _ _).mp atWork
  obtain ⟨job, there, state⟩ := (Option.any_eq_true _ _).mp running
  have waits : ∃ row clientHash, job.state = .running (.verify row clientHash) := by
    unfold verifying at state
    split at state
    · next row clientHash found => exact ⟨row, clientHash, found⟩
    all_goals contradiction
  obtain ⟨row, clientHash, found⟩ := waits
  have goesOn : ∃ after made, session.step (service keepAliveTimeout)
      (.reply task.2 (.verified verdict)) = some (after, made) := by
    have decided : ∃ progress, (service keepAliveTimeout).resume (.verify row clientHash)
        (.verified verdict) = some progress := by
      show ∃ progress, authenticate (.verify row clientHash) (.verified verdict) = some progress
      unfold authenticate
      rcases verdict with _ | _ | _
      · exact ⟨_, rfl⟩
      · exact ⟨_, rfl⟩
      · simp only
        split <;> exact ⟨_, rfl⟩
    obtain ⟨progress, resumed⟩ := decided
    simp only [Task.step, Task.reply, there, found, resumed]
    cases progress <;> exact ⟨_, _, rfl⟩
  obtain ⟨after, made, stepped⟩ := goesOn
  simp only [server, ServerState.step, present, ServerState.admits, if_true, stepped]
  exact ⟨_, _, rfl⟩

/-- The turn of the semaphore in a step, and who verifies after it. -/
inductive Turns (current next : ServerState Session Work Reply LoginOutcome)
    (event : ServerEvent Reply) : Option (PermitTurn HashingTask) → Prop where
  | unchanged (same : ∀ task, isVerifying next task = isVerifying current task) :
      Turns current next event none
  | acquires (task : HashingTask) (was : isVerifying current task = false)
      (becomes : isVerifying next task = true)
      (others : ∀ other, other ≠ task → isVerifying next other = isVerifying current other) :
      Turns current next event (some (.acquire task))
  | releases (task : HashingTask) (reply : Reply)
      (told : event = .session task.1 (.reply task.2 reply))
      (was : isVerifying current task = true) (becomes : isVerifying next task = false)
      (others : ∀ other, other ≠ task → isVerifying next other = isVerifying current other) :
      Turns current next event (some (.release task))

theorem turnOf_cases
    (taken : (server (service keepAliveTimeout)).step current event = some (next, made)) :
    Turns current next event (turnOf current next event) := by
  have aside : (∀ sessionId job reply, event ≠ .session sessionId (.reply job reply)) →
      Turns current next event none := fun noReply =>
    .unchanged fun task => server_step_verifying taken (noReply task.1 task.2)
  cases event with
  | session sessionId own =>
      cases own with
      | reply job reply =>
          have others : ∀ other, other ≠ (sessionId, job) →
              isVerifying next other = isVerifying current other := by
            intro other different
            apply server_step_verifying taken
            rintro received same
            simp only [ServerEvent.session.injEq, Event.reply.injEq] at same
            exact different (Prod.ext same.1.symm same.2.1.symm)
          rw [turnOf]
          split
          · next was becomes => exact .acquires _ was becomes others
          · next was becomes => exact .releases _ reply rfl was becomes others
          · next was becomes =>
              refine .unchanged fun other => ?_
              by_cases same : other = (sessionId, job)
              · rw [same, was, becomes]
              · exact others other same
          · next was becomes =>
              have ended := server_verdict_ends taken was
              rw [becomes] at ended
              contradiction
      | _ => exact aside nofun
  | _ => exact aside nofun

end Servers

/-- The semaphore knows exactly the tasks that verify. -/
theorem reaches_permitted (run : (limited permits keepAliveTimeout).Reaches state history) :
    ∀ task, isVerifying state.server task = true ↔
      task ∈ state.limiter.holders ++ state.limiter.queue := by
  apply run.invariant
  · rintro state rfl task
    rw [isVerifying]
    simp [FairSemaphore.new]
  · intro before history event after seen reached permitted taken task
    cases limited_step_cases taken with
    | aside moved unasked =>
        have turn := turnOf_cases moved
        rw [unasked] at turn
        cases turn with
        | unchanged same =>
            rw [same task]
            exact permitted task
    | turned moved asked limits =>
        have turn := turnOf_cases moved
        rw [asked] at turn
        cases turn with
        | acquires asking was becomes others =>
            rw [acquire_inside (turn_cases limits)]
            by_cases own : task = asking
            · rw [own, becomes]
              simp
            · rw [others task own, permitted task]
              simp [own]
        | releases told reply _ was becomes others =>
            rw [release_inside (reaches_fair (reaches_limiter reached)) (turn_cases limits)]
            by_cases own : task = told
            · rw [own, becomes]
              simp
            · rw [others task own, permitted task]
              simp [own]

/-- The semaphore takes every turn but the release of a permit that is not held. -/
theorem turn_none_iff (turn : PermitTurn HashingTask)
    (outside : ∀ task, turn = .acquire task →
      task ∉ state.limiter.holders ++ state.limiter.queue) :
    state.limiter.step turn = none ↔
      ∃ task, turn = .release task ∧ task ∉ state.limiter.holders := by
  cases turn with
  | acquire task =>
      have neither := outside task rfl
      rw [List.mem_append, not_or] at neither
      rw [FairSemaphore.step, if_pos neither]
      simp
  | release task =>
      rw [FairSemaphore.step]
      by_cases held : task ∈ state.limiter.holders
      · rw [dif_pos held]
        simp [held]
      · rw [dif_neg held]
        simp [held]

/-- The limiter holds a step up only when the step is the verdict of a task in its queue. -/
theorem limited_step_none_iff (run : (limited permits keepAliveTimeout).Reaches state history)
    {next : ServerState Session Work Reply LoginOutcome}
    {made : List (ServerSeen Session Work Reply LoginOutcome)}
    (taken : (server (service keepAliveTimeout)).step state.server event = some (next, made)) :
    (limited permits keepAliveTimeout).step state event = none ↔
      ∃ task ∈ state.limiter.queue, ∃ reply, event = .session task.1 (.reply task.2 reply) := by
  have permitted := reaches_permitted run
  have fair := reaches_fair (reaches_limiter run)
  have turn := turnOf_cases taken
  -- a task in the queue verifies, and its verdict is a release
  have queued : ∀ task ∈ state.limiter.queue,
      (∃ reply, event = .session task.1 (.reply task.2 reply)) →
        isVerifying state.server task = true ∧ isVerifying next task = false := by
    rintro task waits ⟨reply, rfl⟩
    have atWork := (permitted task).mpr (List.mem_append_right _ waits)
    exact ⟨atWork, server_verdict_ends taken atWork⟩
  have stepped : (limited permits keepAliveTimeout).step state event = none ↔
      ∃ turn, turnOf state.server next event = some turn ∧ state.limiter.step turn = none := by
    simp only [limited, LimitedState.step]
    rw [show state.server.step (service keepAliveTimeout) event = some (next, made) from taken]
    cases decided : turnOf state.server next event with
    | none => simp [decided]
    | some turn => cases went : state.limiter.step turn <;> simp [decided, went]
  rw [stepped]
  generalize turnOf state.server next event = answer at turn
  cases turn with
  | unchanged same =>
      constructor
      · rintro ⟨_, other, _⟩
        contradiction
      · rintro ⟨task, waits, told⟩
        have ends := queued task waits told
        rw [same task, ends.1] at ends
        exact absurd ends.2 nofun
  | acquires asking was becomes others =>
      constructor
      · rintro ⟨_, ⟨⟩, stuck⟩
        have outside : asking ∉ state.limiter.holders ++ state.limiter.queue := by
          rw [← permitted asking, was]
          exact Bool.false_ne_true
        rw [turn_none_iff _ (by rintro task ⟨⟩; exact outside)] at stuck
        obtain ⟨_, other, _⟩ := stuck
        contradiction
      · rintro ⟨task, waits, told⟩
        have ends := queued task waits told
        by_cases own : task = asking
        · rw [own, was] at ends
          exact absurd ends.1 nofun
        · rw [others task own, ends.1] at ends
          exact absurd ends.2 nofun
  | releases told reply cause was becomes others =>
      constructor
      · rintro ⟨_, ⟨⟩, stuck⟩
        rw [turn_none_iff _ (fun _ other => by contradiction)] at stuck
        obtain ⟨freed, same, free⟩ := stuck
        rw [PermitTurn.release.injEq] at same
        rw [← same] at free
        have inside := (permitted told).mp was
        exact ⟨told, (List.mem_append.mp inside).resolve_left free, reply, cause⟩
      · rintro ⟨task, waits, received, same⟩
        rw [cause, ServerEvent.session.injEq, Event.reply.injEq] at same
        have own : task = told := Prod.ext same.1.symm same.2.1.symm
        refine ⟨_, rfl,
          (turn_none_iff _ (fun _ other => by contradiction)).mpr ⟨told, rfl, ?_⟩⟩
        rw [← own]
        exact fun held => (List.nodup_append.mp fair.distinct).2.2 task held task waits rfl

/-- Whatever the sessions, their clients and the backend do: the tasks that verify a password
or are about to are the holders of the permits and the queue, each once; no more of them
verify at once than there are permits, and none waits while a permit is free, so that none
is lost when a verification fails or its session has ended.  Permits are granted in the order
in which the accounts were found, and a step of the server is held up only when it is the
verdict of a task that has not got its permit. -/
theorem verifications_limited {permits keepAliveTimeout : Nat} {state : LimitedState permits}
    {history : List LimitedSeen}
    (run : (limited permits keepAliveTimeout).Reaches state history) :
    (∀ task, isVerifying state.server task = true ↔
        task ∈ state.limiter.holders ++ state.limiter.queue) ∧
      (state.limiter.holders ++ state.limiter.queue).Nodup ∧
      state.limiter.holders.length ≤ permits ∧
      (state.limiter.queue ≠ [] → state.limiter.holders.length = permits) ∧
      requested (limiterHistory history) =
        granted (limiterHistory history) ++ state.limiter.queue ∧
      ∀ event next made,
        (server (service keepAliveTimeout)).step state.server event = some (next, made) →
        ((limited permits keepAliveTimeout).step state event = none ↔
          ∃ task ∈ state.limiter.queue, ∃ reply,
            event = .session task.1 (.reply task.2 reply)) := by
  have fair := reaches_fair (reaches_limiter run)
  refine ⟨reaches_permitted run, fair.distinct, state.limiter.bounded, state.limiter.busy,
    fair.inOrder, ?_⟩
  intro event next made taken
  exact limited_step_none_iff run taken

/-- A verdict gives the permit of its task back. -/
theorem verdict_releases {task : HashingTask} {reply : Reply}
    (atWork : isVerifying before.server task = true)
    (taken : (limited permits keepAliveTimeout).step before
      (.session task.1 (.reply task.2 reply)) = some (after, seen)) :
    released (limiterHistory seen) = [task] := by
  cases limited_step_cases taken with
  | aside moved unasked =>
      have ended := server_verdict_ends moved atWork
      have turn := turnOf_cases moved
      rw [unasked] at turn
      cases turn with
      | unchanged same =>
          rw [same task, atWork] at ended
          contradiction
  | @turned next made turn limiter turned moved asked limits =>
      have ended := server_verdict_ends moved atWork
      have turn := turnOf_cases moved
      rw [asked] at turn
      rw [limiterHistory, List.filterMap_append,
        filterMap_wrapped LimitedSeen.server _ (fun _ => rfl),
        filterMap_unwrapped LimitedSeen.limiter _ (fun _ => rfl), List.nil_append]
      cases turn with
      | acquires asking was becomes others =>
          by_cases own : task = asking
          · rw [own, was] at atWork
            contradiction
          · rw [others task own, atWork] at ended
            contradiction
      | releases told received same =>
          rw [ServerEvent.session.injEq, Event.reply.injEq] at same
          have own : task = told := Prod.ext same.1 same.2.1
          rw [own]
          cases turn_cases limits with
          | leaves | hands => rfl

/-- No login waits for ever.  A task that holds a permit can be told its verdict at any time,
whatever the verdict is, and gives the permit back.  A task in the queue has its permit once
one more verification has ended than there are tasks before it, however many other logins
come in meanwhile. -/
theorem verification_granted {permits keepAliveTimeout : Nat} {state : LimitedState permits}
    {history : List LimitedSeen}
    (run : (limited permits keepAliveTimeout).Reaches state history) :
    (∀ task ∈ state.limiter.holders, ∀ verdict, ∃ next seen,
      (limited permits keepAliveTimeout).step state
        (.session task.1 (.reply task.2 (.verified verdict))) = some (next, seen) ∧
      released (limiterHistory seen) = [task]) ∧
    ∀ place task events final later, state.limiter.queue[place]? = some task →
      (limited permits keepAliveTimeout).exec state events = some (final, later) →
      place < (released (limiterHistory later)).length →
      task ∈ granted (limiterHistory later) := by
  constructor
  · intro task held verdict
    have fair := reaches_fair (reaches_limiter run)
    have atWork := (reaches_permitted run task).mpr (List.mem_append_left _ held)
    obtain ⟨next, made, taken⟩ := verdict_taken keepAliveTimeout atWork verdict
    have free : (limited permits keepAliveTimeout).step state
        (.session task.1 (.reply task.2 (.verified verdict))) ≠ none := by
      rw [Ne, limited_step_none_iff run taken]
      rintro ⟨other, waits, reply, same⟩
      rw [ServerEvent.session.injEq, Event.reply.injEq] at same
      have own : other = task := Prod.ext same.1.symm same.2.1.symm
      rw [own] at waits
      exact (List.nodup_append.mp fair.distinct).2.2 task held task waits rfl
    obtain ⟨⟨after, seen⟩, stepped⟩ := Option.ne_none_iff_exists'.mp free
    exact ⟨after, seen, stepped, verdict_releases atWork stepped⟩
  · intro place task events final later waits executed enough
    obtain ⟨last, script, same, onwards⟩ :=
      (limited_projects_turns permits keepAliveTimeout).exec executed rfl
    exact waits_turn onwards waits enough

/-- Two clients log in at a server with one permit, and the first is gone when its
password has been verified. -/
def twoLogins : List (ServerEvent Reply) :=
  let asks (userId : String) : Event Reply :=
    .select 0 (some (.message ⟨0, some (.loginRequest ⟨userId, [1]⟩)⟩))
  let row (userId : String) : AccountRow := ⟨7, userId, "", "", 0⟩
  [.generate, .accept 1 ⟨0⟩ 0, .session 1 .greet, .session 1 (.poll false),
    .session 1 (asks "ann"), .generate, .accept 2 ⟨1⟩ 0, .session 2 .greet,
    .session 2 (.poll false), .session 2 (asks "bob"),
    .session 1 (.reply 0 (.account (.ok (some (row "ann"))))),
    .session 2 (.reply 0 (.account (.ok (some (row "bob"))))), .session 1 (.poll false),
    .session 1 (.select 0 (some .closed))]

theorem verifications_limited_twoLogins :
    ∃ state history, (limited 1 10).exec ⟨⟨.default, .empty, 0, [], [], false⟩, .new HashingTask 1⟩
        twoLogins = some (state, history) ∧
      state.limiter.queue = [(2, 0)] ∧ isVerifying state.server (2, 0) = true ∧
      (state.limiter.holders ++ state.limiter.queue).Nodup := by
  have runs : ∃ state history,
      (limited 1 10).exec ⟨⟨.default, .empty, 0, [], [], false⟩, .new HashingTask 1⟩ twoLogins =
        some (state, history) ∧ state.limiter.queue = [(2, 0)] :=
    ⟨_, _, rfl, rfl⟩
  obtain ⟨state, history, executed, queue⟩ := runs
  obtain ⟨verify, distinct, _⟩ := verifications_limited (Machine.reaches_of_exec rfl executed)
  exact ⟨state, history, executed, queue, (verify _).mpr (by simp [queue]), distinct⟩

theorem verification_granted_twoLogins :
    ∃ state history, (limited 1 10).exec ⟨⟨.default, .empty, 0, [], [], false⟩, .new HashingTask 1⟩
        twoLogins = some (state, history) ∧
      ∃ final later, (limited 1 10).exec state
          [.session 1 (.reply 0 (.verified (.error .join)))] = some (final, later) ∧
        (2, 0) ∈ granted (limiterHistory later) := by
  have runs : ∃ state history final later,
      (limited 1 10).exec ⟨⟨.default, .empty, 0, [], [], false⟩, .new HashingTask 1⟩ twoLogins =
        some (state, history) ∧
      state.limiter.queue[0]? = some (2, 0) ∧
      (limited 1 10).exec state [.session 1 (.reply 0 (.verified (.error .join)))] =
        some (final, later) ∧
      (released (limiterHistory later)).length = 1 :=
    ⟨_, _, _, _, rfl, rfl, rfl, rfl⟩
  obtain ⟨state, history, final, later, executed, waits, onwards, one⟩ := runs
  obtain ⟨_, granting⟩ := verification_granted (Machine.reaches_of_exec rfl executed)
  exact ⟨state, history, executed, final, later, onwards,
    granting 0 (2, 0) _ final later waits onwards (by omega)⟩

end RustGameserver.LoginServer
