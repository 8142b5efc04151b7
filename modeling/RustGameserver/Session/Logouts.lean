import RustGameserver.Session.Cancellation

/-!
Contract: the return of `run`, which a session with an account makes from `record_logout`.

Owns:
- when `run` has returned;
- that `record_logout` is called once, for the account with which the session has ended;
- what has been observed of the call, and that it is given up only after the shutdown;
- that it returns with the next answer of the database.

Does not own: when a session ends, and how long `record_logout` waits between two attempts.
-/

namespace RustGameserver.Session

open RustGameserver.Foundation
open RustGameserver.Net
open RustGameserver.Proto

variable {Fields Work Reply Inner : Type}

/-- `run` has returned. -/
def Task.hasReturned (task : Task Fields Work Reply Inner) : Prop :=
  task.stage = .ended ∧ task.recording = none

instance (task : Task Fields Work Reply Inner) : Decidable task.hasReturned :=
  inferInstanceAs (Decidable (_ ∧ _))

/-- The account for which `record_logout` has been called. -/
def Task.loggedOut (service : Service Fields Work Reply Inner)
    (task : Task Fields Work Reply Inner) : Option UInt64 :=
  if task.stage = .ended then service.logoutAccount task.fields else none

def Seen.logout : Seen Fields Work Reply Inner → Option UInt64
  | .recordLogout accountId => some accountId
  | _ => none

def Seen.ofRecord : Seen Fields Work Reply Inner → Option RecordSeen
  | .record seen => some seen
  | _ => none

/-- The account ids for which `record_logout` was called, in order. -/
def logoutCalls (history : List (Seen Fields Work Reply Inner)) : List UInt64 :=
  history.filterMap Seen.logout

/-- What has been observed inside `record_logout`. -/
def records (history : List (Seen Fields Work Reply Inner)) : List RecordSeen :=
  history.filterMap Seen.ofRecord

theorem logoutCalls_append (history more : List (Seen Fields Work Reply Inner)) :
    logoutCalls (history ++ more) = logoutCalls history ++ logoutCalls more :=
  List.filterMap_append

theorem records_append (history more : List (Seen Fields Work Reply Inner)) :
    records (history ++ more) = records history ++ records more :=
  List.filterMap_append

theorem logoutCalls_record (seen : List RecordSeen) :
    logoutCalls (seen.map (Seen.record : _ → Seen Fields Work Reply Inner)) = [] :=
  filterMap_wrapped _ _ (fun _ => rfl) seen

theorem records_record (seen : List RecordSeen) :
    records (seen.map (Seen.record : _ → Seen Fields Work Reply Inner)) = seen :=
  filterMap_unwrapped Seen.record _ (fun _ => rfl) seen

/-- The step is one of `run` that waits for no answer of the database. -/
def Event.unaided : Event Reply → Bool
  | .record event => event.answer.isNone
  | .greet | .poll _ | .select .. | .remove | .dropOutbox | .writerJoined | .drainTimeout
  | .finish => true
  | .reply .. | .deliver _ | .write _ => false

/-- The call of `touch_last_login` returns. -/
def Event.answers : Event Reply → Bool
  | .record event => event.answer.isSome
  | _ => false

/-! ## One session -/

/-- The one call of `record_logout`, and what has come of it. -/
structure LogsOut (service : Service Fields Work Reply Inner)
    (task : Task Fields Work Reply Inner)
    (history : List (Seen Fields Work Reply Inner)) : Prop where
  calls : logoutCalls history = (task.loggedOut service).toList
  uncalled : task.loggedOut service = none → task.recording = none ∧ records history = []
  attempts : task.loggedOut service ≠ none → Attempts task.recording (records history)

section Steps

variable {service : Service Fields Work Reply Inner}
  {task before after : Task Fields Work Reply Inner}
  {history seen : List (Seen Fields Work Reply Inner)}

theorem loggedOut_going (goesOn : task.stage ≠ .ended) : task.loggedOut service = none :=
  if_neg goesOn

theorem ne_ended_of_inLoop (inLoop : task.stage.inLoop = true) : task.stage ≠ .ended := by
  intro ended
  rw [ended] at inLoop
  contradiction

/-- A step that neither calls `record_logout` nor moves inside it. -/
theorem LogsOut.still (logs : LogsOut service before history)
    (same : after.loggedOut service = before.loggedOut service)
    (recording : after.recording = before.recording)
    (silent : logoutCalls seen = [] ∧ records seen = []) :
    LogsOut service after (history ++ seen) := by
  have calls : logoutCalls (history ++ seen) = logoutCalls history := by
    rw [logoutCalls_append, silent.1, List.append_nil]
  have inside : records (history ++ seen) = records history := by
    rw [records_append, silent.2, List.append_nil]
  constructor
  · rw [calls, same]
    exact logs.calls
  · rw [inside, same, recording]
    exact logs.uncalled
  · rw [inside, same, recording]
    exact logs.attempts

/-- A step before the end. -/
theorem LogsOut.going (logs : LogsOut service before history) (was : before.stage ≠ .ended)
    (goesOn : after.stage ≠ .ended) (recording : after.recording = before.recording)
    (silent : logoutCalls seen = [] ∧ records seen = []) :
    LogsOut service after (history ++ seen) :=
  logs.still ((loggedOut_going goesOn).trans (loggedOut_going was).symm) recording silent

/-- A handler neither ends the session nor records anything. -/
theorem performed_going {cause : Cause} {reaction : Reaction Fields Work}
    (performed : Task.Performed task cause reaction after seen) :
    after.stage ≠ .ended ∧ after.recording = task.recording ∧
      logoutCalls seen = [] ∧ records seen = [] := by
  cases performed <;> exact ⟨nofun, rfl, rfl, rfl⟩

theorem takes_going {cause : Cause} {reaction : Reaction Fields Work}
    (takes : Task.Takes service task after seen cause reaction) :
    after.recording = task.recording ∧ logoutCalls seen = [] ∧ records seen = [] := by
  cases takes <;> exact ⟨rfl, rfl, rfl⟩

theorem LogsOut.stepped (logs : LogsOut service before history)
    (stepped : Task.Stepped service before after seen) :
    LogsOut service after (history ++ seen) := by
  cases stepped with
  | ran takes performed =>
      have was := ne_ended_of_inLoop takes.inLoop
      obtain ⟨goesOn, recording, silent⟩ := performed_going performed
      obtain ⟨prepared, quiet⟩ := takes_going takes
      rw [← List.append_assoc]
      refine (logs.going was ?_ prepared quiet).going ?_ goesOn recording silent
      · rw [takes.frame_eq.1]
        exact was
      · rw [takes.frame_eq.1]
        exact was
  | polled stage => exact logs.going (by simp [stage]) nofun rfl ⟨rfl, rfl⟩
  | parked now stage => exact logs.going (by simp [stage]) nofun rfl ⟨rfl, rfl⟩
  | left now departure stage =>
      have was : before.stage ≠ .ended := by
        rcases stage with stage | stage <;> rw [stage] <;> nofun
      exact logs.going was nofun rfl ⟨rfl, rfl⟩
  | awaits => exact logs.still rfl rfl ⟨rfl, rfl⟩
  | returned => exact logs.still rfl rfl ⟨rfl, rfl⟩
  | delivered => exact logs.still rfl rfl ⟨rfl, rfl⟩
  | dropped => exact logs.still rfl rfl ⟨rfl, rfl⟩
  | wrote =>
      exact logs.still rfl rfl ⟨filterMap_wrapped _ _ (fun _ => rfl) _,
        filterMap_wrapped _ _ (fun _ => rfl) _⟩
  | removed stage => exact logs.going (by simp [stage]) nofun rfl ⟨rfl, rfl⟩
  | outboxDropped stage => exact logs.going (by simp [stage]) nofun rfl ⟨rfl, rfl⟩
  | joined stage => exact logs.going (by simp [stage]) nofun rfl ⟨rfl, rfl⟩
  | drainTimedOut stage => exact logs.going (by simp [stage]) nofun rfl ⟨rfl, rfl⟩
  | ended stage =>
      have was : before.loggedOut service = none := loggedOut_going (by simp [stage])
      have calls := logs.calls
      have inside := (logs.uncalled was).2
      rw [was] at calls
      constructor
      · rw [logoutCalls_append, calls, Task.loggedOut, if_pos rfl]
        cases service.logoutAccount before.fields <;> rfl
      · intro nobody
        rw [Task.loggedOut, if_pos rfl] at nobody
        rw [nobody, records_append]
        exact ⟨rfl, (List.append_nil _).trans inside⟩
      · intro somebody
        rw [Task.loggedOut, if_pos rfl] at somebody
        obtain ⟨accountId, account⟩ := Option.ne_none_iff_exists'.mp somebody
        rw [account, records_append]
        exact ⟨0, (List.append_nil _).trans inside⟩
  | @recorded event recording made stage moved =>
      have somebody : before.loggedOut service ≠ none := by
        intro nobody
        have running := moved.running
        rw [(logs.uncalled nobody).1] at running
        contradiction
      constructor
      · rw [logoutCalls_append, logoutCalls_record, List.append_nil]
        exact logs.calls
      · exact fun nobody => absurd nobody somebody
      · intro _
        rw [records_append, records_record]
        exact (logs.attempts somebody).step moved

theorem reaches_logsOut (run : (machine service).Reaches task history) :
    LogsOut service task history := by
  apply run.invariant
  · rintro state ⟨sessionId, kick, now, rfl⟩
    exact ⟨rfl, fun _ => ⟨rfl, rfl⟩, fun somebody => absurd rfl somebody⟩
  · intro before history event after seen _ logs taken
    exact logs.stepped (Task.step_cases taken)

/-- What has come of the logout of a session whose `run` has returned. -/
structure Logged (account : Option UInt64) (history : List (Seen Fields Work Reply Inner)) :
    Prop where
  calls : logoutCalls history = account.toList
  nothing : account = none → records history = []
  outcome : account ≠ none → ∃ failed,
    records history = failures failed ++ [.answered true] ∨
      records history = failures (failed + 1) ++ [.abandoned]

theorem LogsOut.logged (logs : LogsOut service task history) (returned : task.hasReturned) :
    Logged (service.logoutAccount task.fields) history := by
  have account : task.loggedOut service = service.logoutAccount task.fields := if_pos returned.1
  constructor
  · rw [← account]
    exact logs.calls
  · intro nobody
    rw [← account] at nobody
    exact (logs.uncalled nobody).2
  · intro somebody
    rw [← account] at somebody
    have attempts := logs.attempts somebody
    rw [returned.2] at attempts
    exact attempts

/-- A session that has ended stays so, and one that has returned does nothing more. -/
theorem step_ended {event : Event Reply} (stage : task.stage = .ended)
    (taken : task.step service event = some (after, seen)) :
    after.stage = .ended ∧ (task.recording = none → after.recording = none) := by
  cases Task.step_cases taken with
  | ran takes performed => exact absurd stage (ne_ended_of_inLoop takes.inLoop)
  | polled other | parked now other | removed other | outboxDropped other | joined other
  | drainTimedOut other | ended other =>
      rw [stage] at other
      contradiction
  | left now departure other =>
      rw [stage] at other
      rcases other with other | other <;> contradiction
  | awaits | returned | delivered | dropped | wrote => exact ⟨stage, id⟩
  | recorded _ moved =>
      refine ⟨stage, fun nowhere => ?_⟩
      have running := moved.running
      rw [nowhere] at running
      contradiction

end Steps

/-! ## The sessions of a server -/

section Servers

variable {service : Service Fields Work Reply Inner}
  {state after final : ServerState Fields Work Reply Inner} {sessionId : SessionId}
  {task : Task Fields Work Reply Inner} {seen : List (ServerSeen Fields Work Reply Inner)}

theorem shutdown_step {event : ServerEvent Reply}
    (taken : (server service).step state event = some (after, seen))
    (down : state.shutdown = true) : after.shutdown = true := by
  cases server_step_cases taken with
  | drawn | accepted | disconnected => exact down
  | moved sessionId event task => exact (observeAll_unmoved _ sessionId task.kick _).1.trans down
  | shutDown => rfl

/-- What is observed inside `record_logout` comes from a step of it. -/
theorem step_records {event : Event Reply} {next : Task Fields Work Reply Inner}
    {made : List (Seen Fields Work Reply Inner)} {entry : RecordSeen}
    (taken : task.step service event = some (next, made)) (member : .record entry ∈ made) :
    ∃ own told, event = .record own ∧
      Recording.Stepped task.recording own next.recording told ∧ entry ∈ told := by
  have source := Task.step_madeBy taken _ member
  cases event with
  | record own =>
      simp only [Task.step, Option.ite_none_right_eq_some, Option.map_eq_some_iff,
        Prod.mk.injEq] at taken
      obtain ⟨_, ⟨recording, told⟩, moved, rfl, rfl⟩ := taken
      obtain ⟨_, found, same⟩ := List.mem_map.mp member
      cases same
      exact ⟨own, told, rfl, Recording.step_cases moved, found⟩
  | _ => contradiction

/-- The call of `record_logout` is not given up before the shutdown. -/
def Persists (sessionId : SessionId) (state : ServerState Fields Work Reply Inner)
    (history : List (ServerSeen Fields Work Reply Inner)) : Prop :=
  .record .abandoned ∈ historyOf sessionId history → state.shutdown = true

theorem reaches_persists {history : List (ServerSeen Fields Work Reply Inner)}
    (run : (server service).Reaches state history) (sessionId : SessionId) :
    Persists sessionId state history := by
  apply run.invariant
  · rintro state _ member
    contradiction
  · intro before history event after seen _ earlier taken member
    rw [historyOf, List.filterMap_append, List.mem_append] at member
    rcases member with member | member
    · exact shutdown_step taken (earlier member)
    · apply shutdown_step taken
      cases server_step_cases taken with
      | drawn | accepted | disconnected | shutDown => contradiction
      | moved other event task present admitted stepped =>
          rw [ServerState.observeAll_ofSession] at member
          split at member
          · obtain ⟨own, told, rfl, moved, found⟩ := step_records stepped member
            exact abandoned_shutdown moved admitted found
          · contradiction

end Servers

end RustGameserver.Session
