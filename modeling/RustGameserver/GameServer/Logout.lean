import RustGameserver.GameServer.Accounts
import RustGameserver.Session.Logouts

/-!
Contract: the logout that a GameServer session records when it ends.

Owns:
- that nothing is recorded before the end, and at the end one logout, of the account
  the session authenticated as last;
- what this means for each success the client was told of;
- a client that is told of two successes and logged out of one.

Does not own: the attempts `record_logout` makes until the database takes the record.
-/

namespace RustGameserver.GameServer

open RustGameserver.Foundation
open RustGameserver.Net
open RustGameserver.Proto
open RustGameserver.Session

variable {keepAliveTimeout : Nat} {task : Task Session Work Reply InnerMessage}
  {history : List (Seen Session Work Reply InnerMessage)}

def recordedLogout : Seen Session Work Reply InnerMessage → Option UInt64
  | .recordLogout accountId => some accountId
  | _ => none

/-- The account ids for which `record_logout` was called, in order. -/
def logouts (history : List (Seen Session Work Reply InnerMessage)) : List UInt64 :=
  history.filterMap recordedLogout

theorem logouts_eq_calls (history : List (Seen Session Work Reply InnerMessage)) :
    logouts history = logoutCalls history := by
  have same : recordedLogout = Seen.logout := by
    funext entry
    cases entry <;> rfl
  rw [logouts, same]
  rfl

/-- At the end the logout of the account the session authenticated as last is recorded. -/
theorem logouts_eq (run : (machine (service keepAliveTimeout)).Reaches task history) :
    logouts history =
      if task.stage = .ended then ((accounts history).getLast?.map Account.accountId).toList
      else [] := by
  rw [← reaches_account run, logouts_eq_calls, (reaches_logsOut run).calls, Task.loggedOut]
  split <;> rfl

/-- A success response directly follows the authentication it tells of. -/
theorem success_authenticated (run : (machine (service keepAliveTimeout)).Reaches task history)
    {earlier later : List (Seen Session Work Reply InnerMessage)} {cause : Cause}
    {body : GameConnectResponse}
    (shape : history = earlier ++ .accepted cause (.gameConnectResponse body) :: later)
    (success : body.success = true) :
    ∃ front fields account, earlier = front ++ [.authenticate fields account.userId] ∧
      fields.account = some account := by
  have occasion := occasion_of_sends (reaches_justified run earlier _ later shape)
  cases occasion with
  | prompt front handles => cases handles; contradiction
  | result front answers => cases answers; contradiction
  | authenticated front fields job value account parsed becomes =>
      exact ⟨front ++ [.consumed job (.tokenTaken (some value))], fields, account, by simp,
        becomes⟩

/-- The accounts of a history with an authentication in it. -/
theorem accounts_split (front later : List (Seen Session Work Reply InnerMessage))
    (fields : Session) (userId : String) (cause : Cause) (payload : Payload) (account : Account)
    (becomes : fields.account = some account) :
    accounts (front ++ [.authenticate fields userId] ++ .accepted cause payload :: later) =
      accounts front ++ [account] ++ accounts later := by
  have single : accounts [.authenticate fields userId] = [account] := by
    simp [accounts, authenticatedAccount, becomes]
  rw [accounts_append, accounts_append, single]
  rfl

/-- The logout of every account whose success a session has told its client of is
recorded once at the end, unless the session has become another account since. -/
theorem logout_accounted {keepAliveTimeout : Nat} {task : Task Session Work Reply InnerMessage}
    {history : List (Seen Session Work Reply InnerMessage)}
    (run : (machine (service keepAliveTimeout)).Reaches task history) :
    (task.stage ≠ .ended → logouts history = []) ∧
      (accounts history = [] → logouts history = []) ∧
      (task.stage = .ended →
        logouts history = ((accounts history).getLast?.map Account.accountId).toList) ∧
      ∀ earlier cause body later,
        history = earlier ++ .accepted cause (.gameConnectResponse body) :: later →
          body.success = true →
            ∃ front fields account, earlier = front ++ [.authenticate fields account.userId] ∧
              fields.account = some account ∧
              (task.stage = .ended →
                (logouts history).count account.accountId =
                  if ((accounts later).getLast?.all
                    fun last => last.accountId = account.accountId) then 1 else 0) := by
  have recorded := logouts_eq run
  refine ⟨fun goesOn => ?_, fun never => ?_, fun ended => ?_, ?_⟩
  · rw [recorded, if_neg goesOn]
  · rw [recorded, never]
    split <;> rfl
  · rw [recorded, if_pos ended]
  · intro earlier cause body later shape success
    obtain ⟨front, fields, account, rfl, becomes⟩ := success_authenticated run shape success
    refine ⟨front, fields, account, rfl, becomes, fun ended => ?_⟩
    have all := accounts_split front later fields account.userId cause
      (.gameConnectResponse body) account becomes
    rw [if_pos ended, shape, all, List.getLast?_append, List.getLast?_append] at recorded
    rw [shape, recorded]
    cases last : (accounts later).getLast? with
    | none => simp
    | some other =>
        by_cases same : other.accountId = account.accountId
        · simp [same]
        · simp [same]

/-- A client asks for two accounts before the first answer, and then disconnects. -/
def pipelined : List (Event Reply) :=
  [.greet, .poll false, .select 1 (some (.message ⟨0, some (.gameConnectRequest ⟨"a"⟩)⟩)),
    .poll false, .select 2 (some (.message ⟨0, some (.gameConnectRequest ⟨"b"⟩)⟩)),
    .reply 0 (.token (.ok (some "7:alice"))), .deliver 0,
    .reply 1 (.token (.ok (some "8:bob"))), .deliver 1,
    .poll false, .select 3 none, .poll false, .select 4 none,
    .poll false, .select 5 (some .closed), .remove, .dropOutbox, .drainTimeout, .finish]

theorem logout_accounted_pipelined :
    ∃ task history,
      (machine (service 10)).exec (.create (service 10) 1 ⟨0⟩ 0) pipelined =
        some (task, history) ∧
      task.stage = .ended ∧
      logouts history = ((accounts history).getLast?.map Account.accountId).toList := by
  have runs : ∃ task history,
      (machine (service 10)).exec (.create (service 10) 1 ⟨0⟩ 0) pipelined =
        some (task, history) ∧ task.stage = .ended :=
    ⟨_, _, rfl, rfl⟩
  obtain ⟨task, history, executed, ended⟩ := runs
  have start : (machine (service 10)).Initial (.create (service 10) 1 ⟨0⟩ 0) := ⟨1, ⟨0⟩, 0, rfl⟩
  have run := Machine.reaches_of_exec start executed
  exact ⟨task, history, executed, ended, (logout_accounted run).2.2.1 ended⟩

/-- Both successes were told of, and only the second logout is recorded. -/
theorem logout_pipelined_false :
    ∃ task history,
      (machine (service 10)).exec (.create (service 10) 1 ⟨0⟩ 0) pipelined =
        some (task, history) ∧
      task.stage = .ended ∧
      accepted history = [.connectedResponse ⟨0⟩, .gameConnectResponse ⟨true, 0⟩,
        .gameConnectResponse ⟨true, 0⟩] ∧
      accounts history = [⟨7, "alice"⟩, ⟨8, "bob"⟩] ∧
      logouts history = [8] :=
  ⟨_, _, rfl, rfl, rfl, rfl, rfl⟩

end RustGameserver.GameServer
