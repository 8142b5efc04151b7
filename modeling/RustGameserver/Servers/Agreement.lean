import RustGameserver.Servers.Exchange
import RustGameserver.Servers.TokenValue

/-!
Contract: whom GameServer takes a client for, against whom LoginServer has
verified.

Owns:
- the token behind each authentication of a GameServer session, and the issue
  behind each token;
- that different authentications go back to different issues.

Does not own: which clients are issued tokens.
-/

namespace RustGameserver.Servers

open RustGameserver.Foundation
open RustGameserver.Net
open RustGameserver.Session

abbrev GameSessionSeen : Type :=
  Seen GameServer.Session GameServer.Work GameServer.Reply GameServer.InnerMessage

/-- The part of an observation that concerns one GameServer session. -/
def ExchangeSeen.ofGameSession (sessionId : SessionId) (seen : ExchangeSeen) :
    Option GameSessionSeen :=
  seen.ofGame.bind (ServerSeen.ofSession sessionId)

/-- What has been observed of one GameServer session, in order. -/
def gameHistory (sessionId : SessionId) (history : List ExchangeSeen) : List GameSessionSeen :=
  history.filterMap (ExchangeSeen.ofGameSession sessionId)

theorem gameHistory_eq (sessionId : SessionId) (history : List ExchangeSeen) :
    gameHistory sessionId history =
      historyOf sessionId (history.filterMap ExchangeSeen.ofGame) :=
  List.filterMap_filterMap.symm

theorem mem_gameHistory {sessionId : SessionId} {history : List ExchangeSeen}
    {entry : GameSessionSeen} :
    entry ∈ gameHistory sessionId history ↔ .game (.session sessionId entry) ∈ history := by
  rw [gameHistory_eq, mem_historyOf, mem_ofGame]

theorem gameHistory_split {sessionId : SessionId} {history front back : List ExchangeSeen}
    {entry : GameSessionSeen}
    (shape : history = front ++ .game (.session sessionId entry) :: back) :
    gameHistory sessionId history =
      gameHistory sessionId front ++ entry :: gameHistory sessionId back := by
  have own : ExchangeSeen.ofGameSession sessionId (.game (.session sessionId entry)) =
    some entry := if_pos rfl
  rw [shape, gameHistory, List.filterMap_append, List.filterMap_cons_some own]
  rfl

variable {settings : ExchangeSettings} {state : ExchangeState}
  {history front back : List ExchangeSeen}

/-- A GameServer session that has been observed has run as a session does. -/
theorem reaches_gameSession (run : (exchange settings).Reaches state history)
    {sessionId : SessionId} {entry : GameSessionSeen}
    (member : entry ∈ gameHistory sessionId history) :
    ∃ task, (machine (GameServer.service settings.gameKeepAlive)).Reaches task
      (gameHistory sessionId history) := by
  rw [gameHistory_eq] at member ⊢
  obtain ⟨task, present⟩ :=
    (server_projects_session _ sessionId).present (reaches_game run) member
  exact ⟨task, reaches_session (reaches_game run) present⟩

/-! ## Back to the token -/

/-- What a session has received directly before it authenticates, and what Redis
has found for it. -/
structure Redeems (front : List ExchangeSeen) (sessionId : SessionId)
    (account : GameServer.Account) (job : Nat) (token value : String) : Prop where
  consumed : ∃ before,
    gameHistory sessionId front = before ++ [.consumed job (.tokenTaken (some value))]
  looked : .looked (sessionId, job) token (some value) ∈ front
  read : GameServer.parseTokenValue value = some account

/-- A session authenticates because of a token it has redeemed. -/
theorem authenticate_redeems (run : (exchange settings).Reaches state history)
    {sessionId : SessionId} {fields : GameServer.Session} {userId : String}
    (shape : history = front ++ .game (.session sessionId (.authenticate fields userId)) :: back) :
    ∃ account job token value, fields.account = some account ∧ account.userId = userId ∧
      Redeems front sessionId account job token value := by
  have own := gameHistory_split shape
  have member : .authenticate fields userId ∈ gameHistory sessionId history := by simp [own]
  obtain ⟨task, ran⟩ := reaches_gameSession run member
  obtain ⟨cause, payload, input⟩ := reaches_justified ran _ _ _ own
  obtain ⟨before, job, value, account, consumed, _, _, read, becomes, rfl⟩ :=
    GameServer.input_authenticate input
  obtain ⟨work, reply, _, replied, returns⟩ := GameServer.finished_call ran before _
    (own.trans (by rw [consumed, List.append_assoc]; rfl))
  obtain ⟨token, _, rfl⟩ := GameServer.resume_tokenTaken returns
  have told : .game (.session sessionId (.replied job (.token (.ok (some value))))) ∈ front := by
    apply mem_gameHistory.mp
    rw [consumed]
    exact List.mem_append_left _ replied
  obtain ⟨earlier, later, rfl⟩ := List.append_of_mem told
  obtain ⟨asked, looked⟩ := reaches_grounded run earlier _ _ (by rw [shape, List.append_assoc]; rfl)
  exact ⟨account, job, asked, value, becomes, rfl, ⟨before, consumed⟩,
    List.mem_append_left _ looked, read⟩

/-! ## Back to the issue -/

/-- What Redis finds under a token has been issued before. -/
theorem looked_issued (run : (exchange settings).Reaches state history) {task : TaskId}
    {token value : String}
    (shape : history = front ++ .looked task token (some value) :: back) :
    ∃ login row, .issued login row token ∈ front ∧
      LoginServer.tokenValue row.accountId row.userId = value := by
  have read : ExchangeSeen.ofRedis settings (.looked task token (some value)) =
    some (.took (settings.authTokenPrefix ++ token) (some value)) := rfl
  have put := OneTimeStore.reaches_putBefore (reaches_redis run)
    (front.filterMap (ExchangeSeen.ofRedis settings)) _
    (back.filterMap (ExchangeSeen.ofRedis settings))
    (by rw [shape, List.filterMap_append, List.filterMap_cons_some read])
  obtain ⟨entry, member, same⟩ := List.mem_filterMap.mp put
  cases entry with
  | issued login row other =>
      simp only [ExchangeSeen.ofRedis, Option.some.injEq, StoreSeen.put.injEq,
        String.append_right_inj] at same
      rw [← same.1]
      exact ⟨login, row, member, same.2⟩
  | looked => simp [ExchangeSeen.ofRedis] at same
  | login => contradiction
  | game => contradiction

/-- The token under which an observation reports a find. -/
def ExchangeSeen.foundToken : ExchangeSeen → Option String
  | .looked _ token (some _) => some token
  | .looked _ _ none | .login _ | .game _ | .issued .. => none

/-- No token is found twice. -/
theorem foundTokens_nodup (run : (exchange settings).Reaches state history) :
    (history.filterMap ExchangeSeen.foundToken).Nodup := by
  have keys : takenKeys (history.filterMap (ExchangeSeen.ofRedis settings)) =
      (history.filterMap ExchangeSeen.foundToken).map (settings.authTokenPrefix ++ ·) := by
    rw [takenKeys, List.filterMap_filterMap, List.map_filterMap]
    congr 1
    funext entry
    cases entry with
    | looked task token result => cases result <;> rfl
    | _ => rfl
  have once := (OneTimeStore.reaches_kept (reaches_redis run)).takenOnce
  rw [keys] at once
  exact List.Nodup.of_map _ once

/-- The task whose result an observation consumes. -/
def consumedJob (seen : GameSessionSeen) : Option Nat :=
  seen.consumedMessage.map Prod.fst

/-- No result is consumed twice. -/
theorem consumedJobs_nodup {sessionId : SessionId} {entry : GameSessionSeen}
    (run : (exchange settings).Reaches state history)
    (member : entry ∈ gameHistory sessionId history) :
    ((gameHistory sessionId history).filterMap consumedJob).Nodup := by
  obtain ⟨task, ran⟩ := reaches_gameSession run member
  have once := (reaches_tracked ran).once
  rw [List.map_append] at once
  have consumed : (gameHistory sessionId history).filterMap consumedJob =
      (Session.consumed (gameHistory sessionId history)).map Prod.fst := by
    rw [Session.consumed, List.map_filterMap]
    rfl
  rw [consumed]
  exact once.sublist (List.sublist_append_left _ _)

/-- Different authentications redeem different tokens. -/
theorem redeems_unique (run : (exchange settings).Reaches state history)
    {front' back' : List ExchangeSeen} {sessionId sessionId' : SessionId}
    {fields fields' : GameServer.Session} {userId userId' : String}
    (here : history = front ++ .game (.session sessionId (.authenticate fields userId)) :: back)
    (there : history =
      front' ++ .game (.session sessionId' (.authenticate fields' userId')) :: back')
    {account account' : GameServer.Account} {job job' : Nat} {token value value' : String}
    (redeems : Redeems front sessionId account job token value)
    (redeems' : Redeems front' sessionId' account' job' token value') : front = front' := by
  -- the token was found once, hence for one task
  obtain ⟨early, late, found⟩ := List.append_of_mem redeems.looked
  obtain ⟨early', late', found'⟩ := List.append_of_mem redeems'.looked
  have shape : history = early ++ .looked (sessionId, job) token (some value) ::
      (late ++ .game (.session sessionId (.authenticate fields userId)) :: back) := by
    rw [here, found, List.append_assoc]
    rfl
  have shape' : history = early' ++ .looked (sessionId', job') token (some value') ::
      (late' ++ .game (.session sessionId' (.authenticate fields' userId')) :: back') := by
    rw [there, found', List.append_assoc]
    rfl
  have one := place_of_nodup (foundTokens_nodup run) shape shape' rfl rfl
  rw [one] at shape
  rw [shape] at shape'
  have same := List.append_cancel_left shape'
  simp only [List.cons.injEq, ExchangeSeen.looked.injEq, Prod.mk.injEq] at same
  obtain ⟨⟨⟨rfl, rfl⟩, _⟩, _⟩ := same
  -- the result of that task was consumed once
  obtain ⟨before, consumed⟩ := redeems.consumed
  obtain ⟨before', consumed'⟩ := redeems'.consumed
  have own := gameHistory_split here
  have own' := gameHistory_split there
  have member : .authenticate fields userId ∈ gameHistory sessionId history := by simp [own]
  rw [consumed, List.append_assoc] at own
  rw [consumed', List.append_assoc] at own'
  have place := place_of_nodup (consumedJobs_nodup run member) own own' rfl rfl
  have reads (fields : GameServer.Session) (userId : String) :
      ExchangeSeen.ofGameSession sessionId
        (.game (.session sessionId (.authenticate fields userId))) =
          some (.authenticate fields userId) := if_pos rfl
  apply place_unique here there (reads fields userId) (reads fields' userId')
  show (gameHistory sessionId front).length = (gameHistory sessionId front').length
  rw [consumed, consumed', place]
  simp

/-! ## Agreement -/

/-- A GameServer session authenticates at this place of the history. -/
def Authenticates (history : List ExchangeSeen) (place : Nat) : Prop :=
  ∃ sessionId fields userId,
    history[place]? = some (.game (.session sessionId (.authenticate fields userId)))

/-- The authentication at one place redeems the token issued at another. -/
structure Issued (history : List ExchangeSeen) (place issue : Nat) (account : GameServer.Account)
    (task : TaskId) (row : LoginServer.AccountRow) (token : String) : Prop where
  earlier : issue < place
  issued : history[issue]? = some (.issued task row token)
  redeemed : ∃ sessionId fields userId job value,
    history[place]? = some (.game (.session sessionId (.authenticate fields userId))) ∧
      fields.account = some account ∧ account.userId = userId ∧
      Redeems (history.take place) sessionId account job token value
  account : account = ⟨row.accountId, row.userId⟩

theorem authenticates_issued (run : (exchange settings).Reaches state history) {place : Nat}
    {sessionId : SessionId} {fields : GameServer.Session} {userId : String}
    (found : history[place]? = some (.game (.session sessionId (.authenticate fields userId)))) :
    ∃ account issue task row token, Issued history place issue account task row token := by
  have shape := split_at found
  obtain ⟨account, job, token, value, becomes, user, redeems⟩ := authenticate_redeems run shape
  obtain ⟨early, late, split⟩ := List.append_of_mem redeems.looked
  have looked := shape
  rw [split, List.append_assoc, List.cons_append] at looked
  obtain ⟨task, row, issued, written⟩ := looked_issued run looked
  obtain ⟨issue, bound, same⟩ := List.mem_iff_getElem.mp issued
  refine ⟨account, issue, task, row, token, ?_, ?_,
    ⟨sessionId, fields, userId, job, value, found, becomes, user, redeems⟩, ?_⟩
  · have length := congrArg List.length split
    rw [List.length_take, List.length_append, List.length_cons] at length
    omega
  · rw [looked, List.getElem?_append_left bound, List.getElem?_eq_getElem bound, same]
  · have read := redeems.read
    rw [← written, parseTokenValue_tokenValue, Option.some.injEq] at read
    exact read.symm

/-- What LoginServer has done before it issued the token. -/
theorem Issued.verified (run : (exchange settings).Reaches state history) {place issue : Nat}
    {account : GameServer.Account} {task : TaskId} {row : LoginServer.AccountRow} {token : String}
    (issued : Issued history place issue account task row token) :
    .login (.session task.1 (.replied task.2 (.account (.ok (some row))))) ∈ history.take issue ∧
      .login (.session task.1 (.replied task.2 (.verified (.ok true)))) ∈ history.take issue ∧
      row.status ≠ 1 :=
  reaches_grounded run _ _ _ (split_at issued.issued)

/-- Different authentications go back to different issues. -/
theorem Issued.unique (run : (exchange settings).Reaches state history) {place other issue : Nat}
    {account account' : GameServer.Account} {task task' : TaskId}
    {row row' : LoginServer.AccountRow} {token token' : String}
    (issued : Issued history place issue account task row token)
    (issued' : Issued history other issue account' task' row' token') : place = other := by
  have same := issued.issued.symm.trans issued'.issued
  rw [Option.some.injEq, ExchangeSeen.issued.injEq] at same
  obtain ⟨rfl, rfl, rfl⟩ := same
  obtain ⟨sessionId, fields, userId, job, value, found, _, _, redeems⟩ := issued.redeemed
  obtain ⟨sessionId', fields', userId', job', value', found', _, _, redeems'⟩ := issued'.redeemed
  have fronts := redeems_unique run (split_at found) (split_at found') redeems redeems'
  have lengths := congrArg List.length fronts
  have bound := (List.getElem?_eq_some_iff.mp found).1
  have bound' := (List.getElem?_eq_some_iff.mp found').1
  rw [List.length_take, List.length_take] at lengths
  omega

/-- GameServer takes a client for an account only on the strength of a token of its
own that LoginServer has issued for that account, after it found it, verified the
password and saw no ban. -/
theorem authentications_agree (run : (exchange settings).Reaches state history) :
    ∃ issueOf : Nat → Nat,
      (∀ place sessionId fields userId,
        history[place]? = some (.game (.session sessionId (.authenticate fields userId))) →
          ∃ account task row token, fields.account = some account ∧ account.userId = userId ∧
            issueOf place < place ∧
            history[issueOf place]? = some (.issued task row token) ∧
            row.accountId = account.accountId ∧ row.userId = account.userId ∧ row.status ≠ 1 ∧
            .login (.session task.1 (.replied task.2 (.account (.ok (some row))))) ∈
              history.take (issueOf place) ∧
            .login (.session task.1 (.replied task.2 (.verified (.ok true)))) ∈
              history.take (issueOf place)) ∧
      ∀ place other, Authenticates history place → Authenticates history other →
        issueOf place = issueOf other → place = other := by
  have each : ∀ place, ∃ issue, Authenticates history place →
      ∃ account task row token, Issued history place issue account task row token := by
    intro place
    by_cases authenticates : Authenticates history place
    · obtain ⟨sessionId, fields, userId, found⟩ := authenticates
      obtain ⟨account, issue, task, row, token, issued⟩ := authenticates_issued run found
      exact ⟨issue, fun _ => ⟨account, task, row, token, issued⟩⟩
    · exact ⟨0, fun found => absurd found authenticates⟩
  choose issueOf spec using each
  refine ⟨issueOf, ?_, ?_⟩
  · intro place sessionId fields userId found
    obtain ⟨account, task, row, token, issued⟩ := spec place ⟨sessionId, fields, userId, found⟩
    obtain ⟨_, _, _, _, _, same, becomes, user, _⟩ := issued.redeemed
    rw [found, Option.some.injEq, ExchangeSeen.game.injEq, ServerSeen.session.injEq,
      Seen.authenticate.injEq] at same
    rw [← same.2.1] at becomes
    rw [← same.2.2] at user
    obtain ⟨account_found, verified, unbanned⟩ := issued.verified run
    exact ⟨account, task, row, token, becomes, user, issued.earlier, issued.issued,
      by rw [issued.account], by rw [issued.account], unbanned, account_found, verified⟩
  · intro place other here there same
    obtain ⟨_, _, _, _, issued⟩ := spec place here
    obtain ⟨_, _, _, _, issued'⟩ := spec other there
    rw [← same] at issued'
    exact issued.unique run issued'

/-- A client logs in, under another spelling of its user id, and takes its token to
GameServer. -/
def handover : List ExchangeEvent :=
  [.login .generate, .login (.accept 1 ⟨0⟩ 0), .login (.session 1 .greet),
    .login (.session 1 (.poll false)),
    .login (.session 1 (.select 1 (some (.message ⟨0, some (.loginRequest ⟨"User", [1]⟩)⟩)))),
    .login (.session 1 (.reply 0 (.account (.ok (some ⟨7, "user", "hash", "salt", 0⟩))))),
    .login (.session 1 (.reply 0 (.verified (.ok true)))),
    .login (.session 1 (.reply 0 (.touched (.ok ())))),
    .setEx (1, 0) "t", .login (.session 1 (.reply 0 (.issued (.ok (some "t"))))),
    .game .generate, .game (.accept 1 ⟨0⟩ 0), .game (.session 1 .greet),
    .game (.session 1 (.poll false)),
    .game (.session 1 (.select 1 (some (.message ⟨0, some (.gameConnectRequest ⟨"t"⟩)⟩)))),
    .getDel (1, 0), .game (.session 1 (.reply 0 (.token (.ok (some "7:user"))))),
    .game (.session 1 (.deliver 0)), .game (.session 1 (.poll false)),
    .game (.session 1 (.select 2 none))]

theorem authentications_agree_handover :
    ∃ state history fields,
      (exchange ⟨"auth:", 10, 10⟩).exec
        ⟨⟨.default, .empty, 0, [], [], false⟩, ⟨.default, .empty, 0, [], [], false⟩,
          ⟨.empty, []⟩, .empty, .empty⟩ handover = some (state, history) ∧
      history[16]? = some (.game (.session 1 (.authenticate fields "user"))) ∧
      ∃ issue task row token, issue < 16 ∧ history[issue]? = some (.issued task row token) ∧
        row.userId = "user" ∧ row.status ≠ 1 := by
  have runs : ∃ state history fields,
      (exchange ⟨"auth:", 10, 10⟩).exec
        ⟨⟨.default, .empty, 0, [], [], false⟩, ⟨.default, .empty, 0, [], [], false⟩,
          ⟨.empty, []⟩, .empty, .empty⟩ handover = some (state, history) ∧
      history[16]? = some (.game (.session 1 (.authenticate fields "user"))) :=
    ⟨_, _, _, rfl, rfl⟩
  obtain ⟨state, history, fields, executed, found⟩ := runs
  have start : (exchange ⟨"auth:", 10, 10⟩).Initial
      ⟨⟨.default, .empty, 0, [], [], false⟩, ⟨.default, .empty, 0, [], [], false⟩,
        ⟨.empty, []⟩, .empty, .empty⟩ := rfl
  obtain ⟨issueOf, agree, _⟩ := authentications_agree (Machine.reaches_of_exec start executed)
  obtain ⟨account, task, row, token, _, user, earlier, issued, _, same, unbanned, _⟩ :=
    agree 16 1 fields "user" found
  exact ⟨state, history, fields, executed, found, issueOf 16, task, row, token, earlier, issued,
    same.trans user, unbanned⟩

end RustGameserver.Servers
