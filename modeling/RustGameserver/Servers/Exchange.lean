import RustGameserver.Foundation.OneTimeStore
import RustGameserver.GameServer.Conservation
import RustGameserver.LoginServer.Authenticate
import RustGameserver.Session.Server

/-!
Contract: LoginServer, Redis and GameServer together, as they hand tokens over.

Owns:
- the system of both servers and the tokens in Redis, each command of Redis one
  step of its own;
- the projections of a run to both servers and to the store;
- that what a server is told about a command is what the command did.

Does not own: MySQL, which answers as it likes, and anybody else who writes under
the key prefix.
-/

namespace RustGameserver.Servers

open RustGameserver.Foundation
open RustGameserver.Net
open RustGameserver.Session

abbrev LoginState : Type :=
  ServerState LoginServer.Session LoginServer.Work LoginServer.Reply LoginServer.LoginOutcome

abbrev LoginSeen : Type :=
  ServerSeen LoginServer.Session LoginServer.Work LoginServer.Reply LoginServer.LoginOutcome

abbrev GameState : Type :=
  ServerState GameServer.Session GameServer.Work GameServer.Reply GameServer.InnerMessage

abbrev GameSeen : Type :=
  ServerSeen GameServer.Session GameServer.Work GameServer.Reply GameServer.InnerMessage

/-- A spawned backend task: its session, and its index there. -/
abbrev TaskId : Type := SessionId × Nat

/-- The settings of the two servers. -/
structure ExchangeSettings where
  authTokenPrefix : String
  loginKeepAlive : Nat
  gameKeepAlive : Nat

structure ExchangeState where
  login : LoginState
  game : GameState
  redis : OneTimeStore String String
  /-- The tokens that have been stored, each with the task that asked for it. -/
  issued : FiniteMap TaskId String
  /-- What has been found under the tokens looked up. -/
  looked : FiniteMap TaskId (Option String)

inductive ExchangeEvent where
  | login (event : ServerEvent LoginServer.Reply)
  | game (event : ServerEvent GameServer.Reply)
  /-- Redis carries out the SETEX of a task, whose token is new. -/
  | setEx (task : TaskId) (token : String)
  /-- Redis carries out the GET and DEL of a task. -/
  | getDel (task : TaskId)
  | expire (key : String)

inductive ExchangeSeen where
  | login (seen : LoginSeen)
  | game (seen : GameSeen)
  | issued (task : TaskId) (row : LoginServer.AccountRow) (token : String)
  | looked (task : TaskId) (token : String) (result : Option String)

/-- The row whose token a login task issues, once it has asked for that. -/
def issuing (job : Job LoginServer.Work LoginServer.Reply LoginServer.LoginOutcome) :
    Option LoginServer.AccountRow :=
  job.calls.findSome? fun
    | .issueAuthToken row => some row
    | .findAccount .. | .verify .. | .touchLastLogin _ => none

/-- The token that a task of a game session looks up. -/
def looking (job : Job GameServer.Work GameServer.Reply GameServer.InnerMessage) :
    Option String :=
  job.calls.findSome? fun
    | .takeAuthToken token => some token
    | .saveScore .. => none

/-- A spawned task of a server. -/
def findJob {Fields Work Reply Inner : Type} (state : ServerState Fields Work Reply Inner)
    (task : TaskId) : Option (Job Work Reply Inner) :=
  (state.tasks.get task.1).bind fun session => session.jobs[task.2]?

namespace ExchangeState

variable (settings : ExchangeSettings) (state : ExchangeState)

/-- LoginServer hears of a stored token only what was stored. -/
def allowsLogin : ServerEvent LoginServer.Reply → Bool
  | .session sessionId (.reply job (.issued (.ok (some token)))) =>
      state.issued.get (sessionId, job) = some token
  | _ => true

/-- GameServer hears of a token only what was found under it. -/
def allowsGame : ServerEvent GameServer.Reply → Bool
  | .session sessionId (.reply job (.token (.ok value))) =>
      state.looked.get (sessionId, job) = some value
  | _ => true

/-- `issue_auth_token`, as Redis sees it. -/
def setEx (task : TaskId) (token : String) : Option (ExchangeState × List ExchangeSeen) :=
  match (findJob state.login task).bind issuing with
  | none => none
  | some row =>
      if state.issued.get task = none then
        match state.redis.step (.put (settings.authTokenPrefix ++ token)
            (LoginServer.tokenValue row.accountId row.userId)) with
        | none => none
        | some (redis, _) =>
            some ({ state with redis, issued := state.issued.insert task token },
              [.issued task row token])
      else none

/-- `take_auth_token`, as Redis sees it. -/
def getDel (task : TaskId) : Option (ExchangeState × List ExchangeSeen) :=
  match (findJob state.game task).bind looking with
  | none => none
  | some token =>
      let key := settings.authTokenPrefix ++ token
      if state.looked.get task = none then
        let result := state.redis.entries.get key
        some ({ state with
          redis := { state.redis with entries := state.redis.entries.remove key }
          looked := state.looked.insert task result },
          [.looked task token result])
      else none

def step : ExchangeEvent → Option (ExchangeState × List ExchangeSeen)
  | .login event =>
      if state.allowsLogin event then
        (state.login.step (LoginServer.service settings.loginKeepAlive) event).map
          fun (login, seen) => ({ state with login }, seen.map .login)
      else none
  | .game event =>
      if state.allowsGame event then
        (state.game.step (GameServer.service settings.gameKeepAlive) event).map
          fun (game, seen) => ({ state with game }, seen.map .game)
      else none
  | .setEx task token => state.setEx settings task token
  | .getDel task => state.getDel settings task
  | .expire key =>
      some ({ state with
        redis := { state.redis with entries := state.redis.entries.remove key } }, [])

end ExchangeState

/-- Both servers and Redis as a machine. -/
def exchange (settings : ExchangeSettings) : Machine ExchangeState ExchangeEvent ExchangeSeen where
  Initial := fun state => state =
    ⟨⟨.default, .empty, 0, [], [], false⟩, ⟨.default, .empty, 0, [], [], false⟩, ⟨.empty, []⟩,
      .empty, .empty⟩
  step := fun state event => state.step settings event

/-- What the system does for one event. -/
inductive ExchangeStepped (settings : ExchangeSettings) (state : ExchangeState) :
    ExchangeEvent → ExchangeState → List ExchangeSeen → Prop where
  | login {login : LoginState} {seen : List LoginSeen} (event : ServerEvent LoginServer.Reply)
      (allowed : state.allowsLogin event = true)
      (taken : (server (LoginServer.service settings.loginKeepAlive)).step state.login event =
        some (login, seen)) :
      ExchangeStepped settings state (.login event) { state with login } (seen.map .login)
  | game {game : GameState} {seen : List GameSeen} (event : ServerEvent GameServer.Reply)
      (allowed : state.allowsGame event = true)
      (taken : (server (GameServer.service settings.gameKeepAlive)).step state.game event =
        some (game, seen)) :
      ExchangeStepped settings state (.game event) { state with game } (seen.map .game)
  | stored {redis : OneTimeStore String String} {written : List (StoreSeen String String)}
      (task : TaskId)
      (job : Job LoginServer.Work LoginServer.Reply LoginServer.LoginOutcome)
      (row : LoginServer.AccountRow) (token : String)
      (present : findJob state.login task = some job) (asked : issuing job = some row)
      (taken : state.redis.step (.put (settings.authTokenPrefix ++ token)
        (LoginServer.tokenValue row.accountId row.userId)) = some (redis, written)) :
      ExchangeStepped settings state (.setEx task token)
        { state with redis, issued := state.issued.insert task token } [.issued task row token]
  | looked (task : TaskId)
      (job : Job GameServer.Work GameServer.Reply GameServer.InnerMessage) (token : String)
      (present : findJob state.game task = some job) (asked : looking job = some token) :
      ExchangeStepped settings state (.getDel task)
        { state with
          redis := { state.redis with
            entries := state.redis.entries.remove (settings.authTokenPrefix ++ token) }
          looked := state.looked.insert task
            (state.redis.entries.get (settings.authTokenPrefix ++ token)) }
        [.looked task token (state.redis.entries.get (settings.authTokenPrefix ++ token))]
  | expired (key : String) :
      ExchangeStepped settings state (.expire key)
        { state with redis := { state.redis with entries := state.redis.entries.remove key } } []

theorem exchange_step_cases {settings : ExchangeSettings} {state after : ExchangeState}
    {event : ExchangeEvent} {seen : List ExchangeSeen}
    (taken : (exchange settings).step state event = some (after, seen)) :
    ExchangeStepped settings state event after seen := by
  cases event with
  | login event =>
      simp only [exchange, ExchangeState.step, Option.ite_none_right_eq_some,
        Option.map_eq_some_iff, Prod.mk.injEq] at taken
      obtain ⟨allowed, ⟨login, made⟩, stepped, rfl, rfl⟩ := taken
      exact .login event allowed stepped
  | game event =>
      simp only [exchange, ExchangeState.step, Option.ite_none_right_eq_some,
        Option.map_eq_some_iff, Prod.mk.injEq] at taken
      obtain ⟨allowed, ⟨game, made⟩, stepped, rfl, rfl⟩ := taken
      exact .game event allowed stepped
  | setEx task token =>
      simp only [exchange, ExchangeState.step, ExchangeState.setEx] at taken
      split at taken
      · contradiction
      · next row asks =>
          obtain ⟨job, present, asked⟩ := Option.bind_eq_some_iff.mp asks
          rw [Option.ite_none_right_eq_some] at taken
          obtain ⟨_, outcome⟩ := taken
          split at outcome
          · contradiction
          · next redis written stored =>
              cases outcome
              exact .stored task job row token present asked stored
  | getDel task =>
      simp only [exchange, ExchangeState.step, ExchangeState.getDel] at taken
      split at taken
      · contradiction
      · next token asks =>
          obtain ⟨job, present, asked⟩ := Option.bind_eq_some_iff.mp asks
          rw [Option.ite_none_right_eq_some] at taken
          obtain ⟨_, outcome⟩ := taken
          cases outcome
          exact .looked task job token present asked
  | expire key =>
      cases taken
      exact .expired key

/-! ## The runs of the parts -/

/-- The part of an observation that concerns LoginServer. -/
def ExchangeSeen.ofLogin : ExchangeSeen → Option LoginSeen
  | .login seen => some seen
  | .game _ | .issued .. | .looked .. => none

/-- The part of an observation that concerns GameServer. -/
def ExchangeSeen.ofGame : ExchangeSeen → Option GameSeen
  | .game seen => some seen
  | .login _ | .issued .. | .looked .. => none

/-- The part of an observation that concerns Redis. -/
def ExchangeSeen.ofRedis (settings : ExchangeSettings) :
    ExchangeSeen → Option (StoreSeen String String)
  | .issued _ row token =>
      some (.put (settings.authTokenPrefix ++ token)
        (LoginServer.tokenValue row.accountId row.userId))
  | .looked _ token result => some (.took (settings.authTokenPrefix ++ token) result)
  | .login _ | .game _ => none

variable {settings : ExchangeSettings} {state : ExchangeState} {history : List ExchangeSeen}

theorem exchange_projects_login (settings : ExchangeSettings) :
    Machine.Projects (exchange settings) (server (LoginServer.service settings.loginKeepAlive))
      (fun state => some state.login) ExchangeSeen.ofLogin := by
  apply Machine.Projects.component
  · rintro state rfl
    rfl
  · intro before event after seen taken
    cases exchange_step_cases taken with
    | login event allowed stepped =>
        rw [filterMap_unwrapped ExchangeSeen.login ExchangeSeen.ofLogin fun _ => rfl]
        exact .one stepped
    | game event => exact .rests rfl (filterMap_wrapped _ _ (fun _ => rfl) _)
    | stored => exact .rests rfl rfl
    | looked => exact .rests rfl rfl
    | expired => exact .rests rfl rfl

theorem exchange_projects_game (settings : ExchangeSettings) :
    Machine.Projects (exchange settings) (server (GameServer.service settings.gameKeepAlive))
      (fun state => some state.game) ExchangeSeen.ofGame := by
  apply Machine.Projects.component
  · rintro state rfl
    rfl
  · intro before event after seen taken
    cases exchange_step_cases taken with
    | game event allowed stepped =>
        rw [filterMap_unwrapped ExchangeSeen.game ExchangeSeen.ofGame fun _ => rfl]
        exact .one stepped
    | login event => exact .rests rfl (filterMap_wrapped _ _ (fun _ => rfl) _)
    | stored => exact .rests rfl rfl
    | looked => exact .rests rfl rfl
    | expired => exact .rests rfl rfl

theorem exchange_projects_redis (settings : ExchangeSettings) :
    Machine.Projects (exchange settings) OneTimeStore.machine
      (fun state => some state.redis) (ExchangeSeen.ofRedis settings) := by
  apply Machine.Projects.component
  · rintro state rfl
    rfl
  · intro before event after seen taken
    cases exchange_step_cases taken with
    | login event => exact .rests rfl (filterMap_wrapped _ _ (fun _ => rfl) _)
    | game event => exact .rests rfl (filterMap_wrapped _ _ (fun _ => rfl) _)
    | stored task job row token present asked stored =>
        have written := OneTimeStore.put_seen stored
        rw [written] at stored
        have taken : OneTimeStore.machine.step before.redis
            (.put (settings.authTokenPrefix ++ token)
              (LoginServer.tokenValue row.accountId row.userId)) = some (_, [_]) := stored
        exact .one taken
    | looked task job token =>
        have taken : OneTimeStore.machine.step before.redis
            (.take (settings.authTokenPrefix ++ token)) = some (_, _) := rfl
        exact .one taken
    | expired key =>
        have taken : OneTimeStore.machine.step before.redis (.expire key) = some (_, _) := rfl
        exact .one taken

theorem reaches_login (run : (exchange settings).Reaches state history) :
    (server (LoginServer.service settings.loginKeepAlive)).Reaches state.login
      (history.filterMap ExchangeSeen.ofLogin) :=
  (exchange_projects_login settings).reaches run rfl

theorem reaches_game (run : (exchange settings).Reaches state history) :
    (server (GameServer.service settings.gameKeepAlive)).Reaches state.game
      (history.filterMap ExchangeSeen.ofGame) :=
  (exchange_projects_game settings).reaches run rfl

theorem reaches_redis (run : (exchange settings).Reaches state history) :
    OneTimeStore.machine.Reaches state.redis
      (history.filterMap (ExchangeSeen.ofRedis settings)) :=
  (exchange_projects_redis settings).reaches run rfl

theorem mem_ofLogin {seen : LoginSeen} :
    seen ∈ history.filterMap ExchangeSeen.ofLogin ↔ .login seen ∈ history :=
  mem_unwrapped ExchangeSeen.login fun wrapped entry => by
    cases wrapped <;> simp [ExchangeSeen.ofLogin]

theorem mem_ofGame {seen : GameSeen} :
    seen ∈ history.filterMap ExchangeSeen.ofGame ↔ .game seen ∈ history :=
  mem_unwrapped ExchangeSeen.game fun wrapped entry => by
    cases wrapped <;> simp [ExchangeSeen.ofGame]

/-! ## What the servers are told about commands -/

/-- Redis remembers what it has found. -/
def Remembers (state : ExchangeState) (history : List ExchangeSeen) : Prop :=
  ∀ task result, state.looked.get task = some result →
    ∃ token, .looked task token result ∈ history

theorem reaches_remembers (run : (exchange settings).Reaches state history) :
    Remembers state history := by
  apply run.invariant
  · rintro state rfl task result found
    simp at found
  · intro before history event after seen _ remembers taken task result found
    have kept (still : before.looked.get task = some result) :
        ∃ token, .looked task token result ∈ history ++ seen := by
      obtain ⟨token, member⟩ := remembers task result still
      exact ⟨token, List.mem_append_left _ member⟩
    cases exchange_step_cases taken with
    | looked other job token =>
        rw [FiniteMap.get_insert] at found
        split at found
        · next same =>
            rw [Option.some.injEq] at found
            exact ⟨token, by simp [same, found]⟩
        · exact kept found
    | _ => exact kept found

/-- What there is behind what a server or Redis does. -/
def Grounded (earlier : List ExchangeSeen) : ExchangeSeen → Prop
  | .game (.session sessionId (.replied job (.token (.ok value)))) =>
      ∃ token, .looked (sessionId, job) token value ∈ earlier
  | .issued (sessionId, job) row _ =>
      .login (.session sessionId (.replied job (.account (.ok (some row))))) ∈ earlier ∧
        .login (.session sessionId (.replied job (.verified (.ok true)))) ∈ earlier ∧
        row.status ≠ 1
  | _ => True

theorem grounded_game {game : GameState} {seen : List GameSeen}
    {event : ServerEvent GameServer.Reply} (remembers : Remembers state history)
    (allowed : state.allowsGame event = true)
    (taken : (server (GameServer.service settings.gameKeepAlive)).step state.game event =
      some (game, seen)) (front : List ExchangeSeen) :
    ∀ entry ∈ seen.map .game, Grounded (history ++ front) entry := by
  intro entry member
  obtain ⟨made, among, rfl⟩ := List.mem_map.mp member
  unfold Grounded
  split
  · next sessionId job value same =>
      cases same
      have reply := server_step_replied taken among
      rw [reply] at allowed
      obtain ⟨token, looked⟩ := remembers (sessionId, job) value (of_decide_eq_true allowed)
      exact ⟨token, List.mem_append_left _ looked⟩
  · contradiction
  · trivial

theorem grounded_issued (run : (exchange settings).Reaches state history) {task : TaskId}
    {job : Job LoginServer.Work LoginServer.Reply LoginServer.LoginOutcome}
    {row : LoginServer.AccountRow} (present : findJob state.login task = some job)
    (asked : issuing job = some row) (token : String) :
    Grounded history (.issued task row token) := by
  obtain ⟨sessionId, index⟩ := task
  obtain ⟨session, live, spawned⟩ := Option.bind_eq_some_iff.mp present
  have own := reaches_session (reaches_login run) live
  have issues : .issueAuthToken row ∈ job.calls := by
    obtain ⟨work, member, same⟩ := List.exists_of_findSome?_eq_some asked
    cases work <;> cases same
    exact member
  obtain ⟨found, verified, unbanned⟩ := LoginServer.issue_told own spawned issues
  exact ⟨mem_ofLogin.mp (mem_historyOf.mp found), mem_ofLogin.mp (mem_historyOf.mp verified),
    unbanned⟩

theorem reaches_grounded (run : (exchange settings).Reaches state history) :
    Justified Grounded history := by
  apply run.invariant
  · intro state _
    exact .nil
  · intro before history event after seen run justified taken
    cases exchange_step_cases taken with
    | login event =>
        apply justified.append_free
        intro earlier entry member
        obtain ⟨made, _, rfl⟩ := List.mem_map.mp member
        trivial
    | game event allowed stepped =>
        exact justified.append (grounded_game (reaches_remembers run) allowed stepped)
    | stored task job row token present asked =>
        exact justified.snoc (grounded_issued run present asked token)
    | looked => exact justified.snoc trivial
    | expired => simpa using justified

end RustGameserver.Servers
