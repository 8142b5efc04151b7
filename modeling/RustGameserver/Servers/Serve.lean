import RustGameserver.Net.AdmissionBound
import RustGameserver.GameServer.Session
import RustGameserver.Session.Logouts

/-!
Contract: `serve` of the two servers, from the first connection to its return.

Owns:
- the accept loop `net::acceptor::run` with its guard, its pause after an error and its end;
- the session tasks in the `TaskTracker`, from their start to the return of `session::run`;
- that the sessions and the guard of a serving server run as they do by themselves;
- the account of all connections, and what holds when `serve` has returned.

Does not own: TCP, and how long `record_logout` waits between two attempts.
-/

namespace RustGameserver.Servers

open RustGameserver.Foundation
open RustGameserver.Net
open RustGameserver.Proto
open RustGameserver.Session

variable {Fields Work Reply Inner : Type}

/-- Where `serve` stands. -/
inductive ServeStage where
  | accepting    -- in the `select!` of `acceptor::run`
  | resting      -- asleep after an error of `accept`
  | waiting      -- in `sessions.wait()`, the tracker closed
  | returned
deriving DecidableEq, Repr

structure Serve (Fields Work Reply Inner : Type) where
  stage : ServeStage
  guard : ConnectionGuard
  /-- The last reading of the clock in the accept loop. -/
  clock : Nat
  /-- The tasks that have been spawned and have not drawn their session id. -/
  fresh : Nat
  /-- The ids that have been drawn by tasks which have not registered. -/
  drawn : List SessionId
  server : ServerState Fields Work Reply Inner

inductive ServeEvent (Reply : Type) where
  | incoming (ip : IpAddr) (now : Nat)
  | acceptError
  | rested
  /-- `shutdown.cancelled()`, which the `select!` may pass over for a connection -/
  | stop
  | server (event : ServerEvent Reply)
  | waited
deriving DecidableEq, Repr

inductive ServeSeen (Fields Work Reply Inner : Type) where
  | connection (call : Call) (blocked : Bool)
  | server (seen : ServerSeen Fields Work Reply Inner)

namespace Serve

variable (serve : Serve Fields Work Reply Inner)

/-- `serve` before its first connection. -/
def start : Serve Fields Work Reply Inner where
  stage := .accepting
  guard := .default
  clock := 0
  fresh := 0
  drawn := []
  server := ⟨.default, .empty, 0, [], [], false⟩

/-- A spawned task draws an id and registers only once. -/
def prepare : ServerEvent Reply → Option (Serve Fields Work Reply Inner)
  | .generate =>
      if 0 < serve.fresh then
        some { serve with
          fresh := serve.fresh - 1
          drawn := serve.drawn ++ [generate serve.server.nextId] }
      else none
  | .accept sessionId _ _ =>
      if sessionId ∈ serve.drawn then
        some { serve with drawn := serve.drawn.erase sessionId }
      else none
  | .session .. | .disconnect _ | .shutdown => some serve

/-- No task is left in the tracker. -/
def Idle : Prop :=
  serve.fresh = 0 ∧ serve.drawn = [] ∧
    ∀ entry ∈ serve.server.tasks.entries, entry.2.hasReturned

instance : Decidable serve.Idle := inferInstanceAs (Decidable (_ ∧ _ ∧ _))

def step (service : Service Fields Work Reply Inner) :
    ServeEvent Reply →
      Option (Serve Fields Work Reply Inner × List (ServeSeen Fields Work Reply Inner))
  | .incoming ip now =>
      if serve.stage = .accepting ∧ serve.clock ≤ now then
        let (blocked, guard) := serve.guard.shouldBlock ip now
        let fresh := if blocked then serve.fresh else serve.fresh + 1
        some ({ serve with guard, clock := now, fresh }, [.connection ⟨ip, now⟩ blocked])
      else none
  | .acceptError =>
      if serve.stage = .accepting then some ({ serve with stage := .resting }, []) else none
  | .rested =>
      if serve.stage = .resting then some ({ serve with stage := .accepting }, []) else none
  | .stop =>
      if serve.stage = .accepting ∧ serve.server.shutdown = true then
        some ({ serve with stage := .waiting }, [])
      else none
  | .server event =>
      match serve.prepare event with
      | none => none
      | some prepared =>
          match serve.server.step service event with
          | none => none
          | some (server, seen) => some ({ prepared with server }, seen.map .server)
  | .waited =>
      if serve.stage = .waiting ∧ serve.Idle then some ({ serve with stage := .returned }, [])
      else none

end Serve

/-- `serve` as a machine. -/
def serving (service : Service Fields Work Reply Inner) :
    Machine (Serve Fields Work Reply Inner) (ServeEvent Reply)
      (ServeSeen Fields Work Reply Inner) where
  Initial := fun serve => serve = .start
  step := fun serve event => serve.step service event

variable {service : Service Fields Work Reply Inner}
  {before after : Serve Fields Work Reply Inner} {event : ServeEvent Reply}
  {history seen : List (ServeSeen Fields Work Reply Inner)}

/-- What one step of `serve` can do. -/
inductive ServeStepped (service : Service Fields Work Reply Inner)
    (serve : Serve Fields Work Reply Inner) :
    ServeEvent Reply → Serve Fields Work Reply Inner →
      List (ServeSeen Fields Work Reply Inner) → Prop where
  | connected (ip : IpAddr) (now : Nat) (accepting : serve.stage = .accepting)
      (later : serve.clock ≤ now) :
      ServeStepped service serve (.incoming ip now)
        { serve with
          guard := (serve.guard.shouldBlock ip now).2
          clock := now
          fresh := if (serve.guard.shouldBlock ip now).1 then serve.fresh else serve.fresh + 1 }
        [.connection ⟨ip, now⟩ (serve.guard.shouldBlock ip now).1]
  | failed (accepting : serve.stage = .accepting) :
      ServeStepped service serve .acceptError { serve with stage := .resting } []
  | rested (resting : serve.stage = .resting) :
      ServeStepped service serve .rested { serve with stage := .accepting } []
  | stopped (accepting : serve.stage = .accepting) (down : serve.server.shutdown = true) :
      ServeStepped service serve .stop { serve with stage := .waiting } []
  | moved {prepared : Serve Fields Work Reply Inner} {next : ServerState Fields Work Reply Inner}
      {seen : List (ServerSeen Fields Work Reply Inner)} (event : ServerEvent Reply)
      (ready : serve.prepare event = some prepared)
      (taken : (server service).step serve.server event = some (next, seen)) :
      ServeStepped service serve (.server event) { prepared with server := next }
        (seen.map .server)
  | ended (stage : serve.stage = .waiting) (idle : serve.Idle) :
      ServeStepped service serve .waited { serve with stage := .returned } []

theorem serve_step_cases (taken : (serving service).step before event = some (after, seen)) :
    ServeStepped service before event after seen := by
  cases event with
  | incoming ip now =>
      simp only [serving, Serve.step, Option.ite_none_right_eq_some] at taken
      obtain ⟨⟨accepting, later⟩, outcome⟩ := taken
      cases outcome
      exact .connected ip now accepting later
  | acceptError =>
      simp only [serving, Serve.step, Option.ite_none_right_eq_some] at taken
      obtain ⟨accepting, outcome⟩ := taken
      cases outcome
      exact .failed accepting
  | rested =>
      simp only [serving, Serve.step, Option.ite_none_right_eq_some] at taken
      obtain ⟨resting, outcome⟩ := taken
      cases outcome
      exact .rested resting
  | stop =>
      simp only [serving, Serve.step, Option.ite_none_right_eq_some] at taken
      obtain ⟨⟨accepting, down⟩, outcome⟩ := taken
      cases outcome
      exact .stopped accepting down
  | server event =>
      simp only [serving, Serve.step] at taken
      split at taken
      · contradiction
      next prepared ready =>
      split at taken
      · contradiction
      next next made moved =>
      cases taken
      exact .moved event ready moved
  | waited =>
      simp only [serving, Serve.step, Option.ite_none_right_eq_some] at taken
      obtain ⟨⟨stage, idle⟩, outcome⟩ := taken
      cases outcome
      exact .ended stage idle

/-! ## The server that is served -/

def ServeSeen.ofServer :
    ServeSeen Fields Work Reply Inner → Option (ServerSeen Fields Work Reply Inner)
  | .server seen => some seen
  | .connection .. => none

/-- What is observed of the server. -/
def serverHistory (history : List (ServeSeen Fields Work Reply Inner)) :
    List (ServerSeen Fields Work Reply Inner) :=
  history.filterMap ServeSeen.ofServer

/-- A serving server runs as a server does. -/
theorem serving_projects_server (service : Service Fields Work Reply Inner) :
    (serving service).Projects (server service) (fun serve => some serve.server)
      ServeSeen.ofServer := by
  apply Machine.Projects.component
  · rintro serve rfl
    rfl
  · intro before event after seen taken
    cases serve_step_cases taken with
    | moved event ready moved =>
        rw [filterMap_unwrapped ServeSeen.server _ (fun _ => rfl)]
        exact .one moved
    | connected | failed | rested | stopped | ended => exact .rests rfl rfl

theorem reaches_server (run : (serving service).Reaches before history) :
    (server service).Reaches before.server (serverHistory history) :=
  (serving_projects_server service).reaches run rfl

/-! ## The accept loop -/

def ServeSeen.ofGuard : ServeSeen Fields Work Reply Inner → Option (Call × Bool)
  | .connection call blocked => some (call, blocked)
  | .server _ => none

/-- The connections in order, each with the verdict of the guard. -/
def connections (history : List (ServeSeen Fields Work Reply Inner)) : List (Call × Bool) :=
  history.filterMap ServeSeen.ofGuard

theorem connections_append (history more : List (ServeSeen Fields Work Reply Inner)) :
    connections (history ++ more) = connections history ++ connections more :=
  List.filterMap_append

theorem connections_server (seen : List (ServerSeen Fields Work Reply Inner)) :
    connections (seen.map ServeSeen.server) = [] :=
  filterMap_wrapped ServeSeen.server _ (fun _ => rfl) seen

/-- The connections for which a session task has been spawned. -/
def admitted (history : List (ServeSeen Fields Work Reply Inner)) : Nat :=
  (connections history).countP fun judged => judged.2 = false

/-- Those of one canonical address in ten seconds. -/
def admittedWithin (ip : IpAddr) (start : Nat)
    (history : List (ServeSeen Fields Work Reply Inner)) : Nat :=
  (connections history).countP fun judged =>
    (judged.1.ip.toCanonical = ip ∧ judged.2 = false) ∧
      start ≤ judged.1.now ∧ judged.1.now ≤ start + fromSecs 10

/-- The guard has judged the connections, and the reference admits the same. -/
structure Guarded (serve : Serve Fields Work Reply Inner) (judged : List (Call × Bool)) :
    Prop where
  guard : serve.guard = .after (judged.map Prod.fst)
  ordered : (judged.map Prod.fst).Pairwise (fun first second => first.now ≤ second.now)
  past : ∀ call ∈ judged.map Prod.fst, call.now ≤ serve.clock
  agreed : ∀ ip, isAllowlisted ip = false →
    (Reference.after ip (judged.map Prod.fst)).admitted =
      admissions ip (judged.map Prod.fst) (judged.map Prod.snd)

theorem admissions_zip (ip : IpAddr) (judged : List (Call × Bool)) :
    admissions ip (judged.map Prod.fst) (judged.map Prod.snd) =
      judged.filterMap fun one =>
        if one.1.ip.toCanonical = ip ∧ one.2 = false then some one.1.now else none := by
  rw [admissions, List.zip_map', List.map_id']

namespace Guarded

variable {judged : List (Call × Bool)}

theorem connected (guarded : Guarded before judged) {ip : IpAddr} {now : Nat}
    (later : before.clock ≤ now) {serve : Serve Fields Work Reply Inner}
    (guard : serve.guard = (before.guard.shouldBlock ip now).2) (clock : serve.clock = now) :
    Guarded serve (judged ++ [(⟨ip, now⟩, (before.guard.shouldBlock ip now).1)]) := by
  have early : ∀ call ∈ judged.map Prod.fst, call.now ≤ now := fun call member =>
    le_trans (guarded.past call member) later
  constructor
  · rw [guard, guarded.guard, List.map_append, List.map_singleton, ConnectionGuard.after_snoc]
  · rw [List.map_append, List.map_singleton]
    refine List.pairwise_append.mpr ⟨guarded.ordered, List.pairwise_singleton _ _, ?_⟩
    intro call member other last
    rw [List.mem_singleton.mp last]
    exact early call member
  · rw [List.map_append, List.map_singleton, clock]
    intro call member
    rcases List.mem_append.mp member with member | last
    · exact early call member
    · rw [List.mem_singleton.mp last]
  · intro address listed
    have simulates : Simulates before.guard now (judged.map Prod.fst) := by
      rw [guarded.guard]
      exact simulates_after guarded.ordered early
    have verdict : (before.guard.shouldBlock ip now).1 =
        Reference.verdict (judged.map Prod.fst) ⟨ip, now⟩ := 
      (@Simulates.step before.guard now _ simulates ⟨ip, now⟩ le_rfl).1
    have agreed := guarded.agreed address listed
    rw [admissions_zip] at agreed ⊢
    rw [List.map_append, List.map_singleton, Reference.after_admitted _ _ listed, agreed,
      List.filterMap_append, verdict]
    rfl

theorem kept (guarded : Guarded before judged) {serve : Serve Fields Work Reply Inner}
    (guard : serve.guard = before.guard) (clock : serve.clock = before.clock) :
    Guarded serve judged where
  guard := guard.trans guarded.guard
  ordered := guarded.ordered
  past := by rw [clock]; exact guarded.past
  agreed := guarded.agreed

/-- The guard bounds the sessions that an address gets. -/
theorem within (guarded : Guarded before judged) {ip : IpAddr} (listed : isAllowlisted ip = false)
    (start : Nat) :
    (judged.countP fun one =>
      (one.1.ip.toCanonical = ip ∧ one.2 = false) ∧
        start ≤ one.1.now ∧ one.1.now ≤ start + fromSecs 10) ≤ 30 := by
  have bounded := Reference.after_within (judged.map Prod.fst) ip start
  rw [Reference.within, guarded.agreed ip listed, admissions_zip, List.countP_filterMap] at bounded
  refine le_trans (le_of_eq ?_) bounded
  apply List.countP_congr
  intro one _
  by_cases own : one.1.ip.toCanonical = ip ∧ one.2 = false
  · simp [own]
  · simp [own]

end Guarded

/-- What waits for its session id keeps its place through the preparation. -/
theorem prepare_frame {serverEvent : ServerEvent Reply} {prepared : Serve Fields Work Reply Inner}
    (ready : before.prepare serverEvent = some prepared) :
    prepared.guard = before.guard ∧ prepared.clock = before.clock ∧
      prepared.stage = before.stage := by
  cases serverEvent with
  | generate =>
      simp only [Serve.prepare, Option.ite_none_right_eq_some, Option.some.injEq] at ready
      obtain ⟨_, rfl⟩ := ready
      exact ⟨rfl, rfl, rfl⟩
  | accept sessionId kick now =>
      simp only [Serve.prepare, Option.ite_none_right_eq_some, Option.some.injEq] at ready
      obtain ⟨_, rfl⟩ := ready
      exact ⟨rfl, rfl, rfl⟩
  | session | disconnect | shutdown =>
      rw [Serve.prepare, Option.some.injEq] at ready
      subst ready
      exact ⟨rfl, rfl, rfl⟩

theorem reaches_guarded (run : (serving service).Reaches before history) :
    Guarded before (connections history) := by
  apply run.invariant
  · rintro serve rfl
    exact ⟨rfl, List.Pairwise.nil, nofun, fun _ _ => rfl⟩
  · intro before history event after seen _ guarded taken
    rw [connections_append]
    cases serve_step_cases taken with
    | connected ip now accepting later => exact guarded.connected later rfl rfl
    | moved event ready moved =>
        obtain ⟨guard, clock, _⟩ := prepare_frame ready
        rw [connections_server, List.append_nil]
        exact guarded.kept guard clock
    | failed | rested | stopped | ended =>
        rw [connections, connections, List.filterMap_nil, List.append_nil]
        exact guarded.kept rfl rfl

/-! ## The session tasks -/

/-- The tasks in the tracker, those that have ended with them. -/
def Serve.spawned (serve : Serve Fields Work Reply Inner) : Nat :=
  serve.fresh + serve.drawn.length + serve.server.tasks.keys.card

theorem moved_spawned {serverEvent : ServerEvent Reply}
    {prepared : Serve Fields Work Reply Inner} {next : ServerState Fields Work Reply Inner}
    {made : List (ServerSeen Fields Work Reply Inner)}
    (ready : before.prepare serverEvent = some prepared)
    (taken : (server service).step before.server serverEvent = some (next, made)) :
    prepared.fresh + prepared.drawn.length + next.tasks.keys.card = before.spawned := by
  rw [Serve.spawned]
  cases server_step_cases taken with
  | drawn =>
      simp only [Serve.prepare, Option.ite_none_right_eq_some, Option.some.injEq] at ready
      obtain ⟨waits, rfl⟩ := ready
      show before.fresh - 1 + (before.drawn ++ [_]).length + before.server.tasks.keys.card = _
      rw [List.length_append, List.length_singleton]
      omega
  | accepted sessionId kick now newId =>
      simp only [Serve.prepare, Option.ite_none_right_eq_some, Option.some.injEq] at ready
      obtain ⟨member, rfl⟩ := ready
      have left := List.length_erase_of_mem member
      have positive := List.length_pos_of_mem member
      rw [FiniteMap.card_keys_insert_new newId]
      show before.fresh + (before.drawn.erase sessionId).length + (_ + 1) = _
      omega
  | moved sessionId event task present =>
      rw [Serve.prepare, Option.some.injEq] at ready
      subst ready
      rw [(ServerState.observeAll_frame _ sessionId task.kick _).1,
        FiniteMap.keys_insert_present present]
  | disconnected | shutDown =>
      rw [Serve.prepare, Option.some.injEq] at ready
      subst ready
      rfl

/-- Every connection that was let in has its task. -/
theorem reaches_spawned (run : (serving service).Reaches before history) :
    before.spawned = admitted history := by
  apply run.invariant
  · rintro serve rfl
    rfl
  · intro before history event after seen _ counted taken
    rw [admitted, connections_append, List.countP_append]
    cases serve_step_cases taken with
    | connected ip now accepting later =>
        rw [← admitted, ← counted]
        show (if (before.guard.shouldBlock ip now).1 then before.fresh else before.fresh + 1) +
            before.drawn.length + before.server.tasks.keys.card =
          before.fresh + before.drawn.length + before.server.tasks.keys.card +
            [((⟨ip, now⟩ : Call), (before.guard.shouldBlock ip now).1)].countP _
        rw [List.countP_singleton]
        cases (before.guard.shouldBlock ip now).1 with
        | true => rfl
        | false =>
            simp only [Bool.false_eq_true, if_false, decide_true, if_true]
            omega
    | @moved prepared next made event ready moved =>
        rw [connections_server, List.countP_nil, ← admitted, ← counted]
        have all := moved_spawned ready moved
        exact all
    | failed | rested | stopped | ended => exact counted

/-! ## The return -/

/-- The tracker is only waited for after the shutdown, and `serve` returns when it is empty. -/
structure Settled (serve : Serve Fields Work Reply Inner) : Prop where
  down : serve.stage = .waiting ∨ serve.stage = .returned → serve.server.shutdown = true
  idle : serve.stage = .returned → serve.Idle

namespace Settled

/-- Before the tracker is closed there is nothing to show. -/
theorem unclosed (stage : before.stage = .accepting ∨ before.stage = .resting) :
    Settled before := by
  constructor
  · intro later
    rcases stage with stage | stage <;> rw [stage] at later <;> rcases later <;> contradiction
  · intro later
    rcases stage with stage | stage <;> rw [stage] at later <;> contradiction

/-- A server whose tasks have all returned starts none. -/
theorem idle_moved {serverEvent : ServerEvent Reply}
    {prepared : Serve Fields Work Reply Inner} {next : ServerState Fields Work Reply Inner}
    {made : List (ServerSeen Fields Work Reply Inner)} (idle : before.Idle)
    (ready : before.prepare serverEvent = some prepared)
    (taken : (server service).step before.server serverEvent = some (next, made)) :
    Serve.Idle { prepared with server := next } := by
  obtain ⟨fresh, drawn, returned⟩ := idle
  cases server_step_cases taken with
  | drawn =>
      rw [Serve.prepare, if_neg (by omega)] at ready
      contradiction
  | accepted sessionId kick now =>
      rw [Serve.prepare, if_neg (by simp [drawn])] at ready
      contradiction
  | @moved task' own sessionId event task present admitted stepped =>
      rw [Serve.prepare, Option.some.injEq] at ready
      subst ready
      obtain ⟨stage, nowhere⟩ := returned _ (FiniteMap.mem_entries.mpr present)
      obtain ⟨stays, silent⟩ := step_ended stage stepped
      refine ⟨fresh, drawn, ?_⟩
      rintro ⟨other, found⟩ member
      have lookup := FiniteMap.mem_entries.mp member
      rw [moved_tasks] at lookup
      split at lookup
      · rw [Option.some.injEq] at lookup
        rw [← lookup]
        exact ⟨stays, silent nowhere⟩
      · exact returned _ (FiniteMap.mem_entries.mpr lookup)
  | disconnected | shutDown =>
      rw [Serve.prepare, Option.some.injEq] at ready
      subst ready
      exact ⟨fresh, drawn, returned⟩

theorem stepped (settled : Settled before)
    (stepped : ServeStepped service before event after seen) : Settled after := by
  cases stepped with
  | connected ip now accepting later => exact unclosed (.inl accepting)
  | failed => exact unclosed (.inr rfl)
  | rested => exact unclosed (.inl rfl)
  | stopped accepting down => exact ⟨fun _ => down, nofun⟩
  | moved event ready taken =>
      have stage := (prepare_frame ready).2.2
      constructor
      · intro later
        rw [stage] at later
        exact shutdown_step taken (settled.down later)
      · intro later
        rw [stage] at later
        exact idle_moved (settled.idle later) ready taken
  | ended stage idle => exact ⟨fun _ => settled.down (.inl stage), fun _ => idle⟩

end Settled

theorem reaches_settled (run : (serving service).Reaches before history) : Settled before := by
  apply run.invariant
  · rintro serve rfl
    exact .unclosed (.inl rfl)
  · intro before history event after seen _ settled taken
    exact settled.stepped (serve_step_cases taken)

/-- The logout of each session whose `run` has returned has been taken care of. -/
theorem reaches_logged (run : (serving service).Reaches before history) {sessionId : SessionId}
    {task : Task Fields Work Reply Inner} (present : before.server.tasks.get sessionId = some task)
    (returned : task.hasReturned) :
    Logged (service.logoutAccount task.fields) (historyOf sessionId (serverHistory history)) :=
  (reaches_logsOut (reaches_session (reaches_server run) present)).logged returned

/-- The registry lists no session that has returned. -/
theorem unlisted_of_returned (run : (serving service).Reaches before history)
    (returned : ∀ entry ∈ before.server.tasks.entries, entry.2.hasReturned)
    (sessionId : SessionId) : before.server.registry.sessions.get sessionId = none := by
  rw [Option.eq_none_iff_forall_not_mem]
  intro entry listed
  obtain ⟨task, present, registered⟩ := (reaches_owned (reaches_server run)).listed _ _ listed
  have stage := (returned _ (FiniteMap.mem_entries.mpr present)).1
  simp only at stage
  rw [stage] at registered
  contradiction

/-- In every run of `serve`, whatever clients connect and whatever they do: each connection
that the guard has let in is exactly one task, that waits for its id, has drawn it or is a
session; an address that is not allowlisted has got at most thirty in any ten seconds; and
no `record_logout` is given up before the shutdown.

When `serve` has returned, the shutdown has been asked for, all these tasks have become
sessions whose `run` has returned, and the registry lists none.  Those with an account have
called `record_logout` once, for this account, and its last attempt has succeeded or it has
been given up after an attempt that failed; the others have not called it. -/
theorem connections_accounted {serve : Serve Fields Work Reply Inner}
    (run : (serving service).Reaches serve history) :
    serve.fresh + serve.drawn.length + serve.server.tasks.keys.card = admitted history ∧
      (∀ ip start, isAllowlisted ip = false → admittedWithin ip start history ≤ 30) ∧
      (∀ sessionId, .record .abandoned ∈ historyOf sessionId (serverHistory history) →
        serve.server.shutdown = true) ∧
      (serve.stage = .returned →
        serve.server.shutdown = true ∧
        serve.server.tasks.keys.card = admitted history ∧
        (∀ sessionId task, serve.server.tasks.get sessionId = some task →
          task.hasReturned ∧
            Logged (service.logoutAccount task.fields)
              (historyOf sessionId (serverHistory history))) ∧
        ∀ sessionId, serve.server.registry.sessions.get sessionId = none) := by
  have spawned := reaches_spawned run
  have settled := reaches_settled run
  rw [Serve.spawned] at spawned
  refine ⟨spawned, fun ip start listed => (reaches_guarded run).within listed start,
    reaches_persists (reaches_server run), ?_⟩
  intro stage
  obtain ⟨fresh, drawn, returned⟩ := settled.idle stage
  refine ⟨settled.down (.inr stage), ?_, ?_, unlisted_of_returned run returned⟩
  · rw [fresh, drawn] at spawned
    simpa using spawned
  · intro sessionId task present
    have done := returned _ (FiniteMap.mem_entries.mpr present)
    exact ⟨done, reaches_logged run present done⟩

/-- A client connects and becomes account 7. -/
def aliceServed : List (ServeEvent GameServer.Reply) :=
  [.incoming (.v4 0x0A000001#32) 5, .server .generate, .server (.accept 1 ⟨0⟩ 6),
    .server (.session 1 .greet), .server (.session 1 (.poll false)),
    .server (.session 1
      (.select 6 (some (.message ⟨0, some (.gameConnectRequest ⟨"token"⟩)⟩)))),
    .server (.session 1 (.reply 0 (.token (.ok (some "7:alice"))))),
    .server (.session 1 (.deliver 0)), .server (.session 1 (.poll false)),
    .server (.session 1 (.select 6 none))]

/-- Another client connects.  The shutdown finds one task that has not drawn its id, and MySQL
does not take the logout. -/
def servedUntilShutdown : List (ServeEvent GameServer.Reply) :=
  aliceServed ++
    [.incoming (.v6 0xFFFF0A000001#128) 7, .acceptError, .server .shutdown, .rested, .stop,
      .server .generate, .server (.accept 2 ⟨1⟩ 8),
      .server (.session 1 (.poll true)), .server (.session 1 .remove),
      .server (.session 1 .dropOutbox), .server (.session 1 .drainTimeout),
      .server (.session 1 .finish), .server (.session 2 .greet),
      .server (.session 2 (.poll true)), .server (.session 2 .remove),
      .server (.session 2 .dropOutbox), .server (.session 2 .drainTimeout),
      .server (.session 2 .finish), .server (.session 1 (.record (.answered false true))), .waited]

theorem connections_accounted_shutdown :
    ∃ serve history, (serving (GameServer.service 10)).exec .start servedUntilShutdown =
        some (serve, history) ∧
      serve.server.tasks.keys.card = 2 ∧
      logoutCalls (historyOf 1 (serverHistory history)) = [7] ∧
      ∀ sessionId, serve.server.registry.sessions.get sessionId = none := by
  have runs : ∃ serve history task,
      (serving (GameServer.service 10)).exec .start servedUntilShutdown = some (serve, history) ∧
        serve.stage = .returned ∧ admitted history = 2 ∧
        serve.server.tasks.get 1 = some task ∧
        (GameServer.service 10).logoutAccount task.fields = some 7 :=
    ⟨_, _, _, rfl, rfl, rfl, rfl, rfl⟩
  obtain ⟨serve, history, task, executed, stage, two, present, seven⟩ := runs
  obtain ⟨_, _, _, returned⟩ := connections_accounted (Machine.reaches_of_exec rfl executed)
  obtain ⟨_, count, logged, unlisted⟩ := returned stage
  have calls := (logged 1 task present).2.calls
  rw [seven] at calls
  exact ⟨serve, history, executed, count.trans two, calls, unlisted⟩

end RustGameserver.Servers
