import RustGameserver.DummyClient.Discipline
import RustGameserver.Foundation.Headcount

/-!
Contract: `Counters` of `dummy_client::client`, which all clients of a load test
share.

Owns:
- `run` with its updates of the counters, one step for each atomic operation, over
  `login_phase` and `game_phase`;
- any number of clients, their steps interleaved;
- that the counters are the head counts of the phases, at every point.

Does not own: `snapshot`, whose three readings are separate as well.
-/

namespace RustGameserver.DummyClient

open RustGameserver.Foundation
open RustGameserver.Proto

/-! ## The counters -/

inductive Counter where
  | loginServer
  | gameServer
  | disconnected
deriving DecidableEq, Repr

/-- `Counters`.  An `AtomicI64` wraps around. -/
structure Counters where
  loginServer : Int64
  gameServer : Int64
  disconnected : Int64
deriving DecidableEq, Repr

/-- One atomic operation, by one. -/
inductive Update where
  | fetchAdd (counter : Counter)
  | fetchSub (counter : Counter)
deriving DecidableEq, Repr

namespace Counters

/-- `Counters::default`. -/
def default : Counters := ⟨0, 0, 0⟩

def load (counters : Counters) : Counter → Int64
  | .loginServer => counters.loginServer
  | .gameServer => counters.gameServer
  | .disconnected => counters.disconnected

def add (counters : Counters) (counter : Counter) (delta : Int64) : Counters :=
  match counter with
  | .loginServer => { counters with loginServer := counters.loginServer + delta }
  | .gameServer => { counters with gameServer := counters.gameServer + delta }
  | .disconnected => { counters with disconnected := counters.disconnected + delta }

def update (counters : Counters) : Update → Counters
  | .fetchAdd counter => counters.add counter 1
  | .fetchSub counter => counters.add counter (-1)

theorem load_add (counters : Counters) (counter other : Counter) (delta : Int64) :
    (counters.add counter delta).load other =
      counters.load other + if counter = other then delta else 0 := by
  cases counter <;> cases other <;> simp [add, load]

end Counters

/-- `on_login_started`. -/
def onLoginStarted : List Update := [.fetchAdd .loginServer]

/-- `on_moved_to_game`. -/
def onMovedToGame : List Update := [.fetchSub .loginServer, .fetchAdd .gameServer]

/-- `on_disconnected`. -/
def onDisconnected (phase : Phase) : List Update :=
  let counter := match phase with
    | .loginServer => Counter.loginServer
    | .gameServer => Counter.gameServer
  [.fetchSub counter, .fetchAdd .disconnected]

/-! ## The clients -/

/-- One call of `run`, with the updates it makes before it goes on. -/
structure Run where
  userId : String
  client : Client
  pending : List Update
deriving DecidableEq

namespace Run

def start (accountIndex : Nat) : Run :=
  ⟨DummyClient.userId accountIndex, .loginPhase, onLoginStarted⟩

/-- What `run` does when `login_phase` or `game_phase` has returned. -/
def updatesBetween : Client → Client → List Update
  | .loginPhase, .connecting _ => onMovedToGame
  | .loginPhase, .finished _ => onDisconnected .loginServer
  | .connecting _, .finished _ | .gamePhase _, .finished _ => onDisconnected .gameServer
  | _, _ => []

/-- What `run` has returned. -/
def returned (run : Run) : Option Finished :=
  match run.client, run.pending with
  | .finished finished, [] => some finished
  | _, _ => none

end Run

structure LoadTest where
  counters : Counters
  runs : List Run
deriving DecidableEq

inductive LoadTestEvent where
  | start (accountIndex : Nat)
  | update (run : Nat)
  | client (run : Nat) (event : ClientEvent)
deriving DecidableEq, Repr

namespace LoadTest

variable (settings : ClientSettings) (state : LoadTest)

/-- The next atomic operation of a run. -/
def update (index : Nat) : Option LoadTest :=
  match state.runs[index]? with
  | none => none
  | some run =>
      match run.pending with
      | [] => none
      | update :: pending =>
          some ⟨state.counters.update update, state.runs.set index { run with pending }⟩

/-- A run goes on in `login_phase` or `game_phase`. -/
def advance (index : Nat) (event : ClientEvent) : Option (LoadTest × List (Nat × ClientSeen)) :=
  match state.runs[index]? with
  | none => none
  | some run =>
      if run.pending = [] then
        (run.client.step settings run.userId event).map fun (client, seen) =>
          let run := { run with client, pending := Run.updatesBetween run.client client }
          ({ state with runs := state.runs.set index run }, seen.map (Prod.mk index))
      else none

def step : LoadTestEvent → Option (LoadTest × List (Nat × ClientSeen))
  | .start accountIndex => some ({ state with runs := state.runs ++ [.start accountIndex] }, [])
  | .update index => (state.update index).map fun after => (after, [])
  | .client index event => state.advance settings index event

end LoadTest

/-- The clients of a load test as a machine. -/
def loadTest (settings : ClientSettings) :
    Machine LoadTest LoadTestEvent (Nat × ClientSeen) where
  Initial := fun state => state = ⟨.default, []⟩
  step := LoadTest.step settings

/-! ## Where a run is counted -/

/-- The counter that a client in this place belongs to. -/
def Client.home : Client → Counter
  | .loginPhase => .loginServer
  | .connecting _ | .gamePhase _ => .gameServer
  | .finished _ => .disconnected

/-- The counter that counts the run, if one does. -/
def Run.position (run : Run) : Option Counter :=
  match run.pending with
  | [] => some run.client.home
  | .fetchAdd _ :: _ => none
  | .fetchSub counter :: _ => some counter

section Position

variable {run : Run} {counter : Counter}

theorem Run.position_settled (pending : run.pending = []) :
    run.position = some run.client.home := by
  rw [position, pending]

theorem Run.position_arriving (pending : run.pending = [.fetchAdd counter]) :
    run.position = none := by
  rw [position, pending]

theorem Run.position_leaving {later : List Update}
    (pending : run.pending = .fetchSub counter :: later) : run.position = some counter := by
  rw [position, pending]

end Position

/-- A run is where it belongs, or on the way there. -/
inductive Run.Sound (run : Run) : Prop where
  | settled (pending : run.pending = [])
  | arriving (pending : run.pending = [.fetchAdd run.client.home])
  | leaving (counter : Counter)
      (pending : run.pending = [.fetchSub counter, .fetchAdd run.client.home])

/-- Where a client can go in one step. -/
inductive Leads : Client → Client → Prop where
  | waits : Leads .loginPhase .loginPhase
  | loggedIn (authToken : String) : Leads .loginPhase (.connecting authToken)
  | failed (finished : Finished) : Leads .loginPhase (.finished finished)
  | connected (authToken : String) (game : GamePhase) :
      Leads (.connecting authToken) (.gamePhase game)
  | unreachable (authToken : String) (finished : Finished) :
      Leads (.connecting authToken) (.finished finished)
  | plays (before after : GamePhase) : Leads (.gamePhase before) (.gamePhase after)
  | ended (game : GamePhase) (finished : Finished) :
      Leads (.gamePhase game) (.finished finished)

variable {settings : ClientSettings} {userId : String} {before after : Client}

theorem Hears.leads {message : MessageWrapper} {phase : Phase} {answer : Answer}
    (hears : Hears settings userId message before phase answer) (sending : Sending) :
    Leads before (answer.conclude phase sending).1 := by
  rcases (conclude_cases answer phase sending).1 with same | ⟨finished, broken⟩
  · rw [same]
    cases hears with
    | asksLogin | waits => exact .waits
    | loggedIn authToken => exact .loggedIn authToken
    | asksGame game | authenticated game | ignores game => exact .plays game _
  · rw [broken]
    cases hears with
    | asksLogin | waits | loggedIn => exact .failed finished
    | asksGame game | authenticated game | ignores game => exact .ended game finished

theorem Acts.leads {game : GamePhase} {answer : Answer} (acts : Acts game answer)
    (phase : Phase) (sending : Sending) :
    Leads (.gamePhase game) (answer.conclude phase sending).1 := by
  rcases (conclude_cases answer phase sending).1 with same | ⟨finished, broken⟩
  · rw [same]
    cases acts <;> exact .plays game _
  · rw [broken]
    exact .ended game finished

theorem client_leads {event : ClientEvent} {seen : List ClientSeen}
    (taken : before.step settings userId event = some (after, seen)) : Leads before after := by
  cases event with
  | cancelled =>
      cases before with
      | loginPhase =>
          cases taken
          exact .failed _
      | gamePhase game =>
          cases taken
          exact .ended game _
      | connecting | finished => contradiction
  | next now frame sending =>
      simp only [Client.step] at taken
      split at taken
      · cases taken
        exact .failed _
      · next message =>
          cases taken
          exact (onLoginMessage_cases message).leads sending
      · next game =>
          cases taken
          exact .ended game _
      · next game message =>
          cases taken
          have hears : Hears settings userId message (.gamePhase game) .gameServer _ :=
            onMessage_cases game now message
          exact hears.leads sending
      · contradiction
      · contradiction
  | connect ok =>
      simp only [Client.step] at taken
      split at taken
      · next authToken =>
          cases taken
          split
          · exact .connected authToken _
          · exact .unreachable authToken _
      all_goals contradiction
  | tick now sending =>
      simp only [Client.step] at taken
      split at taken
      · next game =>
          obtain ⟨answer, ticked, outcome⟩ := Option.map_eq_some_iff.mp taken
          obtain ⟨rfl, rfl⟩ := Prod.ext_iff.mp outcome
          exact (onTick_cases ticked).leads .gameServer sending
      all_goals contradiction
  | recvMove dx dy sending =>
      simp only [Client.step] at taken
      split at taken
      · next game =>
          rw [Option.some.injEq] at taken
          obtain ⟨rfl, rfl⟩ := Prod.ext_iff.mp taken
          exact (onMove_cases game dx dy).leads .gameServer sending
      all_goals contradiction

/-- On every way out of a phase `run` takes the client from the counter it belonged to
over to the one it belongs to now. -/
theorem Leads.updates (leads : Leads before after) :
    Run.updatesBetween before after =
      if before.home = after.home then []
      else [.fetchSub before.home, .fetchAdd after.home] := by
  cases leads <;> rfl

/-- A client that has gone on is still counted where it was. -/
theorem Leads.sound (leads : Leads before after) (userId : String) :
    (Run.mk userId after (Run.updatesBetween before after)).Sound ∧
      (Run.mk userId after (Run.updatesBetween before after)).position = some before.home := by
  rw [leads.updates]
  by_cases same : before.home = after.home
  · rw [if_pos same, same]
    exact ⟨.settled rfl, rfl⟩
  · rw [if_neg same]
    exact ⟨.leaving before.home rfl, rfl⟩

/-! ## The invariant -/

def LoadTest.positions (state : LoadTest) : List (Option Counter) :=
  state.runs.map Run.position

/-- Every counter is the head count of its place, as far as an `i64` can say. -/
structure Counted (state : LoadTest) : Prop where
  sound : ∀ run ∈ state.runs, run.Sound
  counted : ∀ counter,
    state.counters.load counter = .ofNat (headcount counter state.positions)

variable {state next : LoadTest} {index : Nat} {run : Run}

theorem int64_add (count : Nat) (here : Prop) [Decidable here] :
    Int64.ofNat (count + if here then 1 else 0) = .ofNat count + if here then 1 else 0 := by
  split
  · exact Int64.ofNat_add count 1
  · simp

/-- Where everyone is when one run has changed. -/
theorem LoadTest.positions_set (state : LoadTest) (counters : Counters) (index : Nat)
    (run : Run) : (LoadTest.mk counters (state.runs.set index run)).positions =
      state.positions.set index run.position :=
  List.map_set

theorem LoadTest.positions_get (present : state.runs[index]? = some run) :
    state.positions[index]? = some run.position := by
  rw [positions, List.getElem?_map, present, Option.map_some]

/-- A run that is sound takes the place of another one. -/
theorem Counted.replace {counters : Counters} (known : Counted state) (sound : run.Sound)
    (counted : ∀ counter, counters.load counter =
      .ofNat (headcount counter (state.positions.set index run.position))) :
    Counted ⟨counters, state.runs.set index run⟩ where
  sound := by
    intro other member
    rcases List.mem_or_eq_of_mem_set member with old | rfl
    · exact known.sound other old
    · exact sound
  counted := by
    intro counter
    rw [LoadTest.positions_set]
    exact counted counter

theorem Counted.start (known : Counted state) (accountIndex : Nat) :
    Counted { state with runs := state.runs ++ [.start accountIndex] } where
  sound := by
    intro run member
    rw [List.mem_append, List.mem_singleton] at member
    rcases member with old | rfl
    · exact known.sound run old
    · exact .arriving rfl
  counted := by
    intro counter
    have positions : ({ state with runs := state.runs ++ [.start accountIndex] } :
        LoadTest).positions = state.positions ++ [none] := List.map_append
    rw [positions, Headcount.join]
    exact known.counted counter

/-- One atomic operation takes one run from or to a counter. -/
theorem Counted.update (known : Counted state) (taken : state.update index = some next) :
    Counted next := by
  unfold LoadTest.update at taken
  split at taken
  · contradiction
  · next run present =>
      split at taken
      · contradiction
      · next update pending shape =>
          cases taken
          have there := LoadTest.positions_get present
          cases known.sound run (List.mem_of_getElem? present) with
          | settled nothing =>
              rw [nothing] at shape
              contradiction
          | arriving only =>
              rw [only] at shape
              cases shape
              rw [Run.position_arriving only] at there
              refine known.replace (.settled rfl) fun counter => ?_
              show _ = Int64.ofNat (headcount counter
                (state.positions.set index (some run.client.home)))
              rw [Headcount.arrive there, int64_add, ← known.counted]
              exact state.counters.load_add _ counter 1
          | leaving place both =>
              rw [both] at shape
              cases shape
              rw [Run.position_leaving both] at there
              refine known.replace (.arriving rfl) fun counter => ?_
              have before := known.counted counter
              rw [Headcount.leave there, int64_add] at before
              show (state.counters.add place (-1)).load counter =
                Int64.ofNat (headcount counter (state.positions.set index none))
              rw [Counters.load_add, before]
              split
              · rw [← Int64.sub_eq_add_neg, Int64.add_sub_cancel]
              · rw [Int64.add_zero, Int64.add_zero]

/-- What a client does between two operations leaves it where it is counted. -/
theorem Counted.advance {event : ClientEvent} {seen : List (Nat × ClientSeen)}
    (known : Counted state) (taken : state.advance settings index event = some (next, seen)) :
    Counted next := by
  unfold LoadTest.advance at taken
  split at taken
  · contradiction
  · next run present =>
      rw [Option.ite_none_right_eq_some] at taken
      obtain ⟨settled, moved⟩ := taken
      obtain ⟨⟨client, made⟩, stepped, outcome⟩ := Option.map_eq_some_iff.mp moved
      cases outcome
      have there := LoadTest.positions_get present
      rw [Run.position_settled settled] at there
      obtain ⟨sound, still⟩ := (client_leads stepped).sound run.userId
      refine known.replace sound fun counter => ?_
      obtain ⟨inside, was⟩ := List.getElem?_eq_some_iff.mp there
      rw [still, ← was, List.set_getElem_self]
      exact known.counted counter

theorem reaches_counted {history : List (Nat × ClientSeen)}
    (reached : (loadTest settings).Reaches state history) : Counted state := by
  apply reached.invariant
  · rintro start rfl
    exact ⟨by simp, fun counter => by cases counter <;> rfl⟩
  · intro before history event after seen _ known taken
    cases event with
    | start accountIndex =>
        cases taken
        exact known.start accountIndex
    | update index =>
        obtain ⟨after, updated, outcome⟩ := Option.map_eq_some_iff.mp taken
        cases outcome
        exact known.update updated
    | client index event => exact known.advance taken

/-! ## What the monitor can rely on -/

/-- All runs that have been started have returned. -/
def LoadTest.Returned (state : LoadTest) : Prop :=
  ∀ run ∈ state.runs, run.returned.isSome = true

/-- The counters as numbers. -/
def Counters.values (counters : Counters) : Int × Int × Int :=
  (counters.loginServer.toInt, counters.gameServer.toInt, counters.disconnected.toInt)

theorem Run.position_returned {run : Run} (returned : run.returned.isSome = true) :
    run.position = some .disconnected := by
  unfold Run.returned at returned
  split at returned
  · next finished client pending =>
      rw [position_settled pending, client]
      rfl
  · contradiction

/-- What the counters count. -/
theorem Counted.counts (known : Counted state) :
    ∃ login game disconnected : Nat,
      state.counters = ⟨.ofNat login, .ofNat game, .ofNat disconnected⟩ ∧
      login + game + disconnected ≤ state.runs.length ∧
      (state.Returned → login = 0 ∧ game = 0 ∧ disconnected = state.runs.length) := by
  have length : state.positions.length = state.runs.length := List.length_map _
  refine ⟨headcount .loginServer state.positions, headcount .gameServer state.positions,
    headcount .disconnected state.positions, ?_, ?_, ?_⟩
  · rw [← known.counted, ← known.counted, ← known.counted]
    rfl
  · have bound := Headcount.sum_le (by decide :
      [Counter.loginServer, .gameServer, .disconnected].Nodup) state.positions
    simp only [List.map_cons, List.map_nil, List.sum_cons, List.sum_nil] at bound
    omega
  · intro returned
    have home : ∀ position ∈ state.positions, position = some Counter.disconnected := by
      intro position member
      obtain ⟨run, among, rfl⟩ := List.mem_map.mp member
      exact Run.position_returned (returned run among)
    rw [Headcount.all_at home, Headcount.all_at home, Headcount.all_at home, length]
    exact ⟨rfl, rfl, rfl⟩

/-- Whatever number of clients has been started, and however their atomic operations
interleave, the counters for LoginServer and GameServer lie between zero and that number,
the three together come to no more than it, and when all of them have returned they are
all counted as disconnected.  An `i64` tells these numbers apart up to its largest
value. -/
theorem counters_consistent {history : List (Nat × ClientSeen)}
    (reached : (loadTest settings).Reaches state history) :
    (∃ login game disconnected : Nat,
      state.counters = ⟨.ofNat login, .ofNat game, .ofNat disconnected⟩ ∧
      login + game + disconnected ≤ state.runs.length ∧
      (state.Returned → login = 0 ∧ game = 0 ∧ disconnected = state.runs.length)) ∧
    ∀ number : Nat, state.runs.length ≤ number → (number : Int) ≤ Int64.maxValue.toInt →
      ∃ login game disconnected : Int,
        state.counters.values = (login, game, disconnected) ∧
        0 ≤ login ∧ login ≤ number ∧ 0 ≤ game ∧ game ≤ number ∧
        login + game + disconnected ≤ state.runs.length ∧
        (state.runs.length = number → state.Returned →
          login = 0 ∧ game = 0 ∧ disconnected = number) := by
  have counts := (reaches_counted reached).counts
  refine ⟨counts, fun number started fits => ?_⟩
  obtain ⟨login, game, disconnected, counters, total, final⟩ := counts
  rw [Int64.toInt_maxValue] at fits
  refine ⟨login, game, disconnected, ?_, by omega, by omega, by omega, by omega, by omega, ?_⟩
  · rw [counters, Counters.values, Int64.toInt_ofNat_of_lt (by omega),
      Int64.toInt_ofNat_of_lt (by omega), Int64.toInt_ofNat_of_lt (by omega)]
  · intro all returned
    have ended := final returned
    omega

/-- Two clients, the operations of one between those of the other: one is shut down in
its login phase, one does not reach GameServer. -/
def interleaved : List LoadTestEvent :=
  [.start 1, .start 2, .update 0, .update 1,
    .client 0 (.next 0 (some ⟨0, some (.loginResponse ⟨true, 0, "token"⟩)⟩) .done),
    .client 1 .cancelled, .update 0, .update 1, .update 1, .update 0,
    .client 0 (.connect false), .update 0, .update 0]

theorem counters_consistent_interleaved :
    ∃ state history,
      (loadTest ⟨[1]⟩).exec ⟨.default, []⟩ interleaved = some (state, history) ∧
      state.counters.values = (0, 0, 2) := by
  have runs : ∃ state history,
      (loadTest ⟨[1]⟩).exec ⟨.default, []⟩ interleaved = some (state, history) ∧
      state.runs.length = 2 ∧ (state.runs.all fun run => run.returned.isSome) = true :=
    ⟨_, _, rfl, rfl, rfl⟩
  obtain ⟨state, history, executed, two, ended⟩ := runs
  have start : (loadTest ⟨[1]⟩).Initial ⟨.default, []⟩ := rfl
  obtain ⟨login, game, disconnected, values, _, _, _, _, _, final⟩ :=
    (counters_consistent (Machine.reaches_of_exec start executed)).2 2 two.le (by decide)
  obtain ⟨rfl, rfl, rfl⟩ := final two (List.all_eq_true.mp ended)
  exact ⟨state, history, executed, values⟩

end RustGameserver.DummyClient
