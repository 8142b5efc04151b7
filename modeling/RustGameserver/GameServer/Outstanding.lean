import RustGameserver.GameServer.SingleRequest
import RustGameserver.Session.Backlog

/-!
Contract: the DB and Redis operations that a GameServer session has outstanding.

Owns:
- for which messages `on_remote` starts an operation;
- when the operations outstanding stay within `MAX_MESSAGE_CHANNEL_CAPACITY`, and a
  client that takes them beyond it.

Does not own: how long an operation takes, which the backend decides.
-/

namespace RustGameserver.GameServer

open RustGameserver.Foundation
open RustGameserver.Net
open RustGameserver.Proto
open RustGameserver.Session

/-- A token that is looked up, or a score that is saved. -/
def asksOperation (session : Session) (message : MessageWrapper) : Bool :=
  match message.payload with
  | some (.gameConnectRequest req) => session.account.isNone && !req.authToken.isEmpty
  | some (.gameOverReport _) => session.account.isSome
  | _ => false

namespace Session

variable {session : Session} {now : Nat} {message : MessageWrapper}
  {reaction : Reaction Session Work}

theorem Handles.spawns_eq (handles : session.Handles now message reaction) :
    reaction.spawns = asksOperation session message := by
  cases handles with
  | rejected req asked refused =>
      rcases refused with authenticated | empty
      · simp [asksOperation, asked, Reaction.spawns, Option.isNone_iff_eq_none,
          Option.isSome_iff_ne_none.mp authenticated]
      · simp [asksOperation, asked, Reaction.spawns, empty]
  | lookedUp req asked anonymous nonempty =>
      simp [asksOperation, asked, Reaction.spawns, anonymous, nonempty]
  | reported report account asked authenticated =>
      simp [asksOperation, asked, Reaction.spawns, authenticated]
  | keptAlive asked => simp [asksOperation, asked, Reaction.spawns]
  | moved req account asked | entered req account asked =>
      simp [asksOperation, asked, Reaction.spawns]
  | gated other anonymous =>
      unfold asksOperation
      split
      · next req asked =>
          rw [asked] at other
          contradiction
      · rw [anonymous]
        rfl
      · rfl
  | ignored account other =>
      unfold asksOperation
      split
      · next req asked =>
          rw [asked] at other
          contradiction
      · next report asked =>
          rw [asked] at other
          contradiction
      · rfl

end Session

theorem spawning (keepAliveTimeout : Nat) :
    Spawning (service keepAliveTimeout) asksOperation where
  remote := fun session now message => (session.onRemote_cases now message).spawns_eq
  inner := fun session now result => (session.onInner_cases now result).prompted.2

/-- The operations that a session has outstanding stay within the capacity of its inner
channel, and a request beyond it ends the session, in exactly the runs in which no message
asks for an operation while as many are outstanding as the channel has room for. -/
theorem outstanding_contained_iff (keepAliveTimeout : Nat) (sessionId : SessionId)
    (kick : KickToken) (now : Nat) (events : List (Event Reply)) :
    Contained (service keepAliveTimeout) asksOperation
        (.create (service keepAliveTimeout) sessionId kick now) events ↔
      (machine (service keepAliveTimeout)).recorded.EachStep
        (fun state event => ¬ Overfills asksOperation state event)
        (.create (service keepAliveTimeout) sessionId kick now, []) events :=
  (spawning keepAliveTimeout).contained_iff ⟨sessionId, kick, now, rfl⟩ events

/-! ## A client that does not wait -/

def tokenRequest : MessageWrapper := ⟨0, some (.gameConnectRequest ⟨"token"⟩)⟩

def ask : List (Event Reply) := [.poll false, .select 0 (some (.message tokenRequest))]

/-- A client that asks without waiting for an answer. -/
def insistent (count : Nat) : List (Event Reply) :=
  .greet :: (List.replicate count ask).flatten

/-- Where a session stands after each of these requests. -/
structure Waits (task : Task Session Work Reply InnerMessage) : Prop where
  stage : task.stage = .selecting
  anonymous : task.fields.account = none
  clock : task.clock = 0

variable {task : Task Session Work Reply InnerMessage}

/-- A request is handed to a task, whatever has become of the tasks before. -/
theorem Waits.ask (waits : Waits task) :
    ∃ next seen, (machine (service 10)).exec task GameServer.ask = some (next, seen) ∧
      (spawnedJobs seen).length = 1 ∧ consumed seen = [] ∧ Waits next := by
  have reaction : task.fields.onRemote 0 tokenRequest =
      .spawn task.fields (.takeAuthToken "token") := by
    simp [Session.onRemote, Session.onGameConnectRequest, tokenRequest, waits.anonymous]
  refine ⟨{ task with
    stage := .selecting
    clock := 0
    jobs := task.jobs ++ [⟨[.takeAuthToken "token"], [], .running (.takeAuthToken "token")⟩] },
    [.handled task.fields tokenRequest, .spawned task.jobs.length (.takeAuthToken "token")],
    ?_, rfl, rfl, rfl, waits.anonymous, rfl⟩
  simp [GameServer.ask, Machine.exec, machine, service, Task.step, waits.stage, waits.clock,
    Task.select, Task.onFrame, reaction, Task.perform]

theorem Waits.asks (waits : Waits task) (count : Nat) :
    ∃ next seen, (machine (service 10)).exec task (List.replicate count GameServer.ask).flatten =
        some (next, seen) ∧ (spawnedJobs seen).length = count ∧ consumed seen = [] := by
  induction count generalizing task with
  | zero => exact ⟨task, [], rfl, rfl, rfl⟩
  | succ count inductionHypothesis =>
      obtain ⟨next, seen, first, one, quiet, still⟩ := waits.ask
      obtain ⟨final, rest, later, spawned, nothing⟩ := inductionHypothesis still
      refine ⟨final, seen ++ rest, ?_, ?_, ?_⟩
      · rw [List.replicate_succ, List.flatten_cons]
        exact Machine.exec_append.mpr ⟨next, seen, rest, first, later, rfl⟩
      · rw [spawnedJobs_append, List.length_append, one, spawned, Nat.add_comm]
      · rw [consumed_append, quiet, nothing, List.append_nil]

/-- Nothing keeps a client from having any number of operations outstanding. -/
theorem insistent_unconsumed (count : Nat) :
    ∃ task history,
      (machine (service 10)).exec (.create (service 10) 1 ⟨0⟩ 0) (insistent count) =
        some (task, history) ∧ unconsumed history = count := by
  have greeted : ∃ next seen,
      (machine (service 10)).exec (.create (service 10) 1 ⟨0⟩ 0) [.greet] = some (next, seen) ∧
      (spawnedJobs seen).length = 0 ∧ consumed seen = [] ∧ Waits next :=
    ⟨_, _, rfl, rfl, rfl, rfl, rfl, rfl⟩
  obtain ⟨next, seen, first, none, quiet, waits⟩ := greeted
  obtain ⟨task, rest, later, spawned, nothing⟩ := waits.asks count
  refine ⟨task, seen ++ rest, Machine.exec_append.mpr ⟨next, seen, rest, first, later, rfl⟩, ?_⟩
  rw [unconsumed, spawnedJobs_append, List.length_append, consumed_append, none, quiet, spawned,
    nothing]
  exact Nat.zero_add count

/-- With 1001 requests the capacity is exceeded. -/
theorem outstanding_insistent_false :
    ¬ Contained (service 10) asksOperation (.create (service 10) 1 ⟨0⟩ 0) (insistent 1001) := by
  intro contained
  obtain ⟨task, history, executed, outstanding⟩ := insistent_unconsumed 1001
  have last : Within (task, [] ++ history) :=
    contained.within.last (Machine.recorded_exec [] executed)
  have bounded : unconsumed history ≤ maxMessageChannelCapacity := last
  rw [outstanding] at bounded
  exact absurd bounded (by decide)

end RustGameserver.GameServer
