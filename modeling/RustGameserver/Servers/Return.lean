import Mathlib.Data.Fintype.EquivFin
import RustGameserver.Servers.Serve

/-!
Contract: after the shutdown `serve` comes to its return.

Owns:
- what is left to do before the return, as one number;
- that every step of `serve` itself and every answer to `record_logout` leaves less,
  whatever the clients, the writers, the backend tasks and the AdminApi do in between;
- that there is always such a step, until `serve` has returned;
- that each session waits for at most one more answer of the database.

Does not own: how long a step takes.
-/

namespace RustGameserver.Servers

open RustGameserver.Foundation
open RustGameserver.Net
open RustGameserver.Proto
open RustGameserver.Session

variable {Fields Work Reply Inner : Type} {service : Service Fields Work Reply Inner}
  {before after serve : Serve Fields Work Reply Inner} {event : ServeEvent Reply}
  {history seen : List (ServeSeen Fields Work Reply Inner)}

/-- The step is one of `serve` itself or of `run`, so that it waits for nothing else. -/
def ServeEvent.own : ServeEvent Reply → Bool
  | .incoming .. | .acceptError | .server (.disconnect _) | .server .shutdown => false
  | .rested | .stop | .server .generate | .server (.accept ..) | .waited => true
  | .server (.session _ event) => event.unaided

/-- The session whose call of `touch_last_login` returns. -/
def ServeEvent.answered : ServeEvent Reply → Option SessionId
  | .server (.session sessionId event) => if event.answers then some sessionId else none
  | .incoming .. | .acceptError | .rested | .stop | .waited
  | .server .generate | .server (.accept ..) | .server (.disconnect _) | .server .shutdown => none

/-- The step brings `serve` closer to its return. -/
def ServeEvent.leads (event : ServeEvent Reply) : Bool := event.own || event.answered.isSome

/-- How far the accept loop is from the return. -/
def ServeStage.left : ServeStage → Nat
  | .resting => 3
  | .accepting => 2
  | .waiting => 1
  | .returned => 0

/-- How far `record_logout` is from its return, after the shutdown. -/
def recordingLeft : Option Recording → Nat
  | none => 0
  | some .attempting => 1
  | some .waiting => 2

/-- The last step before `record_logout` leaves that to be done, so these steps count twice. -/
def taskLeft (task : Task Fields Work Reply Inner) : Nat :=
  2 * task.stage.stepsLeft + recordingLeft task.recording

/-- What is left to do before the return. -/
def Serve.left (serve : Serve Fields Work Reply Inner) : Nat :=
  serve.stage.left + 14 * serve.fresh + 13 * serve.drawn.length +
    serve.server.tasks.total taskLeft

/-! ## What a step leaves -/

/-- The accept loop takes what the network has for it. -/
def ServeEvent.accepts : ServeEvent Reply → Bool
  | .incoming .. | .acceptError => true
  | .rested | .stop | .server _ | .waited => false

/-- The ids in the hands of new tasks are theirs alone, and the counter is past them. -/
structure Distinct (serve : Serve Fields Work Reply Inner) : Prop where
  nodup : serve.drawn.Nodup
  counted : ∀ sessionId ∈ serve.drawn, 0 < sessionId ∧ sessionId ≤ serve.server.nextId
  unused : ∀ sessionId ∈ serve.drawn, serve.server.tasks.get sessionId = none
  past : ∀ sessionId task, serve.server.tasks.get sessionId = some task →
    sessionId ≤ serve.server.nextId

namespace Distinct

/-- A step that leaves the ids alone. -/
theorem kept (distinct : Distinct before) (drawn : after.drawn = before.drawn)
    (nextId : after.server.nextId = before.server.nextId)
    (tasks : ∀ sessionId, after.server.tasks.get sessionId = none ↔
      before.server.tasks.get sessionId = none) : Distinct after where
  nodup := by rw [drawn]; exact distinct.nodup
  counted := by rw [drawn, nextId]; exact distinct.counted
  unused := fun sessionId member => by
    rw [drawn] at member
    exact (tasks sessionId).mpr (distinct.unused sessionId member)
  past := fun sessionId task present => by
    rw [nextId]
    cases was : before.server.tasks.get sessionId with
    | none =>
        rw [(tasks sessionId).mpr was] at present
        contradiction
    | some old => exact distinct.past sessionId old was

/-- A new id is none of those before. -/
theorem draws (distinct : Distinct before)
    (room : before.server.nextId < generate before.server.nextId)
    (drawn : after.drawn = before.drawn ++ [generate before.server.nextId])
    (nextId : after.server.nextId = generate before.server.nextId)
    (tasks : after.server.tasks = before.server.tasks) : Distinct after := by
  have grown : ∀ {sessionId : SessionId}, sessionId ≤ before.server.nextId →
      sessionId ≤ generate before.server.nextId := fun early =>
    UInt64.le_of_lt (UInt64.lt_of_le_of_lt early room)
  constructor
  · rw [drawn]
    refine List.nodup_append.mpr ⟨distinct.nodup, List.nodup_singleton _, ?_⟩
    intro sessionId member other last
    rw [List.mem_singleton.mp last]
    rintro rfl
    exact UInt64.not_lt.mpr (distinct.counted _ member).2 room
  · intro sessionId member
    rw [drawn] at member
    rw [nextId]
    rcases List.mem_append.mp member with member | last
    · exact ⟨(distinct.counted _ member).1, grown (distinct.counted _ member).2⟩
    · rw [List.mem_singleton.mp last]
      exact ⟨UInt64.lt_of_le_of_lt UInt64.zero_le room, UInt64.le_refl _⟩
  · intro sessionId member
    rw [drawn] at member
    rw [tasks]
    rcases List.mem_append.mp member with member | last
    · exact distinct.unused _ member
    · rw [Option.eq_none_iff_forall_not_mem]
      intro task present
      rw [List.mem_singleton.mp last] at present
      exact UInt64.not_lt.mpr (distinct.past _ task present) room
  · intro sessionId task present
    rw [tasks] at present
    rw [nextId]
    exact grown (distinct.past sessionId task present)

/-- A task that registers gives its id to its session. -/
theorem registers (distinct : Distinct before) {sessionId : SessionId}
    (member : sessionId ∈ before.drawn) (task : Task Fields Work Reply Inner)
    (drawn : after.drawn = before.drawn.erase sessionId)
    (nextId : after.server.nextId = before.server.nextId)
    (tasks : after.server.tasks = before.server.tasks.insert sessionId task) : Distinct after := by
  have others : ∀ other ∈ before.drawn.erase sessionId, other ∈ before.drawn ∧ other ≠ sessionId :=
    fun other kept => (distinct.nodup.mem_erase_iff.mp kept).symm
  constructor
  · rw [drawn]
    exact distinct.nodup.erase sessionId
  · intro other kept
    rw [drawn] at kept
    rw [nextId]
    exact distinct.counted other (others other kept).1
  · intro other kept
    rw [drawn] at kept
    rw [tasks, FiniteMap.get_insert, if_neg (others other kept).2]
    exact distinct.unused other (others other kept).1
  · intro other found present
    rw [tasks, FiniteMap.get_insert] at present
    rw [nextId]
    split at present
    · next same =>
        rw [same]
        exact (distinct.counted sessionId member).2
    · exact distinct.past other found present

theorem moved (distinct : Distinct before) {serverEvent : ServerEvent Reply}
    {prepared : Serve Fields Work Reply Inner} {next : ServerState Fields Work Reply Inner}
    {made : List (ServerSeen Fields Work Reply Inner)}
    (ready : before.prepare serverEvent = some prepared)
    (taken : (server service).step before.server serverEvent = some (next, made)) :
    Distinct { prepared with server := next } := by
  cases serverEvent with
  | generate =>
      simp only [Serve.prepare, Option.ite_none_right_eq_some, Option.some.injEq] at ready
      obtain ⟨_, rfl⟩ := ready
      simp only [server, ServerState.step, Option.ite_none_right_eq_some, Option.some.injEq,
        Prod.mk.injEq] at taken
      obtain ⟨room, rfl, rfl⟩ := taken
      exact distinct.draws room rfl rfl rfl
  | accept sessionId kick now =>
      simp only [Serve.prepare, Option.ite_none_right_eq_some, Option.some.injEq] at ready
      obtain ⟨member, rfl⟩ := ready
      cases server_step_cases taken with
      | accepted =>
          exact distinct.registers member (.create service sessionId kick now) rfl rfl rfl
  | session sessionId own =>
      rw [Serve.prepare, Option.some.injEq] at ready
      subst ready
      cases server_step_cases taken with
      | @moved next made _ _ task present =>
          refine distinct.kept rfl (observeAll_unmoved _ sessionId task.kick made).2 fun other => ?_
          rw [moved_tasks]
          split
          · next same =>
              rw [same, present]
              simp
          · rfl
  | disconnect sessionId =>
      rw [Serve.prepare, Option.some.injEq] at ready
      subst ready
      cases server_step_cases taken with
      | disconnected => exact distinct.kept rfl rfl fun _ => Iff.rfl
  | shutdown =>
      rw [Serve.prepare, Option.some.injEq] at ready
      subst ready
      cases server_step_cases taken with
      | shutDown => exact distinct.kept rfl rfl fun _ => Iff.rfl

theorem stepped (distinct : Distinct before)
    (stepped : ServeStepped service before event after seen) : Distinct after := by
  cases stepped with
  | connected | failed | rested | stopped | ended =>
      exact distinct.kept rfl rfl fun _ => Iff.rfl
  | moved event ready taken => exact distinct.moved ready taken

end Distinct

instance : Infinite KickToken :=
  Infinite.of_injective KickToken.mk fun _ _ same => KickToken.mk.inj same

/-- The database answers the session in `record_logout`, after the shutdown. -/
def touched (verdicts : SessionId → Bool) (sessionId : SessionId) : ServeEvent Reply :=
  .server (.session sessionId (.record (.answered (verdicts sessionId) true)))

/-- The ids that are still to be drawn do not make the counter wrap around. -/
def Serve.Room (serve : Serve Fields Work Reply Inner) : Prop :=
  serve.server.nextId.toNat + serve.fresh < 2 ^ 64

theorem room_draw {nextId : UInt64} {fresh : Nat} (room : nextId.toNat + fresh < 2 ^ 64)
    (waits : 0 < fresh) : (generate nextId).toNat = nextId.toNat + 1 := by
  have one : (1 : UInt64).toNat = 1 := rfl
  rw [generate, UInt64.toNat_add, one]
  exact Nat.mod_eq_of_lt (by omega)

theorem Serve.Room.step (room : before.Room) (quiet : event.accepts = false)
    (stepped : ServeStepped service before event after seen) : after.Room := by
  cases stepped with
  | connected | failed => contradiction
  | rested | stopped | ended => exact room
  | moved event ready taken =>
      cases server_step_cases taken with
      | drawn =>
          simp only [Serve.prepare, Option.ite_none_right_eq_some, Option.some.injEq] at ready
          obtain ⟨waits, rfl⟩ := ready
          have next := room_draw room waits
          rw [Serve.Room] at room
          show (generate before.server.nextId).toNat + (before.fresh - 1) < 2 ^ 64
          omega
      | accepted sessionId kick now =>
          simp only [Serve.prepare, Option.ite_none_right_eq_some, Option.some.injEq] at ready
          obtain ⟨_, rfl⟩ := ready
          exact room
      | @moved next made sessionId own task =>
          rw [Serve.prepare, Option.some.injEq] at ready
          subst ready
          show (ServerState.observeAll _ sessionId task.kick made).1.nextId.toNat + _ < 2 ^ 64
          rw [(observeAll_unmoved _ sessionId task.kick made).2]
          exact room
      | disconnected | shutDown =>
          rw [Serve.prepare, Option.some.injEq] at ready
          subst ready
          exact room

end RustGameserver.Servers
