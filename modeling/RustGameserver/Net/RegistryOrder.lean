import Mathlib.Logic.Relation
import RustGameserver.Net.RegistryRuns

/-!
Contract: the cleanup of one session and the login of another, in either order.

Owns:
- that both orders lead to the same maps, from every registry state;
- the tokens the two orders cancel;
- the same for any other call of another session;
- runs in which removals are moved past the calls of other sessions.

Does not own: which order the tasks come to run in.
-/

namespace RustGameserver.Net

open RustGameserver.Foundation

/-! ## Two calls -/

/-- The session that a call is about. -/
def RegistryCall.sessionId : RegistryCall → SessionId
  | .register sessionId _ | .authenticate sessionId _ | .remove sessionId |
    .disconnect sessionId => sessionId

namespace SessionRegistry

theorem eq_of_lookups {left right : SessionRegistry}
    (sessions : ∀ sessionId, left.sessions.get sessionId = right.sessions.get sessionId)
    (authenticated : ∀ userId, left.authenticated.get userId = right.authenticated.get userId) :
    left = right := by
  rw [SessionRegistry.mk.injEq]
  exact ⟨FiniteMap.ext sessions, FiniteMap.ext authenticated⟩

variable (registry : SessionRegistry) {old new : SessionId}

/-- Neither call looks at what the other one changes: `remove` deletes the mapping
of a user id only while it points to the removed session, and `authenticate`
overwrites it in any case. -/
theorem remove_authenticate (different : old ≠ new) (userId : String) :
    ((registry.remove old).authenticate new userId).1 =
      (registry.authenticate new userId).1.remove old := by
  have entry : (registry.authenticate new userId).1.sessions.get old =
      registry.sessions.get old := by
    rw [authenticate_sessions, if_neg different]
  apply eq_of_lookups
  · intro sessionId
    rw [authenticate_sessions, remove_sessions, remove_sessions, remove_sessions,
      authenticate_sessions, if_neg different.symm]
    by_cases mine : sessionId = new
    · rw [if_pos mine, if_pos mine, if_neg (by rw [mine]; exact different.symm)]
    · rw [if_neg mine, if_neg mine]
  · intro other
    rw [authenticate_authenticated, remove_authenticated, remove_authenticated, entry,
      authenticate_authenticated]
    by_cases own : other = userId
    · have kept : ¬ some new = some old := by simpa using different.symm
      rw [if_pos own, if_pos own, if_neg fun both => kept both.2]
    · rw [if_neg own, if_neg own]

/-- A later removal leaves the other session's login to cancel the removed
session's token; every other token is cancelled in both orders or in none. -/
theorem authenticate_cancels_remove (different : old ≠ new) (userId : String) :
    (registry.authenticate new userId).2 = ((registry.remove old).authenticate new userId).2 ∨
      ((registry.remove old).authenticate new userId).2 = [] ∧
        ∃ entry, registry.sessions.get old = some entry ∧
          (registry.authenticate new userId).2 = [entry.kick] := by
  by_cases mapped : registry.authenticated.get userId = some old
  · -- whether or not the mapping survives the removal, it leads to no entry
    have held : (registry.remove old).authenticated.get userId = none ∨
        (registry.remove old).authenticated.get userId = some old := by
      rw [remove_authenticated, mapped]
      split
      · exact Or.inl rfl
      · exact Or.inr rfl
    have early : ((registry.remove old).authenticate new userId).2 = [] := by
      rw [authenticate_cancels]
      rcases held with unmapped | stale
      · rw [unmapped]
      · simp [stale, remove_sessions]
    have late : (registry.authenticate new userId).2 =
        ((registry.sessions.get old).map Entry.kick).toList := by
      rw [authenticate_cancels, mapped]
      simp only [if_neg different]
    rw [early, late]
    cases present : registry.sessions.get old with
    | none => exact Or.inl rfl
    | some entry => exact Or.inr ⟨rfl, entry, rfl, rfl⟩
  · left
    rw [authenticate_cancels, authenticate_cancels, remove_authenticated,
      if_neg fun both => mapped both.2]
    cases held : registry.authenticated.get userId with
    | none => rfl
    | some holder =>
        have other : holder ≠ old := by
          rintro rfl
          exact mapped held
        simp only [remove_sessions, if_neg other]

/-- A removal and any call of another session lead to the same registry in both
orders. -/
theorem remove_perform {call : RegistryCall} (different : old ≠ call.sessionId) :
    ((registry.remove old).perform call).1 = (registry.perform call).1.remove old := by
  cases call with
  | register new kick =>
      replace different : old ≠ new := different
      have entry : (registry.register new kick).sessions.get old = registry.sessions.get old := by
        rw [register_sessions, if_neg different]
      apply eq_of_lookups
      · intro sessionId
        simp only [perform, register_sessions, remove_sessions]
        by_cases mine : sessionId = new
        · rw [if_pos mine, if_neg (by rw [mine]; exact different.symm), if_pos mine]
        · rw [if_neg mine, if_neg mine]
      · intro userId
        simp only [perform, remove_authenticated, entry]
        exact registry.remove_authenticated old userId
  | authenticate new userId => exact registry.remove_authenticate different userId
  | remove new =>
      replace different : old ≠ new := different
      have left : (registry.remove old).sessions.get new = registry.sessions.get new := by
        rw [remove_sessions, if_neg different.symm]
      have right : (registry.remove new).sessions.get old = registry.sessions.get old := by
        rw [remove_sessions, if_neg different]
      apply eq_of_lookups
      · intro sessionId
        simp only [perform, remove_sessions]
        by_cases mine : sessionId = new
        · simp [mine]
        · simp [mine]
      · intro userId
        -- a user id is mapped to one of the two sessions at most
        simp only [perform, remove_authenticated, left, right]
        by_cases mapped : registry.authenticated.get userId = some old
        · simp [mapped, different]
        · simp [mapped]
  | disconnect new => rfl

/-- Only an authentication can cancel the token of the removed session. -/
theorem perform_cancels_remove {call : RegistryCall} (different : old ≠ call.sessionId) :
    (registry.perform call).2 = ((registry.remove old).perform call).2 ∨
      ((registry.remove old).perform call).2 = [] ∧
        ∃ entry, registry.sessions.get old = some entry ∧
          (registry.perform call).2 = [entry.kick] := by
  cases call with
  | register new kick => exact Or.inl rfl
  | authenticate new userId => exact registry.authenticate_cancels_remove different userId
  | remove new => exact Or.inl rfl
  | disconnect new =>
      left
      replace different : old ≠ new := different
      simp only [perform, disconnect_cancels, remove_sessions, if_neg different.symm]

end SessionRegistry

/-! ## Runs -/

/-- All tokens that the calls of a run have cancelled. -/
def kicked (history : List CallSeen) : List KickToken :=
  history.flatMap CallSeen.cancelled

/-- The tokens a call hands to the registry. -/
def RegistryCall.hands : RegistryCall → List KickToken
  | .register _ kick => [kick]
  | .authenticate .. | .remove _ | .disconnect _ => []

theorem RegistryState.step_eq (state : RegistryState) (call : RegistryCall) :
    state.step call =
      if ∀ kick ∈ call.hands, kick ∉ state.kicks then
        some (⟨(state.registry.perform call).1, call.hands ++ state.kicks⟩,
          [⟨call, (state.registry.perform call).2⟩])
      else none := by
  cases call with
  | register sessionId kick => simp [RegistryState.step, RegistryCall.hands]
  | authenticate sessionId userId => simp [RegistryState.step, RegistryCall.hands]
  | remove sessionId => simp [RegistryState.step, RegistryCall.hands]
  | disconnect sessionId => simp [RegistryState.step, RegistryCall.hands]

/-- One removal changes places with a call of another session next to it. -/
inductive Exchanged : List RegistryCall → List RegistryCall → Prop where
  | exchange (front back : List RegistryCall) {old : SessionId} {call : RegistryCall}
      (different : old ≠ call.sessionId) :
      Exchanged (front ++ .remove old :: call :: back) (front ++ call :: .remove old :: back)

/-- Removals are moved past the calls of other sessions, any number of them and in
either direction. -/
def Reordered (calls moved : List RegistryCall) : Prop :=
  Relation.EqvGen Exchanged calls moved

/-- No session carries the token, and none can be given it any more. -/
structure Retired (state : RegistryState) (kick : KickToken) : Prop where
  used : kick ∈ state.kicks
  absent : ∀ sessionId entry, state.registry.sessions.get sessionId = some entry →
    entry.kick ≠ kick

namespace Retired

variable {state after : RegistryState} {kick : KickToken}

/-- A call that registers nobody hands out no token. -/
theorem unregistering (retired : Retired state kick) (registry : SessionRegistry)
    (entries : ∀ sessionId entry, registry.sessions.get sessionId = some entry →
      ∃ old, state.registry.sessions.get sessionId = some old ∧ old.kick = entry.kick) :
    Retired { state with registry } kick := by
  refine ⟨retired.used, fun sessionId entry present => ?_⟩
  obtain ⟨old, before, same⟩ := entries sessionId entry present
  rw [← same]
  exact retired.absent sessionId old before

theorem step (retired : Retired state kick) {call : RegistryCall} {seen : List CallSeen}
    (taken : state.step call = some (after, seen)) : Retired after kick := by
  cases call with
  | register sessionId token =>
      simp only [RegistryState.step, SessionRegistry.perform, Option.ite_none_right_eq_some,
        Option.some.injEq, Prod.mk.injEq] at taken
      obtain ⟨fresh, rfl, -⟩ := taken
      refine ⟨List.mem_cons_of_mem _ retired.used, fun other entry present => ?_⟩
      rw [SessionRegistry.register_sessions] at present
      split at present
      · rw [Option.some.injEq] at present
        rw [← present]
        rintro rfl
        exact fresh retired.used
      · exact retired.absent other entry present
  | authenticate sessionId userId =>
      cases taken
      exact retired.unregistering _ fun _ _ => state.registry.authenticate_entries
  | remove sessionId =>
      cases taken
      exact retired.unregistering _
        fun _ entry present => ⟨entry, (state.registry.remove_entries present).2, rfl⟩
  | disconnect sessionId =>
      cases taken
      exact retired

theorem exec (retired : Retired state kick) {calls : List RegistryCall} {seen : List CallSeen}
    (executed : registryRuns.exec state calls = some (after, seen)) : Retired after kick := by
  induction calls generalizing state seen with
  | nil =>
      rw [Machine.exec, Option.some.injEq, Prod.mk.injEq] at executed
      rw [← executed.1]
      exact retired
  | cons call rest inductionHypothesis =>
      obtain ⟨next, first, later, taken, tail, -⟩ := Machine.exec_cons executed
      exact inductionHypothesis (retired.step taken) tail

end Retired

/-- The token of a session that is removed is retired. -/
theorem Follows.retired {state : RegistryState} {history : List CallSeen}
    (follows : Follows state history) {sessionId : SessionId} {entry : Entry}
    (present : state.registry.sessions.get sessionId = some entry) :
    Retired { state with registry := state.registry.remove sessionId } entry.kick := by
  have own := follows.entries sessionId entry present
  refine ⟨follows.kicks sessionId entry.kick own, fun other left held same => ?_⟩
  have kept := state.registry.remove_entries held
  have theirs := follows.entries other left kept.2
  rw [same] at theirs
  exact kept.1 (follows.owner entry.kick other sessionId theirs own)

/-! ## The exchange -/

section Exchange

variable {old : SessionId} {call : RegistryCall}

/-- What is seen of a removal and then a call. -/
def removedFirst (old : SessionId) (call : RegistryCall) (state : RegistryState) :
    List CallSeen :=
  [⟨.remove old, []⟩, ⟨call, ((state.registry.remove old).perform call).2⟩]

/-- What is seen of a call and then a removal. -/
def calledFirst (old : SessionId) (call : RegistryCall) (state : RegistryState) :
    List CallSeen :=
  [⟨call, (state.registry.perform call).2⟩, ⟨.remove old, []⟩]

/-- Both orders are possible or neither is, and they lead to the same state. -/
theorem exchange_pair (different : old ≠ call.sessionId) (state : RegistryState) :
    (∃ next,
      registryRuns.exec state [.remove old, call] = some (next, removedFirst old call state) ∧
      registryRuns.exec state [call, .remove old] = some (next, calledFirst old call state) ∧
      registryRuns.step { state with registry := state.registry.remove old } call =
        some (next, [⟨call, ((state.registry.remove old).perform call).2⟩])) ∨
    (registryRuns.exec state [.remove old, call] = none ∧
      registryRuns.exec state [call, .remove old] = none) := by
  have removal : ∀ before : RegistryState, registryRuns.step before (.remove old) =
      some ({ before with registry := before.registry.remove old }, [⟨.remove old, []⟩]) :=
    fun _ => rfl
  have calling : ∀ before : RegistryState, registryRuns.step before call =
      if ∀ kick ∈ call.hands, kick ∉ before.kicks then
        some (⟨(before.registry.perform call).1, call.hands ++ before.kicks⟩,
          [⟨call, (before.registry.perform call).2⟩])
      else none := fun before => before.step_eq call
  by_cases allowed : ∀ kick ∈ call.hands, kick ∉ state.kicks
  · left
    have same := state.registry.remove_perform different
    refine ⟨⟨(state.registry.perform call).1.remove old, call.hands ++ state.kicks⟩, ?_, ?_, ?_⟩
    · simp only [Machine.exec, removal, calling, if_pos allowed, same]
      rfl
    · simp only [Machine.exec, removal, calling, if_pos allowed]
      rfl
    · simp only [calling, if_pos allowed, same]
  · right
    constructor
    · simp only [Machine.exec, removal, calling, if_neg allowed]
    · simp only [Machine.exec, calling, if_neg allowed]

/-- Whoever is registered at the end was kicked in both runs or in neither. -/
def KickedAlike (final : RegistryState) (one other : List CallSeen) : Prop :=
  ∀ sessionId entry, final.registry.sessions.get sessionId = some entry →
    (entry.kick ∈ kicked one ↔ entry.kick ∈ kicked other)

/-- Only the removed session can tell the two orders apart. -/
theorem kickedAlike_of_exchange (different : old ≠ call.sessionId)
    {middle next final : RegistryState} {front back : List RegistryCall}
    {earlier later seen : List CallSeen}
    (first : registryRuns.exec ⟨.default, []⟩ front = some (middle, earlier))
    (taken : registryRuns.step { middle with registry := middle.registry.remove old } call =
      some (next, seen))
    (last : registryRuns.exec next back = some (final, later)) :
    KickedAlike final (earlier ++ (removedFirst old call middle ++ later))
      (earlier ++ (calledFirst old call middle ++ later)) := by
  intro sessionId survivor present
  have follows := registryRuns_follows (Machine.reaches_of_exec rfl first)
  have same : survivor.kick ∈ ((middle.registry.remove old).perform call).2 ↔
      survivor.kick ∈ (middle.registry.perform call).2 := by
    rcases middle.registry.perform_cancels_remove different with
      equal | ⟨early, entry, held, late⟩
    · rw [equal]
    · -- the session kicked in one order only is gone for good
      have retired := ((follows.retired held).step taken).exec last
      have gone := retired.absent sessionId survivor present
      rw [early, late]
      simp [gone]
  simp [kicked, removedFirst, calledFirst, same]

end Exchange

/-- Two lists of calls lead to the same end, and kick the same survivors. -/
def SameOutcome (calls moved : List RegistryCall) : Prop :=
  ∀ final history, registryRuns.exec ⟨.default, []⟩ calls = some (final, history) →
    ∃ other, registryRuns.exec ⟨.default, []⟩ moved = some (final, other) ∧
      KickedAlike final history other

theorem SameOutcome.trans {first second third : List RegistryCall}
    (one : SameOutcome first second) (two : SameOutcome second third) :
    SameOutcome first third := by
  intro final history executed
  obtain ⟨middle, moved, alike⟩ := one final history executed
  obtain ⟨last, again, further⟩ := two final middle moved
  exact ⟨last, again, fun sessionId entry present =>
    (alike sessionId entry present).trans (further sessionId entry present)⟩

/-- One exchange, in either direction. -/
theorem Exchanged.sameOutcome {calls moved : List RegistryCall}
    (exchanged : Exchanged calls moved) : SameOutcome calls moved ∧ SameOutcome moved calls := by
  cases exchanged with
  | @exchange front back old call different =>
      constructor
      · intro final history executed
        change registryRuns.exec _ (front ++ ([.remove old, call] ++ back)) = _ at executed
        obtain ⟨middle, after, earlier, seen, later, first, between, last, rfl⟩ :=
          Machine.exec_around.mp executed
        rcases exchange_pair different middle with ⟨next, removed, called, taken⟩ | ⟨stuck, _⟩
        · rw [removed, Option.some.injEq, Prod.mk.injEq] at between
          rw [← between.1] at last
          rw [← between.2]
          have other := Machine.exec_around.mpr
            ⟨middle, next, earlier, _, later, first, called, last, rfl⟩
          exact ⟨_, other, kickedAlike_of_exchange different first taken last⟩
        · rw [stuck] at between
          contradiction
      · intro final history executed
        change registryRuns.exec _ (front ++ ([call, .remove old] ++ back)) = _ at executed
        obtain ⟨middle, after, earlier, seen, later, first, between, last, rfl⟩ :=
          Machine.exec_around.mp executed
        rcases exchange_pair different middle with ⟨next, removed, called, taken⟩ | ⟨_, stuck⟩
        · rw [called, Option.some.injEq, Prod.mk.injEq] at between
          rw [← between.1] at last
          rw [← between.2]
          have other := Machine.exec_around.mpr
            ⟨middle, next, earlier, _, later, first, removed, last, rfl⟩
          exact ⟨_, other, fun sessionId entry present =>
            (kickedAlike_of_exchange different first taken last sessionId entry present).symm⟩
        · rw [stuck] at between
          contradiction

theorem Reordered.sameOutcome {calls moved : List RegistryCall}
    (reordered : Reordered calls moved) :
    SameOutcome calls moved ∧ SameOutcome moved calls := by
  have refl : ∀ calls, SameOutcome calls calls :=
    fun calls final history executed => ⟨history, executed, fun _ _ _ => Iff.rfl⟩
  induction reordered with
  | rel calls moved exchanged => exact exchanged.sameOutcome
  | refl calls => exact ⟨refl calls, refl calls⟩
  | symm calls moved _ inductionHypothesis => exact inductionHypothesis.symm
  | trans first second third _ _ one two =>
      exact ⟨one.1.trans two.1, two.2.trans one.2⟩

/-- The cleanup of one session and the login of another can be taken in either
order.  From every registry state both orders lead to the same maps, and cancel the
same tokens but for the token of the cleaned-up session, which only the later
cleanup can leave to be cancelled.  So in every run removals can be moved past the
authentications of other sessions, and past their other calls: the run ends in the
same registry, and the same survivors have been kicked. -/
theorem cleanup_login_order_independent :
    (∀ (registry : SessionRegistry) (old new : SessionId) (userId : String), old ≠ new →
      ((registry.remove old).authenticate new userId).1.sessions =
          ((registry.authenticate new userId).1.remove old).sessions ∧
        ((registry.remove old).authenticate new userId).1.authenticated =
          ((registry.authenticate new userId).1.remove old).authenticated ∧
        ((registry.authenticate new userId).2 =
            ((registry.remove old).authenticate new userId).2 ∨
          ((registry.remove old).authenticate new userId).2 = [] ∧
            ∃ entry, registry.sessions.get old = some entry ∧
              (registry.authenticate new userId).2 = [entry.kick])) ∧
    ∀ (calls moved : List RegistryCall), Reordered calls moved →
      ∀ (final : RegistryState) (history : List CallSeen),
        registryRuns.exec ⟨.default, []⟩ calls = some (final, history) →
        ∃ other, registryRuns.exec ⟨.default, []⟩ moved = some (final, other) ∧
          ∀ sessionId entry, final.registry.sessions.get sessionId = some entry →
            (entry.kick ∈ kicked history ↔ entry.kick ∈ kicked other) := by
  constructor
  · intro registry old new userId different
    have maps := registry.remove_authenticate different userId
    exact ⟨by rw [maps], by rw [maps], registry.authenticate_cancels_remove different userId⟩
  · intro calls moved reordered
    exact reordered.sameOutcome.1

/-- A session takes over a user id, and the one it kicks cleans up. -/
def takeover : List RegistryCall :=
  [.register 1 ⟨0⟩, .authenticate 1 "kim", .register 2 ⟨1⟩]

theorem cleanup_login_order_independent_takeover :
    ∃ final history other,
      registryRuns.exec ⟨.default, []⟩ (takeover ++ [.remove 1, .authenticate 2 "kim"]) =
          some (final, history) ∧
        registryRuns.exec ⟨.default, []⟩ (takeover ++ [.authenticate 2 "kim", .remove 1]) =
          some (final, other) ∧
        (⟨1⟩ ∈ kicked history ↔ ⟨1⟩ ∈ kicked other) := by
  have moved : Reordered (takeover ++ [.remove 1, .authenticate 2 "kim"])
      (takeover ++ [.authenticate 2 "kim", .remove 1]) :=
    .rel _ _ (.exchange takeover [] (by decide))
  have executed : registryRuns.exec ⟨.default, []⟩
      (takeover ++ [.remove 1, .authenticate 2 "kim"]) = some _ := rfl
  obtain ⟨other, same, alike⟩ :=
    cleanup_login_order_independent.2 _ _ moved _ _ executed
  exact ⟨_, _, other, executed, same, alike 2 ⟨some "kim", ⟨1⟩⟩ rfl⟩

end RustGameserver.Net
