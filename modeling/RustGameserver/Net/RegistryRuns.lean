import RustGameserver.Foundation.History
import RustGameserver.Net.Registry

/-!
Contract: runs of the registry under any interleaving of calls from any number of
sessions and the AdminApi.

Owns:
- the registry as a machine driven by its calls, each session registering with a
  token of its own;
- the invariant that ties both maps to the calls made so far;
- which token a call can cancel.

Does not own: what else the sessions do.
-/

namespace RustGameserver.Net

open RustGameserver.Foundation

/-- A call together with the tokens it has cancelled. -/
structure CallSeen where
  call : RegistryCall
  cancelled : List KickToken
deriving DecidableEq, Repr

/-- The registry, with the tokens that are in use or have been. -/
structure RegistryState where
  registry : SessionRegistry
  kicks : List KickToken

namespace RegistryState

/-- One call.  A session registers with a new token. -/
def step (state : RegistryState) (call : RegistryCall) :
    Option (RegistryState × List CallSeen) :=
  let (registry, cancelled) := state.registry.perform call
  match call with
  | .register _ kick =>
      if kick ∉ state.kicks then some (⟨registry, kick :: state.kicks⟩, [⟨call, cancelled⟩])
      else none
  | .authenticate .. | .remove _ | .disconnect _ =>
      some ({ state with registry }, [⟨call, cancelled⟩])

end RegistryState

/-- The registry as a machine. -/
def registryRuns : Machine RegistryState RegistryCall CallSeen where
  Initial := fun state => state = ⟨.default, []⟩
  step := RegistryState.step

/-- The session that called `authenticate` for a user id last. -/
def lastAuthenticated (userId : String) (history : List CallSeen) : Option SessionId :=
  history.reverse.findSome? fun seen =>
    match seen.call with
    | .authenticate sessionId registered => if registered = userId then some sessionId else none
    | .register .. | .remove _ | .disconnect _ => none

theorem lastAuthenticated_snoc (userId : String) (history : List CallSeen) (seen : CallSeen) :
    lastAuthenticated userId (history ++ [seen]) =
      match seen.call with
      | .authenticate sessionId registered =>
          if registered = userId then some sessionId else lastAuthenticated userId history
      | .register .. | .remove _ | .disconnect _ => lastAuthenticated userId history := by
  rw [lastAuthenticated, List.reverse_append, List.reverse_singleton, List.singleton_append,
    List.findSome?_cons]
  cases seen.call with
  | authenticate sessionId registered =>
      by_cases same : registered = userId
      · simp [same]
      · simp [same, lastAuthenticated]
  | _ => rfl

/-- The session that called last did so at some point, and no other session has
called for that user id since. -/
theorem lastAuthenticated_some {userId : String} {history : List CallSeen}
    {sessionId : SessionId} (last : lastAuthenticated userId history = some sessionId) :
    ∃ earlier cancelled since,
      history = earlier ++ ⟨.authenticate sessionId userId, cancelled⟩ :: since ∧
        ∀ seen ∈ since, ∀ other, seen.call ≠ .authenticate other userId := by
  induction history using List.reverseRecOn with
  | nil => contradiction
  | append_singleton history seen inductionHypothesis =>
      rw [lastAuthenticated_snoc] at last
      by_cases here : ∃ other, seen.call = .authenticate other userId
      · obtain ⟨other, call⟩ := here
        rw [call] at last
        simp only [if_true, Option.some.injEq] at last
        refine ⟨history, seen.cancelled, [], ?_, nofun⟩
        rw [← last, ← call]
      · have before : lastAuthenticated userId history = some sessionId := by
          cases call : seen.call with
          | authenticate other registered =>
              rw [call] at last
              have different : registered ≠ userId := by
                rintro rfl
                exact here ⟨other, call⟩
              simpa [different] using last
          | _ =>
              rw [call] at last
              exact last
        obtain ⟨earlier, cancelled, since, rfl, free⟩ := inductionHypothesis before
        refine ⟨earlier, cancelled, since ++ [seen], by simp, ?_⟩
        intro entry member other same
        rw [List.mem_append, List.mem_singleton] at member
        rcases member with member | rfl
        · exact free entry member other same
        · exact here ⟨other, same⟩

/-- The session has registered with the token. -/
def Registered (history : List CallSeen) (sessionId : SessionId) (kick : KickToken) : Prop :=
  ∃ seen ∈ history, seen.call = .register sessionId kick

theorem registered_snoc {history : List CallSeen} {seen : CallSeen} {sessionId : SessionId}
    {kick : KickToken} :
    Registered (history ++ [seen]) sessionId kick ↔
      Registered history sessionId kick ∨ seen.call = .register sessionId kick := by
  simp [Registered, or_and_right, exists_or]

theorem Registered.grow {history : List CallSeen} {sessionId : SessionId} {kick : KickToken}
    (registered : Registered history sessionId kick) (more : List CallSeen) :
    Registered (history ++ more) sessionId kick := by
  obtain ⟨seen, member, call⟩ := registered
  exact ⟨seen, List.mem_append_left _ member, call⟩

theorem registered_append_of_silent (history : List CallSeen) {more : List CallSeen}
    {sessionId : SessionId} {kick : KickToken} (silent : ¬ Registered more sessionId kick) :
    Registered (history ++ more) sessionId kick ↔ Registered history sessionId kick := by
  simp only [Registered, List.mem_append, or_and_right, exists_or] at silent ⊢
  exact or_iff_left silent

/-- An authentication leaves every entry its token. -/
theorem SessionRegistry.authenticate_entries (registry : SessionRegistry)
    {sessionId other : SessionId} {userId : String} {entry : Entry}
    (present : (registry.authenticate sessionId userId).1.sessions.get other = some entry) :
    ∃ old, registry.sessions.get other = some old ∧ old.kick = entry.kick := by
  rw [authenticate_sessions] at present
  split at present
  · next same =>
      obtain ⟨old, before, rfl⟩ := Option.map_eq_some_iff.mp present
      rw [same]
      exact ⟨old, before, rfl⟩
  · exact ⟨entry, present, rfl⟩

/-- A removal leaves the entries of the other sessions. -/
theorem SessionRegistry.remove_entries (registry : SessionRegistry)
    {sessionId other : SessionId} {entry : Entry}
    (present : (registry.remove sessionId).sessions.get other = some entry) :
    other ≠ sessionId ∧ registry.sessions.get other = some entry := by
  rw [remove_sessions] at present
  split at present
  · contradiction
  · next different => exact ⟨different, present⟩

/-- What the registry knows about the calls made so far. -/
structure Follows (state : RegistryState) (history : List CallSeen) : Prop where
  /-- Every entry carries the token its session registered with. -/
  entries : ∀ sessionId entry, state.registry.sessions.get sessionId = some entry →
    Registered history sessionId entry.kick
  /-- Every mapping points to the session that authenticated last. -/
  mappings : ∀ userId sessionId, state.registry.authenticated.get userId = some sessionId →
    lastAuthenticated userId history = some sessionId
  kicks : ∀ sessionId kick, Registered history sessionId kick → kick ∈ state.kicks
  /-- A token belongs to one session. -/
  owner : ∀ kick one other, Registered history one kick → Registered history other kick →
    one = other

namespace Follows

variable {state after : RegistryState} {history : List CallSeen} {call : RegistryCall}
  {cancelled : List KickToken}

theorem initial : Follows ⟨.default, []⟩ [] where
  entries := fun sessionId entry present => by
    rw [SessionRegistry.default, FiniteMap.get_empty] at present
    contradiction
  mappings := fun userId sessionId mapped => by
    rw [SessionRegistry.default, FiniteMap.get_empty] at mapped
    contradiction
  kicks := fun _ _ => by simp [Registered]
  owner := fun _ _ _ => by simp [Registered]

/-- A call that registers nobody keeps what is known about tokens. -/
theorem unregistering (follows : Follows state history) (registry : SessionRegistry)
    (other : ∀ sessionId kick, call ≠ .register sessionId kick)
    (entries : ∀ sessionId entry, registry.sessions.get sessionId = some entry →
      ∃ old, state.registry.sessions.get sessionId = some old ∧ old.kick = entry.kick)
    (mappings : ∀ userId sessionId, registry.authenticated.get userId = some sessionId →
      lastAuthenticated userId (history ++ [⟨call, cancelled⟩]) = some sessionId) :
    Follows { state with registry } (history ++ [⟨call, cancelled⟩]) where
  entries := fun sessionId entry present => by
    obtain ⟨old, before, same⟩ := entries sessionId entry present
    rw [registered_snoc, ← same]
    exact .inl (follows.entries sessionId old before)
  mappings := mappings
  kicks := fun sessionId kick registered => by
    rw [registered_snoc] at registered
    rcases registered with registered | same
    · exact follows.kicks sessionId kick registered
    · exact absurd same (other sessionId kick)
  owner := fun kick one two first second => by
    rw [registered_snoc] at first second
    rcases first with first | same
    · rcases second with second | same
      · exact follows.owner kick one two first second
      · exact absurd same (other two kick)
    · exact absurd same (other one kick)

theorem register (follows : Follows state history) {sessionId : SessionId} {kick : KickToken}
    (fresh : kick ∉ state.kicks) :
    Follows ⟨state.registry.register sessionId kick, kick :: state.kicks⟩
      (history ++ [⟨.register sessionId kick, cancelled⟩]) where
  entries := fun other entry present => by
    rw [SessionRegistry.register_sessions] at present
    rw [registered_snoc]
    split at present
    · next same =>
        rw [Option.some.injEq] at present
        rw [same, ← present]
        exact .inr rfl
    · exact .inl (follows.entries other entry present)
  mappings := fun userId other mapped => by
    rw [lastAuthenticated_snoc]
    exact follows.mappings userId other mapped
  kicks := fun other token registered => by
    rw [registered_snoc] at registered
    rcases registered with registered | same
    · exact List.mem_cons_of_mem _ (follows.kicks other token registered)
    · cases same
      exact List.mem_cons_self
  owner := fun token one two first second => by
    -- the new token was not in use, so it is nobody else's
    rw [registered_snoc] at first second
    rcases first with first | first <;> rcases second with second | second
    · exact follows.owner token one two first second
    · cases second
      exact absurd (follows.kicks one _ first) fresh
    · cases first
      exact absurd (follows.kicks two _ second) fresh
    · cases first
      cases second
      rfl

theorem authenticate (follows : Follows state history) (sessionId : SessionId)
    (userId : String) :
    Follows { state with registry := (state.registry.authenticate sessionId userId).1 }
      (history ++ [⟨.authenticate sessionId userId, cancelled⟩]) := by
  apply follows.unregistering
  · simp
  · intro other entry present
    exact state.registry.authenticate_entries present
  · intro other holder mapped
    rw [SessionRegistry.authenticate_authenticated] at mapped
    rw [lastAuthenticated_snoc]
    simp only
    by_cases same : other = userId
    · rw [if_pos same] at mapped
      rw [if_pos same.symm]
      exact mapped
    · rw [if_neg same] at mapped
      rw [if_neg (Ne.symm same)]
      exact follows.mappings other holder mapped

theorem remove (follows : Follows state history) (sessionId : SessionId) :
    Follows { state with registry := state.registry.remove sessionId }
      (history ++ [⟨.remove sessionId, cancelled⟩]) := by
  apply follows.unregistering
  · simp
  · intro other entry present
    exact ⟨entry, (state.registry.remove_entries present).2, rfl⟩
  · intro userId holder mapped
    rw [SessionRegistry.remove_authenticated] at mapped
    rw [lastAuthenticated_snoc]
    split at mapped
    · contradiction
    · exact follows.mappings userId holder mapped

theorem disconnect (follows : Follows state history) (sessionId : SessionId) :
    Follows state (history ++ [⟨.disconnect sessionId, cancelled⟩]) := by
  apply follows.unregistering
  · simp
  · exact fun _ entry present => ⟨entry, present, rfl⟩
  · intro userId holder mapped
    rw [lastAuthenticated_snoc]
    exact follows.mappings userId holder mapped

/-- One call. -/
theorem step (follows : Follows state history) {seen : List CallSeen}
    (taken : state.step call = some (after, seen)) : Follows after (history ++ seen) := by
  cases call with
  | register sessionId kick =>
      simp only [RegistryState.step, SessionRegistry.perform, Option.ite_none_right_eq_some,
        Option.some.injEq, Prod.mk.injEq] at taken
      obtain ⟨fresh, rfl, rfl⟩ := taken
      exact follows.register fresh
  | authenticate sessionId userId =>
      cases taken
      exact follows.authenticate sessionId userId
  | remove sessionId =>
      cases taken
      exact follows.remove sessionId
  | disconnect sessionId =>
      cases taken
      exact follows.disconnect sessionId

end Follows

/-! ## Which tokens a call cancels -/

/-- A call cancels at most one token: that of the session it disconnects, or that
of the session which authenticated last for the same user id. -/
structure Targeted (earlier : List CallSeen) (seen : CallSeen) : Prop where
  register : ∀ sessionId kick, seen.call = .register sessionId kick → seen.cancelled = []
  remove : ∀ sessionId, seen.call = .remove sessionId → seen.cancelled = []
  single : seen.cancelled.length ≤ 1
  aimed : ∀ kick ∈ seen.cancelled, ∀ sessionId, Registered earlier sessionId kick →
    seen.call = .disconnect sessionId ∨
      ∃ newcomer userId, seen.call = .authenticate newcomer userId ∧ newcomer ≠ sessionId ∧
        ∃ front cancelled since,
          earlier = front ++ ⟨.authenticate sessionId userId, cancelled⟩ :: since ∧
            ∀ entry ∈ since, ∀ other, entry.call ≠ .authenticate other userId
  owned : ∀ kick ∈ seen.cancelled, ∃ sessionId, Registered earlier sessionId kick

/-- The token in an entry was registered by the session of the entry, and by no
other. -/
theorem Follows.cancels_entry {state : RegistryState} {history : List CallSeen}
    (follows : Follows state history) {sessionId : SessionId} {kick : KickToken}
    (member : kick ∈ ((state.registry.sessions.get sessionId).map Entry.kick).toList) :
    Registered history sessionId kick ∧
      ∀ other, Registered history other kick → other = sessionId := by
  rw [Option.mem_toList, Option.map_eq_some_iff] at member
  obtain ⟨entry, present, rfl⟩ := member
  have own := follows.entries sessionId entry present
  exact ⟨own, fun other registered => follows.owner entry.kick other sessionId registered own⟩

theorem Follows.targeted {state after : RegistryState} {history seen : List CallSeen}
    {call : RegistryCall} (follows : Follows state history)
    (taken : state.step call = some (after, seen)) :
    ∃ one, seen = [one] ∧ Targeted history one := by
  cases call with
  | register sessionId kick =>
      simp only [RegistryState.step, SessionRegistry.perform, Option.ite_none_right_eq_some,
        Option.some.injEq, Prod.mk.injEq] at taken
      obtain ⟨_, _, rfl⟩ := taken
      exact ⟨_, rfl, by simp, by simp, by simp, by simp, by simp⟩
  | remove sessionId =>
      cases taken
      exact ⟨_, rfl, by simp, by simp, by simp, by simp, by simp⟩
  | disconnect sessionId =>
      cases taken
      refine ⟨_, rfl, ?_⟩
      show Targeted history ⟨.disconnect sessionId, (state.registry.disconnect sessionId).2⟩
      rw [SessionRegistry.disconnect_cancels]
      refine ⟨by simp, by simp, ?_, ?_, ?_⟩
      · cases state.registry.sessions.get sessionId <;> simp
      · intro kick member other registered
        exact .inl (by rw [(follows.cancels_entry member).2 other registered])
      · intro kick member
        exact ⟨sessionId, (follows.cancels_entry member).1⟩
  | authenticate sessionId userId =>
      cases taken
      refine ⟨_, rfl, ?_⟩
      show Targeted history
        ⟨.authenticate sessionId userId, (state.registry.authenticate sessionId userId).2⟩
      rw [SessionRegistry.authenticate_cancels]
      cases mapped : state.registry.authenticated.get userId with
      | none => exact ⟨by simp, by simp, by simp, by simp, by simp⟩
      | some oldId =>
          by_cases same : oldId = sessionId
          · simp only [same, if_true]
            exact ⟨by simp, by simp, by simp, by simp, by simp⟩
          · simp only [same, if_false]
            refine ⟨by simp, by simp, ?_, ?_, ?_⟩
            · cases state.registry.sessions.get oldId <;> simp
            · intro kick member other registered
              rw [(follows.cancels_entry member).2 other registered]
              have last := lastAuthenticated_some (follows.mappings userId oldId mapped)
              exact .inr ⟨sessionId, userId, rfl, Ne.symm same, last⟩
            · intro kick member
              exact ⟨oldId, (follows.cancels_entry member).1⟩

theorem registryRuns_follows {state : RegistryState} {history : List CallSeen}
    (run : registryRuns.Reaches state history) : Follows state history := by
  apply run.invariant
  · rintro state rfl
    exact .initial
  · intro before history call after seen _ follows taken
    exact follows.step taken

/-- In every run every call is targeted. -/
theorem registryRuns_targeted {state : RegistryState} {history : List CallSeen}
    (run : registryRuns.Reaches state history) : Justified Targeted history := by
  apply run.invariant
  · intro state _
    exact .nil
  · intro before history call after seen run justified taken
    obtain ⟨one, rfl, targeted⟩ := (registryRuns_follows run).targeted taken
    exact justified.snoc targeted

end RustGameserver.Net
