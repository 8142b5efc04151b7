import RustGameserver.Foundation.FiniteMap
import RustGameserver.Foundation.Machine

/-!
Contract: `net::registry`, the list of live sessions and the mapping from user
ids to sessions, as both servers use it.

Owns:
- `SessionRegistry::{register, remove, authenticate, disconnect}`, each as one
  step of the state under the mutex together with the kick tokens it cancels;
- lookup equations for each operation.

Does not own: who calls the registry and when, which the servers decide.
-/

namespace RustGameserver.Net

open RustGameserver.Foundation

abbrev SessionId : Type := UInt64

/-- A `CancellationToken`, up to identity: clones of one token are equal. -/
structure KickToken where
  serial : Nat
deriving DecidableEq, Repr

/-- `session_id::generate`: the counter after `fetch_add(1)`, which is also the
new id. -/
def generate (nextId : UInt64) : SessionId := nextId + 1

structure Entry where
  userId : Option String
  kick : KickToken
deriving DecidableEq, Repr

/-- The two maps under the mutex. -/
structure SessionRegistry where
  sessions : FiniteMap SessionId Entry
  authenticated : FiniteMap String SessionId

namespace SessionRegistry

/-- `SessionRegistry::default`. -/
def default : SessionRegistry where
  sessions := .empty
  authenticated := .empty

def register (registry : SessionRegistry) (sessionId : SessionId) (kick : KickToken) :
    SessionRegistry :=
  { registry with sessions := registry.sessions.insert sessionId ⟨none, kick⟩ }

def remove (registry : SessionRegistry) (sessionId : SessionId) : SessionRegistry :=
  match registry.sessions.get sessionId with
  | none => registry
  | some entry =>
      let registry := { registry with sessions := registry.sessions.remove sessionId }
      match entry.userId with
      | none => registry
      | some userId =>
          if registry.authenticated.get userId = some sessionId then
            { registry with authenticated := registry.authenticated.remove userId }
          else
            registry

/-- `authenticate`, with the tokens on which it calls `cancel`. -/
def authenticate (registry : SessionRegistry) (sessionId : SessionId) (userId : String) :
    SessionRegistry × List KickToken :=
  let sessions :=
    match registry.sessions.get sessionId with
    | some entry => registry.sessions.insert sessionId { entry with userId := some userId }
    | none => registry.sessions
  let old := registry.authenticated.get userId
  let registry :=
    { sessions := sessions
      authenticated := registry.authenticated.insert userId sessionId }
  match old with
  | none => (registry, [])
  | some oldId =>
      if oldId ≠ sessionId then
        match sessions.get oldId with
        | some oldEntry => (registry, [oldEntry.kick])
        | none => (registry, [])
      else
        (registry, [])

/-- `disconnect`, with its result and the tokens on which it calls `cancel`. -/
def disconnect (registry : SessionRegistry) (sessionId : SessionId) : Bool × List KickToken :=
  match registry.sessions.get sessionId with
  | some entry => (true, [entry.kick])
  | none => (false, [])

end SessionRegistry

/-- One call of a registry operation. -/
inductive RegistryCall where
  | register (sessionId : SessionId) (kick : KickToken)
  | authenticate (sessionId : SessionId) (userId : String)
  | remove (sessionId : SessionId)
  | disconnect (sessionId : SessionId)
deriving DecidableEq, Repr

namespace SessionRegistry

/-- The registry after a call, and the tokens the call cancels. -/
def perform (registry : SessionRegistry) : RegistryCall → SessionRegistry × List KickToken
  | .register sessionId kick => (registry.register sessionId kick, [])
  | .authenticate sessionId userId => registry.authenticate sessionId userId
  | .remove sessionId => (registry.remove sessionId, [])
  | .disconnect sessionId => (registry, (registry.disconnect sessionId).2)

variable (registry : SessionRegistry)

theorem register_sessions (sessionId other : SessionId) (kick : KickToken) :
    (registry.register sessionId kick).sessions.get other =
      if other = sessionId then some ⟨none, kick⟩ else registry.sessions.get other := by
  rw [register, FiniteMap.get_insert]

theorem remove_sessions (sessionId other : SessionId) :
    (registry.remove sessionId).sessions.get other =
      if other = sessionId then none else registry.sessions.get other := by
  unfold remove
  split
  · next absent =>
      split
      · next same => rw [same, absent]
      · rfl
  · next entry present =>
      -- whatever happens to the mapping, the entry itself is gone
      cases entry.userId with
      | none => exact FiniteMap.get_remove ..
      | some userId =>
          simp only
          split <;> exact FiniteMap.get_remove ..

/-- `remove` clears the mapping of the session's own user id, and only when it
points to the session. -/
theorem remove_authenticated (sessionId : SessionId) (userId : String) :
    (registry.remove sessionId).authenticated.get userId =
      if (∃ entry, registry.sessions.get sessionId = some entry ∧ entry.userId = some userId) ∧
          registry.authenticated.get userId = some sessionId then none
      else registry.authenticated.get userId := by
  unfold remove
  split
  · next absent => simp [absent]
  · next entry present =>
      simp only [present, Option.some.injEq, exists_eq_left']
      split
      · next anonymous => simp [anonymous]
      · next own holds =>
          simp only [holds, Option.some.injEq]
          split
          · next mapped =>
              rw [FiniteMap.get_remove]
              by_cases same : userId = own
              · subst same
                simp [mapped]
              · simp [same, Ne.symm same]
          · next unmapped =>
              by_cases same : own = userId
              · subst same
                simp [unmapped]
              · simp [same]

theorem authenticate_sessions (sessionId other : SessionId) (userId : String) :
    (registry.authenticate sessionId userId).1.sessions.get other =
      if other = sessionId then
        (registry.sessions.get sessionId).map fun entry => { entry with userId := some userId }
      else registry.sessions.get other := by
  have updated : (registry.authenticate sessionId userId).1.sessions =
      match registry.sessions.get sessionId with
      | some entry => registry.sessions.insert sessionId { entry with userId := some userId }
      | none => registry.sessions := by
    unfold authenticate
    simp only
    split
    · rfl
    · split
      · split <;> rfl
      · rfl
  rw [updated]
  cases present : registry.sessions.get sessionId with
  | none =>
      by_cases same : other = sessionId
      · simp [same, present]
      · simp [same]
  | some entry => simp [FiniteMap.get_insert]

theorem authenticate_authenticated (sessionId : SessionId) (userId other : String) :
    (registry.authenticate sessionId userId).1.authenticated.get other =
      if other = userId then some sessionId else registry.authenticated.get other := by
  have updated : (registry.authenticate sessionId userId).1.authenticated =
      registry.authenticated.insert userId sessionId := by
    unfold authenticate
    simp only
    split
    · rfl
    · split
      · split <;> rfl
      · rfl
  rw [updated, FiniteMap.get_insert]

/-- `authenticate` cancels the token of the session the user id was mapped to,
if that is another session and still registered, and nothing else. -/
theorem authenticate_cancels (sessionId : SessionId) (userId : String) :
    (registry.authenticate sessionId userId).2 =
      match registry.authenticated.get userId with
      | none => []
      | some oldId =>
          if oldId = sessionId then []
          else ((registry.sessions.get oldId).map Entry.kick).toList := by
  unfold authenticate
  simp only
  cases registry.authenticated.get userId with
  | none => rfl
  | some oldId =>
      by_cases same : oldId = sessionId
      · simp [same]
      · have frame : (match registry.sessions.get sessionId with
            | some entry =>
                registry.sessions.insert sessionId { entry with userId := some userId }
            | none => registry.sessions).get oldId = registry.sessions.get oldId := by
          split
          · simp [FiniteMap.get_insert, same]
          · rfl
        simp only [ne_eq, same, not_false_eq_true, if_true, if_false, frame]
        cases registry.sessions.get oldId <;> rfl

theorem disconnect_cancels (sessionId : SessionId) :
    (registry.disconnect sessionId).2 =
      ((registry.sessions.get sessionId).map Entry.kick).toList := by
  unfold disconnect
  cases registry.sessions.get sessionId <;> rfl

end SessionRegistry

end RustGameserver.Net
