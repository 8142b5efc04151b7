import RustGameserver.GameServer.Logout
import RustGameserver.Session.Once

/-!
Contract: a GameServer session as a client that keeps to its protocol sees it.

Owns:
- what a session does only for a message that asks for a task, or for a result;
- that a session which has told of its success has an account from then on.

Does not own: that the client keeps to its protocol.
-/

namespace RustGameserver.GameServer

open RustGameserver.Foundation
open RustGameserver.Net
open RustGameserver.Proto
open RustGameserver.Session

def isGameConnectRequest (message : MessageWrapper) : Bool :=
  match message.payload with
  | some (.gameConnectRequest _) => true
  | _ => false

/-- The messages that a session may start a task for. -/
def asksTask (message : MessageWrapper) : Bool :=
  match message.payload with
  | some (.gameConnectRequest _) | some (.gameOverReport _) => true
  | _ => false

namespace Session

variable {session : Session} {now : Nat} {message : MessageWrapper} {result : InnerMessage}
  {reaction : Reaction Session Work}

theorem Handles.prompted (handles : session.Handles now message reaction) :
    (∀ payload, reaction.payload = some payload → isGreeting payload = false) ∧
      reaction.authenticates = false ∧ (reaction.spawns = true → asksTask message = true) := by
  cases handles with
  | lookedUp req asked =>
      exact ⟨by simp [Reaction.payload], rfl, fun _ => by simp [asksTask, asked]⟩
  | reported report account asked =>
      exact ⟨by simp [Reaction.payload], rfl, fun _ => by simp [asksTask, asked]⟩
  | _ => exact ⟨by simp [Reaction.payload, isGreeting], rfl, fun spawns => by contradiction⟩

theorem Answers.prompted (answers : session.Answers now result reaction) :
    (∀ payload, reaction.payload = some payload → isGreeting payload = false) ∧
      reaction.spawns = false := by
  cases answers <;> exact ⟨by simp [Reaction.payload, isGreeting], rfl⟩

/-- Only an unauthenticated session stops, at a message that does not pass its gate. -/
theorem Handles.stops (handles : session.Handles now message reaction) {fields : Session}
    (stops : reaction = .stop fields) :
    passesGate message.payload = false ∧ session.account = none := by
  cases handles with
  | gated other anonymous => exact ⟨other, anonymous⟩
  | _ => contradiction

end Session

theorem prompted (keepAliveTimeout : Nat) : Prompted (service keepAliveTimeout) asksTask where
  remote_payload := fun session now message => (session.onRemote_cases now message).prompted.1
  inner_payload := fun session now result => (session.onInner_cases now result).prompted.1
  remote_authenticates := fun session now message =>
    (session.onRemote_cases now message).prompted.2.1
  remote_spawns := fun session now message => (session.onRemote_cases now message).prompted.2.2
  inner_spawns := fun session now result => (session.onInner_cases now result).prompted.2

variable {keepAliveTimeout : Nat} {task : Task Session Work Reply InnerMessage}
  {history : List (Seen Session Work Reply InnerMessage)}

/-- A session that has told of its success has authenticated. -/
theorem success_account (run : (machine (service keepAliveTimeout)).Reaches task history)
    {earlier later : List (Seen Session Work Reply InnerMessage)}
    (shape : history = earlier ++ later) {payload : Payload} (told : payload ∈ accepted earlier)
    (success : isSuccess payload = true) :
    ∃ account, (accounts earlier).getLast? = some account := by
  obtain ⟨entry, member, own⟩ := List.mem_filterMap.mp told
  cases entry with
  | accepted cause answer =>
      cases own
      cases payload with
      | gameConnectResponse body =>
          obtain ⟨front, back, rfl⟩ := List.append_of_mem member
          rw [List.append_assoc, List.cons_append] at shape
          obtain ⟨start, fields, account, rfl, becomes⟩ := success_authenticated run shape success
          rw [accounts_split start back fields account.userId cause _ account becomes]
          rw [List.getLast?_append, List.getLast?_append]
          cases (accounts back).getLast? with
          | none => exact ⟨account, rfl⟩
          | some last => exact ⟨last, rfl⟩
      | _ => contradiction
  | _ => contradiction

/-- A message handled after that finds the session authenticated. -/
theorem handled_account (run : (machine (service keepAliveTimeout)).Reaches task history)
    {earlier later : List (Seen Session Work Reply InnerMessage)} {before : Session}
    {message : MessageWrapper} (shape : history = earlier ++ .handled before message :: later)
    {payload : Payload} (told : payload ∈ accepted earlier) (success : isSuccess payload = true) :
    ∃ account, before.account = some account := by
  have known := reaches_handledAs run earlier _ later shape
  obtain ⟨account, last⟩ := success_account run shape told success
  exact ⟨account, known.trans last⟩

end RustGameserver.GameServer
