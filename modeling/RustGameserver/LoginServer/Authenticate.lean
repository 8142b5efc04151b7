import RustGameserver.LoginServer.Session
import RustGameserver.Session.Provenance

/-!
Contract: the login tasks of a LoginServer session.

Owns: what a login task has been told by the time it makes each of its calls.

Does not own: what the backend answers.
-/

namespace RustGameserver.LoginServer

open RustGameserver.Foundation
open RustGameserver.Net
open RustGameserver.Session

variable {keepAliveTimeout : Nat}

/-- What a login task must have been told before it makes a call. -/
def Told (replies : List Reply) : Work → Prop
  | .findAccount .. => True
  | .verify row _ => .account (.ok (some row)) ∈ replies
  | .touchLastLogin row | .issueAuthToken row =>
      .account (.ok (some row)) ∈ replies ∧ .verified (.ok true) ∈ replies ∧ row.status ≠ 1

theorem Told.grow {replies : List Reply} {work : Work} (told : Told replies work)
    (reply : Reply) : Told (replies ++ [reply]) work := by
  cases work with
  | findAccount => trivial
  | verify row clientHash => exact List.mem_append_left _ told
  | touchLastLogin row =>
      exact ⟨List.mem_append_left _ told.1, List.mem_append_left _ told.2.1, told.2.2⟩
  | issueAuthToken row =>
      exact ⟨List.mem_append_left _ told.1, List.mem_append_left _ told.2.1, told.2.2⟩

/-- The reply to one call is what the next call needs. -/
theorem Told.next {replies : List Reply} {work next : Work} {reply : Reply}
    (told : Told replies work) (resumed : authenticate work reply = some (.awaits next)) :
    Told (replies ++ [reply]) next := by
  have last : reply ∈ replies ++ [reply] := by simp
  cases work with
  | findAccount userId clientHash =>
      cases reply with
      | account result =>
          rcases result with _ | _ | row
          · simp [authenticate] at resumed
          · simp [authenticate] at resumed
          · cases resumed
            exact last
      | _ => contradiction
  | verify row clientHash =>
      cases reply with
      | verified result =>
          rcases result with _ | _ | _
          · simp [authenticate] at resumed
          · simp [authenticate] at resumed
          · simp only [authenticate] at resumed
            split at resumed
            · simp at resumed
            · next unbanned =>
                cases resumed
                exact ⟨List.mem_append_left _ told, last, unbanned⟩
      | _ => contradiction
  | touchLastLogin row =>
      cases reply with
      | touched result =>
          rcases result with _ | _
          · simp [authenticate] at resumed
          · cases resumed
            exact Told.grow told _
      | _ => contradiction
  | issueAuthToken row =>
      cases reply with
      | issued result => rcases result with _ | _ | _ <;> simp [authenticate] at resumed
      | _ => contradiction

/-- A task that starts by looking an account up has been told what it needed for
each of its calls. -/
theorem ran_told {job : Job Work Reply LoginOutcome} (ran : job.Ran (service keepAliveTimeout))
    (starts : ∀ work, job.calls.head? = some work →
      ∃ userId clientHash, work = .findAccount userId clientHash) :
    (∀ work, job.state = .running work → Told job.replies work) ∧
      ∀ work ∈ job.calls, Told job.replies work := by
  induction ran with
  | spawned work =>
      obtain ⟨userId, clientHash, rfl⟩ := starts work rfl
      simp [Told]
  | @awaits job work next reply ran running resumed inductionHypothesis =>
      have before := inductionHypothesis fun first head => starts first (by simp [head])
      have later := (before.1 work running).next resumed
      constructor
      · intro found same
        rw [JobState.running.injEq] at same
        rw [← same]
        exact later
      · intro found member
        rw [List.mem_append, List.mem_singleton] at member
        rcases member with member | rfl
        · exact (before.2 found member).grow reply
        · exact later
  | returned ran running resumed inductionHypothesis =>
      exact ⟨nofun, fun found member => ((inductionHypothesis starts).2 found member).grow _⟩
  | ended ran finished inductionHypothesis => exact ⟨nofun, (inductionHypothesis starts).2⟩

variable {task : Task Session Work Reply LoginOutcome}
  {history : List (Seen Session Work Reply LoginOutcome)}

/-- Every task of a session starts by looking an account up. -/
theorem spawned_findAccount (run : (machine (service keepAliveTimeout)).Reaches task history)
    {job : Nat} {work : Work} (member : .spawned job work ∈ history) :
    ∃ userId clientHash, work = .findAccount userId clientHash := by
  obtain ⟨front, back, shape⟩ := List.append_of_mem member
  obtain ⟨cause, fields, input⟩ := reaches_justified run front _ back shape
  generalize spawns : Reaction.spawn fields work = reaction at input
  cases input with
  | connection => contradiction
  | frame front other now message =>
      obtain ⟨req, _, rfl⟩ := Session.Handles.spawn
        (by rw [spawns]; exact other.onRemote_cases now message)
      exact ⟨_, _, rfl⟩
  | result front other now job outcome => cases outcome <;> contradiction

/-- Before a session issues a token, the account was found, its password verified
and its status seen not to be a ban. -/
theorem issue_told (run : (machine (service keepAliveTimeout)).Reaches task history)
    {index : Nat} {job : Job Work Reply LoginOutcome} (present : task.jobs[index]? = some job)
    {row : AccountRow} (issues : .issueAuthToken row ∈ job.calls) :
    .replied index (.account (.ok (some row))) ∈ history ∧
      .replied index (.verified (.ok true)) ∈ history ∧ row.status ≠ 1 := by
  have recorded := (reaches_tracked run).recorded index job present
  obtain ⟨first, head, spawned⟩ := recorded.spawned
  have starts : ∀ work, job.calls.head? = some work →
      ∃ userId clientHash, work = .findAccount userId clientHash := by
    intro work same
    rw [head, Option.some.injEq] at same
    rw [← same]
    exact spawned_findAccount run spawned
  obtain ⟨found, verified, unbanned⟩ := (ran_told recorded.ran starts).2 _ issues
  exact ⟨recorded.replied _ found, recorded.replied _ verified, unbanned⟩

end RustGameserver.LoginServer
