import RustGameserver.Session.Server

/-!
Contract: what all the sessions of a server have together.

Owns: the rule by which something that every step of a session adds to its task in
the measure of what is observed is, for the whole server, what was observed of all
its sessions together.

Does not own: what is gathered.
-/

namespace RustGameserver.Session

open RustGameserver.Foundation
open RustGameserver.Net

variable {Fields Work Reply Inner : Type} {service : Service Fields Work Reply Inner} {α : Type}

/-- Read the observations of all sessions alike. -/
def ServerSeen.ofAny (observed : Seen Fields Work Reply Inner → Option α) :
    ServerSeen Fields Work Reply Inner → Option α
  | .session _ seen => observed seen
  | .registry _ => none

/-- What each step of a session adds to what is read off its task is what the step is
observed to add. -/
def Gathers (service : Service Fields Work Reply Inner)
    (read : Task Fields Work Reply Inner → Multiset α)
    (observed : Seen Fields Work Reply Inner → Option α) : Prop :=
  ∀ before event after seen, before.step service event = some (after, seen) →
    read after = read before + (seen.filterMap observed : Multiset α)

/-- All the sessions of a server have together what was observed of them together. -/
theorem reaches_gathered {read : Task Fields Work Reply Inner → Multiset α}
    {observed : Seen Fields Work Reply Inner → Option α}
    (created : ∀ sessionId kick now, read (.create service sessionId kick now) = 0)
    (gathers : Gathers service read observed)
    {state : ServerState Fields Work Reply Inner}
    {history : List (ServerSeen Fields Work Reply Inner)}
    (run : (server service).Reaches state history) :
    FiniteMap.gather read state.tasks =
      (history.filterMap (ServerSeen.ofAny observed) : Multiset α) := by
  apply run.invariant
  · rintro state rfl
    exact FiniteMap.gather_empty read
  · intro before history event after seen _ gathered taken
    rw [List.filterMap_append, ← Multiset.coe_add, ← gathered]
    cases server_step_cases taken with
    | drawn => exact (add_zero _).symm
    | disconnected => exact (add_zero _).symm
    | shutDown => exact (add_zero _).symm
    | accepted sessionId kick now newId =>
        show FiniteMap.gather read (before.tasks.insert sessionId _) = _ + 0
        rw [FiniteMap.gather_insert_new read newId, created, zero_add, add_zero]
    | moved sessionId event task present admitted stepped =>
        rw [(ServerState.observeAll_frame _ sessionId task.kick _).1,
          ServerState.observeAll_read _ _ _ (fun _ => rfl) fun _ => rfl]
        exact FiniteMap.gather_insert read present (gathers task event _ _ stepped)

end RustGameserver.Session
