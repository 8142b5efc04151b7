import RustGameserver.GameServer.Session
import RustGameserver.Session.Delivery

/-!
Contract: the send path of a GameServer session, over every interleaving of its
handlers with the writer task and every point at which the writer may fail.
-/

namespace RustGameserver.GameServer

open RustGameserver.Net
open RustGameserver.Proto
open RustGameserver.Session

/-- The send path neither loses, duplicates nor reorders a response while the
session lives. -/
theorem responses_delivered {keepAliveTimeout : Nat}
    {task : Task Session Work Reply InnerMessage}
    {history : List (Seen Session Work Reply InnerMessage)}
    (run : (machine (service keepAliveTimeout)).Reaches task history) :
    -- what is fed is a prefix of what was accepted, in order
    fed history <+: (accepted history).map wrap ∧
      -- until the writer fails or is aborted, the rest is the content of the channel
      (task.path.writer.intact = true →
        (accepted history).map wrap = fed history ++ task.path.channel.queue) ∧
      task.path.channel.queue.length ≤ 200 ∧
      -- a running event loop has seen every send accepted, and a refusal is the
      -- last thing an event loop does
      (task.stage.inLoop = true → ∀ cause payload, .refused cause payload ∉ history) ∧
      (∀ earlier cause payload later, history = earlier ++ .refused cause payload :: later →
        ∀ entry ∈ later, entry.ofLoop = false) ∧
      -- a writer that waits for the next message has flushed what it fed
      (task.path.writer = .receiving → task.path.sink.flushed = fed history) ∧
      -- a writer that ended without an error and in time has flushed everything
      (task.path.writer.over = true → .writer .error ∉ history → .drainTimeout ∉ history →
        task.path.sink.flushed = (accepted history).map wrap) := by
  have delivers := reaches_delivers run
  have breaks := reaches_breaks run
  refine ⟨?_, fun intact => ?_, task.path.channel.bounded, breaks.unrefused, ?_,
    fun idle => ?_, fun finished noError inTime => ?_⟩
  · rw [← delivers.fed_eq]
    exact delivers.carries.fedPrefix
  · rw [← delivers.fed_eq]
    exact delivers.carries.remainder intact
  · intro earlier cause payload later shape entry member
    obtain ⟨front, back, rfl⟩ := List.append_of_mem member
    by_contra loop
    rw [Bool.not_eq_false] at loop
    have unrefused := breaks.last (earlier ++ .refused cause payload :: front) entry back
      (by rw [shape]; simp) loop
    exact unrefused cause payload (by simp)
  · have flushed := delivers.fed_eq
    rw [Net.Sink.fed, delivers.carries.idle idle, List.append_nil] at flushed
    exact flushed
  · have drained := (reaches_explained run).drained finished noError inTime
    exact (delivers.carries.done drained).1

/-- A session that is kicked right after its greeting, up to the end of its writer. -/
def kickedAfterGreeting : List (Event Reply) :=
  [.greet, .write (.recv true), .write .tryRecvEmpty, .write (.flush true), .poll true, .remove,
    .dropOutbox, .write .recvClosed]

theorem responses_delivered_kicked :
    ∃ task history,
      (machine (service 10)).exec (.create (service 10) 1 ⟨0⟩ 0) kickedAfterGreeting =
        some (task, history) ∧
      accepted history = [.connectedResponse ⟨0⟩] ∧
      task.path.sink.flushed = (accepted history).map wrap := by
  have runs : ∃ task history,
      (machine (service 10)).exec (.create (service 10) 1 ⟨0⟩ 0) kickedAfterGreeting =
        some (task, history) ∧
      accepted history = [.connectedResponse ⟨0⟩] ∧ task.path.writer.over = true ∧
      .writer .error ∉ history ∧ .drainTimeout ∉ history :=
    ⟨_, _, rfl, rfl, rfl, by simp, by simp⟩
  obtain ⟨task, history, executed, said, finished, noError, inTime⟩ := runs
  have start : (machine (service 10)).Initial (.create (service 10) 1 ⟨0⟩ 0) := ⟨1, ⟨0⟩, 0, rfl⟩
  have run := Foundation.Machine.reaches_of_exec start executed
  obtain ⟨_, _, _, _, _, _, flushed⟩ := responses_delivered run
  exact ⟨task, history, executed, said, flushed finished noError inTime⟩

end RustGameserver.GameServer
