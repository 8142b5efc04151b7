/-!
Contract: bounded first-in first-out channels with one receiver.

Owns:
- channels whose length bound is part of the value, so that no operation can
  overfill one;
- non-blocking sending, receiving, and dropping the receiver;
- one inversion lemma for each operation.

Does not own: who sends, who receives, or what a blocked sender does.
-/

namespace RustGameserver.Foundation

universe u

/-- The messages sent and not yet received, oldest first. -/
structure Channel (α : Type u) (capacity : Nat) where
  queue : List α
  receiverAlive : Bool
  bounded : queue.length ≤ capacity
  /-- A receiver takes what it has not received with it. -/
  closed : receiverAlive = false → queue = []
deriving DecidableEq

/-- Why a non-blocking send was refused. -/
inductive TrySendError where
  | full
  | closed
deriving DecidableEq, Repr

namespace Channel

variable {α : Type u} {capacity : Nat}

def empty : Channel α capacity where
  queue := []
  receiverAlive := true
  bounded := Nat.zero_le _
  closed := fun _ => rfl

/-- Append one message unless the receiver is gone or the channel is full. -/
def trySend (channel : Channel α capacity) (message : α) :
    Except TrySendError (Channel α capacity) :=
  if alive : channel.receiverAlive = true then
    if room : channel.queue.length < capacity then
      .ok { channel with
        queue := channel.queue ++ [message]
        bounded := by
          rw [List.length_append, List.length_singleton]
          exact room
        closed := fun dead => by
          rw [alive] at dead
          contradiction }
    else
      .error .full
  else
    .error .closed

/-- Take the oldest message, if there is one. -/
def tryRecv (channel : Channel α capacity) : Option (α × Channel α capacity) :=
  match waiting : channel.queue with
  | [] => none
  | message :: rest =>
      some (message, { channel with
        queue := rest
        bounded := by
          have bounded := channel.bounded
          rw [waiting, List.length_cons] at bounded
          exact Nat.le_of_succ_le bounded
        closed := fun dead => by
          have nothing := channel.closed dead
          rw [waiting] at nothing
          contradiction })

/-- The receiver goes away together with everything it has not received. -/
def dropReceiver (_ : Channel α capacity) : Channel α capacity where
  queue := []
  receiverAlive := false
  bounded := Nat.zero_le _
  closed := fun _ => rfl

@[simp] theorem empty_queue : (empty : Channel α capacity).queue = [] := rfl

@[simp] theorem dropReceiver_receiverAlive (channel : Channel α capacity) :
    channel.dropReceiver.receiverAlive = false := rfl

theorem trySend_ok {channel after : Channel α capacity} {message : α}
    (sent : channel.trySend message = .ok after) :
    channel.receiverAlive = true ∧ after.queue = channel.queue ++ [message] ∧
      after.receiverAlive = true := by
  unfold trySend at sent
  split at sent
  · next alive =>
      split at sent
      · cases sent
        exact ⟨alive, rfl, alive⟩
      · contradiction
  · contradiction

theorem trySend_closed {channel : Channel α capacity} {message : α}
    (refused : channel.trySend message = .error .closed) : channel.receiverAlive = false := by
  unfold trySend at refused
  split at refused
  · split at refused <;> cases refused
  · next dead => simpa using dead

theorem tryRecv_some {channel after : Channel α capacity} {message : α}
    (received : channel.tryRecv = some (message, after)) :
    channel.queue = message :: after.queue ∧
      after.receiverAlive = channel.receiverAlive := by
  unfold tryRecv at received
  split at received
  · contradiction
  · next head rest waiting =>
      simp only [Option.some.injEq, Prod.mk.injEq] at received
      obtain ⟨rfl, rfl⟩ := received
      exact ⟨waiting, rfl⟩

theorem tryRecv_none {channel : Channel α capacity} (nothing : channel.tryRecv = none) :
    channel.queue = [] := by
  unfold tryRecv at nothing
  split at nothing
  · next waiting => exact waiting
  · contradiction

end Channel

end RustGameserver.Foundation
