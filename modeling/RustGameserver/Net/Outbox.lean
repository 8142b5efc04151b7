import RustGameserver.Foundation.Channel
import RustGameserver.Net.Consts
import RustGameserver.Proto.Message

/-!
Contract: `net::outbox`, the send path of one session.

Owns:
- `Outbox::send` on the bounded queue between the session task and its writer
  task;
- the writer task `write_loop` with its inner batch loop and its single flush,
  one step for each suspension point;
- closing the outbox, the drain timeout of `Writer::close` and the end of the
  writer on an error.

Does not own: the session task, and the bytes the sink puts on the wire.
-/

namespace RustGameserver.Net

open RustGameserver.Foundation
open RustGameserver.Proto

/-- `FramedWrite`: what has been flushed to the socket, and what has been fed
since.  A feed may write some of its buffer early, which promises nothing. -/
structure Sink where
  flushed : List MessageWrapper
  buffered : List MessageWrapper
deriving DecidableEq

/-- Everything fed so far, in order. -/
def Sink.fed (sink : Sink) : List MessageWrapper := sink.flushed ++ sink.buffered

/-- Where `write_loop` is suspended, or how it ended. -/
inductive WriterState where
  | receiving    -- `rx.recv().await` of the outer loop
  | batching     -- about to call `rx.try_recv()`
  | flushing     -- `sink.flush().await`
  | failed       -- a feed or a flush failed; `kick.cancel()` comes next
  | drained      -- returned, the channel being closed and empty
  | gaveUp       -- returned after an error
  | aborted      -- aborted by `Writer::close`
deriving DecidableEq, Repr

/-- The loop still feeds and flushes. -/
def WriterState.working : WriterState → Bool
  | .receiving | .batching | .flushing => true
  | .failed | .drained | .gaveUp | .aborted => false

/-- The task has ended, so awaiting its handle returns. -/
def WriterState.over : WriterState → Bool
  | .drained | .gaveUp | .aborted => true
  | .receiving | .batching | .flushing | .failed => false

/-- The loop has neither met an error nor been aborted. -/
def WriterState.intact : WriterState → Bool
  | .receiving | .batching | .flushing | .drained => true
  | .failed | .gaveUp | .aborted => false

/-- An outbox, its channel and its writer. -/
structure SendPath where
  channel : Channel MessageWrapper maxSendQueueSize
  /-- The `Outbox`, which holds the only sender, has not been dropped. -/
  senderAlive : Bool
  sink : Sink
  writer : WriterState
  /-- `Writer::close` has given up and called `abort` on the handle. -/
  abortRequested : Bool
deriving DecidableEq

/-- The message `Outbox::send` builds around a payload. -/
def wrap (payload : Payload) : MessageWrapper := ⟨0, some payload⟩

namespace SendPath

/-- `outbox::spawn`. -/
def spawn : SendPath where
  channel := .empty
  senderAlive := true
  sink := ⟨[], []⟩
  writer := .receiving
  abortRequested := false

/-- `Outbox::send`.  A full queue and a writer that is gone both refuse. -/
def send (path : SendPath) (payload : Payload) : Option SendPath :=
  match path.channel.trySend (wrap payload) with
  | .ok channel => some { path with channel }
  | .error .full => none
  | .error .closed => none

end SendPath

/-- What the writer task does next.  Taking a message and feeding it is one
step; `fed` and `ok` tell whether the sink reported an error. -/
inductive WriterEvent where
  | recv (fed : Bool)
  | recvClosed
  | tryRecv (fed : Bool)
  | tryRecvEmpty
  | flush (ok : Bool)
  | giveUp
  | abort
deriving DecidableEq, Repr

inductive WriterSeen where
  | fed (message : MessageWrapper)
  | flushed
  | error
  | cancelledKick
  | drained
deriving DecidableEq, Repr

namespace SendPath

/-- Feed the message at the head of the channel. -/
def feedNext (path : SendPath) (fed : Bool) : Option (SendPath × List WriterSeen) :=
  match path.channel.tryRecv with
  | none => none
  | some (message, channel) =>
      if fed then
        some ({ path with
          channel
          sink := { path.sink with buffered := path.sink.buffered ++ [message] }
          writer := .batching }, [.fed message])
      else
        some ({ path with channel, writer := .failed }, [.error])

/-- `write_loop`. -/
def writeStep (path : SendPath) : WriterEvent → Option (SendPath × List WriterSeen)
  | .recv fed => if path.writer = .receiving then path.feedNext fed else none
  | .recvClosed =>
      -- `recv` returns `None` once the channel is empty and has no sender left
      if path.writer = .receiving ∧ path.channel.queue = [] ∧ path.senderAlive = false then
        some ({ path with channel := path.channel.dropReceiver, writer := .drained }, [.drained])
      else none
  | .tryRecv fed => if path.writer = .batching then path.feedNext fed else none
  | .tryRecvEmpty =>
      if path.writer = .batching ∧ path.channel.queue = [] then
        some ({ path with writer := .flushing }, [])
      else none
  | .flush ok =>
      if path.writer = .flushing then
        if ok then
          some ({ path with sink := ⟨path.sink.fed, []⟩, writer := .receiving }, [.flushed])
        else
          some ({ path with writer := .failed }, [.error])
      else none
  | .giveUp =>
      if path.writer = .failed then
        some ({ path with channel := path.channel.dropReceiver, writer := .gaveUp },
          [.cancelledKick])
      else none
  | .abort =>
      -- an abort takes effect at some later suspension point of the task
      if path.abortRequested = true ∧ path.writer.over = false then
        some ({ path with channel := path.channel.dropReceiver, writer := .aborted }, [])
      else none

/-- `drop(outbox)` at the start of `Writer::close`. -/
def dropSender (path : SendPath) : SendPath := { path with senderAlive := false }

/-- `Writer::close` after the drain timeout. -/
def requestAbort (path : SendPath) : SendPath := { path with abortRequested := true }

/-! ## What the sender can rely on -/

theorem send_some {path after : SendPath} {payload : Payload}
    (sent : path.send payload = some after) :
    path.channel.receiverAlive = true ∧
      after.channel.queue = path.channel.queue ++ [wrap payload] ∧
      after.channel.receiverAlive = true ∧ after.senderAlive = path.senderAlive ∧
      after.sink = path.sink ∧ after.writer = path.writer ∧
      after.abortRequested = path.abortRequested := by
  unfold send at sent
  split at sent
  · next channel accepted =>
      obtain ⟨alive, queue, still⟩ := Channel.trySend_ok accepted
      simp only [Option.some.injEq] at sent
      subst sent
      exact ⟨alive, queue, still, rfl, rfl, rfl, rfl⟩
  · contradiction
  · contradiction

/-! ## What the writer can do -/

/-- What one step of the writer task can do. -/
inductive Wrote (path : SendPath) : SendPath → List WriterSeen → Prop where
  | fed {channel : Channel MessageWrapper maxSendQueueSize} (message : MessageWrapper)
      (state : path.writer = .receiving ∨ path.writer = .batching)
      (received : path.channel.tryRecv = some (message, channel)) :
      Wrote path
        { path with
          channel
          sink := { path.sink with buffered := path.sink.buffered ++ [message] }
          writer := .batching } [.fed message]
  | feedFailed {channel : Channel MessageWrapper maxSendQueueSize} (message : MessageWrapper)
      (state : path.writer = .receiving ∨ path.writer = .batching)
      (received : path.channel.tryRecv = some (message, channel)) :
      Wrote path { path with channel, writer := .failed } [.error]
  | drained (state : path.writer = .receiving) (nothing : path.channel.queue = [])
      (dropped : path.senderAlive = false) :
      Wrote path { path with channel := path.channel.dropReceiver, writer := .drained }
        [.drained]
  | batchEnded (state : path.writer = .batching) (nothing : path.channel.queue = []) :
      Wrote path { path with writer := .flushing } []
  | flushed (state : path.writer = .flushing) :
      Wrote path { path with sink := ⟨path.sink.fed, []⟩, writer := .receiving } [.flushed]
  | flushFailed (state : path.writer = .flushing) :
      Wrote path { path with writer := .failed } [.error]
  | gaveUp (state : path.writer = .failed) :
      Wrote path { path with channel := path.channel.dropReceiver, writer := .gaveUp }
        [.cancelledKick]
  | aborted (requested : path.abortRequested = true) (notOver : path.writer.over = false) :
      Wrote path { path with channel := path.channel.dropReceiver, writer := .aborted } []

theorem feedNext_cases {path after : SendPath} {fed : Bool} {seen : List WriterSeen}
    (state : path.writer = .receiving ∨ path.writer = .batching)
    (taken : path.feedNext fed = some (after, seen)) : path.Wrote after seen := by
  unfold feedNext at taken
  split at taken
  · contradiction
  · next message channel received =>
      split at taken
      · cases taken
        exact .fed message state received
      · cases taken
        exact .feedFailed message state received

theorem writeStep_cases {path after : SendPath} {event : WriterEvent} {seen : List WriterSeen}
    (taken : path.writeStep event = some (after, seen)) : path.Wrote after seen := by
  cases event with
  | recv fed =>
      simp only [writeStep, Option.ite_none_right_eq_some] at taken
      exact feedNext_cases (.inl taken.1) taken.2
  | tryRecv fed =>
      simp only [writeStep, Option.ite_none_right_eq_some] at taken
      exact feedNext_cases (.inr taken.1) taken.2
  | recvClosed =>
      simp only [writeStep, Option.ite_none_right_eq_some, Option.some.injEq,
        Prod.mk.injEq] at taken
      obtain ⟨⟨state, nothing, dropped⟩, rfl, rfl⟩ := taken
      exact .drained state nothing dropped
  | tryRecvEmpty =>
      simp only [writeStep, Option.ite_none_right_eq_some, Option.some.injEq,
        Prod.mk.injEq] at taken
      obtain ⟨⟨state, nothing⟩, rfl, rfl⟩ := taken
      exact .batchEnded state nothing
  | flush ok =>
      simp only [writeStep, Option.ite_none_right_eq_some] at taken
      obtain ⟨state, outcome⟩ := taken
      split at outcome
      · cases outcome
        exact .flushed state
      · cases outcome
        exact .flushFailed state
  | giveUp =>
      simp only [writeStep, Option.ite_none_right_eq_some, Option.some.injEq,
        Prod.mk.injEq] at taken
      obtain ⟨state, rfl, rfl⟩ := taken
      exact .gaveUp state
  | abort =>
      simp only [writeStep, Option.ite_none_right_eq_some, Option.some.injEq,
        Prod.mk.injEq] at taken
      obtain ⟨⟨requested, notOver⟩, rfl, rfl⟩ := taken
      exact .aborted requested notOver

/-! ## The invariant of the send path -/

/-- How the messages accepted from the sender are spread over sink and channel. -/
structure Carries (path : SendPath) (accepted : List MessageWrapper) : Prop where
  /-- Feeding keeps the order and invents nothing. -/
  fedPrefix : path.sink.fed <+: accepted
  /-- A working writer has lost nothing. -/
  split : path.writer.working = true → accepted = path.sink.fed ++ path.channel.queue
  /-- A writer that waits for the next message has flushed the ones before. -/
  idle : path.writer = .receiving → path.sink.buffered = []
  /-- A writer that ended by itself has flushed everything. -/
  done : path.writer = .drained → path.sink.flushed = accepted ∧ path.senderAlive = false
  /-- The channel is open exactly while the writer task runs. -/
  open_iff : path.channel.receiverAlive = true ↔ path.writer.over = false

namespace Carries

variable {path after : SendPath} {accepted : List MessageWrapper}

theorem spawn : Carries .spawn [] where
  fedPrefix := List.prefix_rfl
  split := fun _ => rfl
  idle := fun _ => rfl
  done := by simp [SendPath.spawn]
  open_iff := by decide

/-- Accepting one more message, which only a path whose outbox exists does. -/
theorem send (carries : path.Carries accepted) {payload : Payload}
    (alive : path.senderAlive = true) (sent : path.send payload = some after) :
    after.Carries (accepted ++ [wrap payload]) := by
  obtain ⟨_, queue, stillOpen, senderSame, sinkSame, writerSame, _⟩ := send_some sent
  refine ⟨?_, fun working => ?_, fun idle => ?_, fun drained => ?_, ?_⟩
  · rw [sinkSame]
    exact carries.fedPrefix.trans (List.prefix_append _ _)
  · rw [writerSame] at working
    rw [sinkSame, queue, carries.split working, List.append_assoc]
  · rw [writerSame] at idle
    rw [sinkSame]
    exact carries.idle idle
  · rw [writerSame] at drained
    have dropped := (carries.done drained).2
    rw [alive] at dropped
    contradiction
  · rw [stillOpen, writerSame, ← carries.open_iff]
    exact iff_of_true rfl (by assumption)

theorem dropSender (carries : path.Carries accepted) : path.dropSender.Carries accepted where
  fedPrefix := carries.fedPrefix
  split := carries.split
  idle := carries.idle
  done := fun drained => ⟨(carries.done drained).1, rfl⟩
  open_iff := carries.open_iff

/-- A writer that stops for an error or an abort keeps what it has fed. -/
theorem stop (carries : path.Carries accepted) (sink : after.sink = path.sink)
    (stopped : after.writer = .failed ∨ after.writer = .gaveUp ∨ after.writer = .aborted)
    (channelOpen : after.channel.receiverAlive = true ↔ after.writer.over = false) :
    after.Carries accepted := by
  have fedPrefix := carries.fedPrefix
  rw [← sink] at fedPrefix
  rcases stopped with state | state | state <;>
    exact ⟨fedPrefix, by simp [state, WriterState.working], by simp [state], by simp [state],
      channelOpen⟩

theorem requestAbort (carries : path.Carries accepted) :
    path.requestAbort.Carries accepted where
  fedPrefix := carries.fedPrefix
  split := carries.split
  idle := carries.idle
  done := carries.done
  open_iff := carries.open_iff

/-- A writer in one of its two receiving states works and has its channel open. -/
private theorem receiving (carries : path.Carries accepted)
    (state : path.writer = .receiving ∨ path.writer = .batching) :
    path.writer.working = true ∧ path.channel.receiverAlive = true := by
  rw [carries.open_iff]
  rcases state with state | state <;> simp [state, WriterState.working, WriterState.over]

/-- One step of the writer task. -/
theorem wrote (carries : path.Carries accepted) {seen : List WriterSeen}
    (wrote : path.Wrote after seen) : after.Carries accepted := by
  cases wrote with
  | @fed channel message state received =>
      obtain ⟨queue, stillOpen⟩ := Channel.tryRecv_some received
      obtain ⟨working, alive⟩ := carries.receiving state
      have moved : accepted =
          (path.sink.flushed ++ (path.sink.buffered ++ [message])) ++ channel.queue := by
        rw [carries.split working, queue, Sink.fed]
        simp
      exact ⟨⟨channel.queue, moved.symm⟩, fun _ => moved, by simp, by simp,
        by simp [stillOpen, alive, WriterState.over]⟩
  | feedFailed message state received =>
      obtain ⟨_, stillOpen⟩ := Channel.tryRecv_some received
      have alive := (carries.receiving state).2
      exact carries.stop rfl (Or.inl rfl) (by simp [stillOpen, alive, WriterState.over])
  | drained state nothing dropped =>
      have whole := carries.split (by rw [state]; rfl)
      rw [nothing, List.append_nil, Sink.fed, carries.idle state, List.append_nil] at whole
      exact ⟨carries.fedPrefix, by simp [WriterState.working], by simp,
        fun _ => ⟨whole.symm, dropped⟩, by simp [WriterState.over]⟩
  | batchEnded state nothing =>
      have whole := carries.split (by rw [state]; rfl)
      have running := carries.open_iff
      rw [state] at running
      exact ⟨carries.fedPrefix, fun _ => whole, by simp, by simp, running⟩
  | flushed state =>
      have whole := carries.split (by rw [state]; rfl)
      have running := carries.open_iff
      rw [state] at running
      have same : (Sink.mk path.sink.fed []).fed = path.sink.fed := by simp [Sink.fed]
      refine ⟨?_, fun _ => ?_, fun _ => rfl, by simp, running⟩
      · rw [same]
        exact carries.fedPrefix
      · rw [same]
        exact whole
  | flushFailed state =>
      have running := carries.open_iff
      rw [state] at running
      exact carries.stop rfl (Or.inl rfl) running
  | gaveUp state => exact carries.stop rfl (Or.inr (Or.inl rfl)) (by simp [WriterState.over])
  | aborted requested notOver =>
      exact carries.stop rfl (Or.inr (Or.inr rfl)) (by simp [WriterState.over])

/-- As long as the writer has not failed, what is not fed is in the channel. -/
theorem remainder (carries : path.Carries accepted) (intact : path.writer.intact = true) :
    accepted = path.sink.fed ++ path.channel.queue := by
  by_cases drained : path.writer = .drained
  · have closed : path.channel.receiverAlive = false := by
      rw [← Bool.not_eq_true, carries.open_iff, drained]
      decide
    have short := carries.fedPrefix.length_le
    have flushed := (carries.done drained).1
    rw [Sink.fed, flushed, List.length_append] at short
    have nothing : path.sink.buffered = [] := List.length_eq_zero_iff.mp (by omega)
    rw [path.channel.closed closed, Sink.fed, flushed, nothing, List.append_nil, List.append_nil]
  · apply carries.split
    cases state : path.writer <;>
      simp_all [WriterState.working, WriterState.intact]

end Carries

/-- The message an observation of the writer feeds to the sink. -/
def fedMessage : WriterSeen → Option MessageWrapper
  | .fed message => some message
  | .flushed | .error | .cancelledKick | .drained => none

theorem Wrote.fed_eq {path after : SendPath} {seen : List WriterSeen}
    (wrote : path.Wrote after seen) :
    after.sink.fed = path.sink.fed ++ seen.filterMap fedMessage := by
  cases wrote <;> simp [Sink.fed, fedMessage]

/-- The writer has no hand in the lifetime of the sender. -/
theorem Wrote.senderAlive {path after : SendPath} {seen : List WriterSeen}
    (wrote : path.Wrote after seen) : after.senderAlive = path.senderAlive := by
  cases wrote <;> rfl

end SendPath

end RustGameserver.Net
