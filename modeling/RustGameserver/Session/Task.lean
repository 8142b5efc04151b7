import RustGameserver.Foundation.History
import RustGameserver.Net.Outbox
import RustGameserver.Net.Registry
import RustGameserver.Session.Recording

/-!
Contract: the session task, which `login_server::session` and
`game_server::session` write with the same `run`, `event_loop` and task spawning.

Owns:
- what a handler can ask of the session task in its tail position;
- `run` and `event_loop`, one step for each suspension point and each handler;
- the tasks a session spawns, from their first backend call to the delivery of
  their result on the bounded inner channel;
- what can be observed of a session.

Does not own: the handlers and the fields of the two servers, which a `Service`
supplies, and the registry, which a server applies to the calls observed here.

Granularity.  A handler runs between two suspension points.  Its only actions on
state it shares with other tasks are at most one registry call and, after that,
one `try_send` on the session's own queue, and nobody else sees the fields of the
session, so it is one step.  The `select!` is two steps, because the kick token
may be cancelled after it has been polled.
-/

namespace RustGameserver.Session

open RustGameserver.Foundation
open RustGameserver.Net
open RustGameserver.Proto

/-- How a handler ends. -/
inductive Reaction (Fields Work : Type) where
  | proceed (fields : Fields)                  -- `ControlFlow::Continue`
  | stop (fields : Fields)                     -- `ControlFlow::Break`
  | send (fields : Fields) (payload : Payload) -- the outcome of `send_flow`
  | spawn (fields : Fields) (work : Work)      -- `tokio::spawn`, then `Continue`
  /-- `registry.authenticate`, then the outcome of `send_flow`. -/
  | authenticate (fields : Fields) (userId : String) (payload : Payload)

namespace Reaction

variable {Fields Work : Type}

/-- The session's fields after the handler. -/
def fields : Reaction Fields Work → Fields
  | .proceed fields | .stop fields | .send fields _ | .spawn fields _
  | .authenticate fields _ _ => fields

/-- The user id the handler registers, or else the one the session already had. -/
def userAfter (before : Option String) : Reaction Fields Work → Option String
  | .authenticate _ userId _ => some userId
  | .proceed _ | .stop _ | .send _ _ | .spawn _ _ => before

end Reaction

/-- A backend task between two calls: either it awaits another call, or it
returns the message for the session. -/
inductive Progress (Work Inner : Type) where
  | awaits (work : Work)
  | returns (message : Inner)
deriving DecidableEq, Repr

/-- What a server plugs into the session task.  The laws say that a handler
changes the account exactly when it registers it, and that it tells the client of
a success only then. -/
structure Service (Fields Work Reply Inner : Type) where
  create : SessionId → Nat → Fields
  user : Fields → Option String
  lastKeepAlive : Fields → Nat
  keepAliveTimeout : Nat
  onRemote : Fields → Nat → MessageWrapper → Reaction Fields Work
  onInner : Fields → Nat → Inner → Reaction Fields Work
  /-- What a task does with the reply to the call it awaits. -/
  resume : Work → Reply → Option (Progress Work Inner)
  /-- The account whose logout `run` records at the end. -/
  logoutAccount : Fields → Option UInt64
  /-- The payload tells the client that it is authenticated. -/
  isSuccess : Payload → Bool
  create_user : ∀ sessionId now, user (create sessionId now) = none
  onRemote_user : ∀ fields now message,
    user (onRemote fields now message).fields =
      (onRemote fields now message).userAfter (user fields)
  onInner_user : ∀ fields now message,
    user (onInner fields now message).fields =
      (onInner fields now message).userAfter (user fields)
  greeting_success : isSuccess (.connectedResponse ⟨0⟩) = false
  onRemote_success : ∀ fields now message after payload,
    onRemote fields now message = .send after payload → isSuccess payload = false
  onInner_success : ∀ fields now message after payload,
    onInner fields now message = .send after payload → isSuccess payload = false

inductive JobState (Work Inner : Type) where
  /-- suspended in a backend call -/
  | running (work : Work)
  /-- suspended in `inner_tx.send` -/
  | finished (message : Inner)
  /-- the message was delivered, or dropped because the session is gone -/
  | ended (message : Inner)
deriving DecidableEq, Repr

/-- A spawned backend task.  `calls` and `replies` record what it has asked of
the backend and what it was told. -/
structure Job (Work Reply Inner : Type) where
  calls : List Work
  replies : List Reply
  state : JobState Work Inner
deriving DecidableEq, Repr

/-- The task has neither delivered its message nor lost it. -/
def Job.pending {Work Reply Inner : Type} (job : Job Work Reply Inner) : Bool :=
  match job.state with
  | .running _ | .finished _ => true
  | .ended _ => false

/-- Where `run` stands. -/
inductive Stage where
  | greeting     -- before the first `ConnectedResponse`
  | selecting    -- at the top of the event loop
  | polling      -- in `select!`, the kick token seen uncancelled
  | leaving      -- `event_loop` has returned
  | removed      -- the registry entry is gone
  | closing      -- in `Writer::close`, the outbox dropped
  | closed       -- `Writer::close` has returned
  | ended        -- `run` has returned, or is in `record_logout`
deriving DecidableEq, Repr

/-- `event_loop` has not returned. -/
def Stage.inLoop : Stage → Bool
  | .greeting | .selecting | .polling => true
  | .leaving | .removed | .closing | .closed | .ended => false

/-- Between `registry.register` and `registry.remove`. -/
def Stage.registered : Stage → Bool
  | .greeting | .selecting | .polling | .leaving => true
  | .removed | .closing | .closed | .ended => false

theorem Stage.registered_of_inLoop {stage : Stage} (inLoop : stage.inLoop = true) :
    stage.registered = true := by
  cases stage <;> first | rfl | contradiction

/-- The state of one session task with its writer and its spawned tasks. -/
structure Task (Fields Work Reply Inner : Type) where
  stage : Stage
  fields : Fields
  kick : KickToken
  path : SendPath
  jobs : List (Job Work Reply Inner)
  /-- The inner channel; a message carries the index of the task it came from. -/
  inner : Channel (Nat × Inner) maxMessageChannelCapacity
  /-- The last reading of the clock. -/
  clock : Nat
  /-- Where `record_logout` stands, which ends the `run` of a GameServer session. -/
  recording : Option Recording

/-- What `reader.next()` yields. -/
inductive Frame where
  | message (message : MessageWrapper)
  | error
  | closed
deriving DecidableEq, Repr

/-- One step of a session, its writer or one of its tasks. -/
inductive Event (Reply : Type) where
  | greet
  | poll (cancelled : Bool)
  | select (now : Nat) (frame : Option Frame)
  | reply (job : Nat) (reply : Reply)
  | deliver (job : Nat)
  | write (event : WriterEvent)
  | remove
  | dropOutbox
  | writerJoined
  | drainTimeout
  | finish
  | record (event : RecordEvent)
deriving DecidableEq, Repr

/-- What a payload is sent in answer to. -/
inductive Cause where
  | connection
  | frame
  | result (job : Nat)
deriving DecidableEq, Repr

/-- Why `event_loop` returned without a handler asking for it. -/
inductive Departure where
  | kicked
  | receiveError
  | disconnected
  | keepAliveTimeout
deriving DecidableEq, Repr

/-- What can be observed of a session. -/
inductive Seen (Fields Work Reply Inner : Type) where
  | handled (before : Fields) (message : MessageWrapper)
  | consumed (job : Nat) (message : Inner)
  | authenticate (after : Fields) (userId : String)
  | accepted (cause : Cause) (payload : Payload)
  | refused (cause : Cause) (payload : Payload)
  | spawned (job : Nat) (work : Work)
  | replied (job : Nat) (reply : Reply)
  | left (departure : Departure)
  | writer (seen : WriterSeen)
  | remove
  | drainTimeout
  | recordLogout (accountId : UInt64)
  | record (seen : RecordSeen)

namespace Task

variable {Fields Work Reply Inner : Type} (service : Service Fields Work Reply Inner)

/-- `run` up to the event loop. -/
def create (sessionId : SessionId) (kick : KickToken) (now : Nat) :
    Task Fields Work Reply Inner where
  stage := .greeting
  fields := service.create sessionId now
  kick := kick
  path := .spawn
  jobs := []
  inner := .empty
  clock := now
  recording := none

variable {service} (task : Task Fields Work Reply Inner)

/-- `event_loop` returns, which drops `inner_rx`. -/
def leave : Task Fields Work Reply Inner :=
  { task with stage := .leaving, inner := task.inner.dropReceiver }

/-- `send_flow` as the last action of a handler: a refusal ends the loop. -/
def sendFlow (cause : Cause) (payload : Payload) :
    Task Fields Work Reply Inner × List (Seen Fields Work Reply Inner) :=
  match task.path.send payload with
  | some path => ({ task with path, stage := .selecting }, [.accepted cause payload])
  | none => (task.leave, [.refused cause payload])

/-- Carry out the reaction of a handler. -/
def perform (cause : Cause) :
    Reaction Fields Work → Task Fields Work Reply Inner × List (Seen Fields Work Reply Inner)
  | .proceed fields => ({ task with fields, stage := .selecting }, [])
  | .stop fields => ({ task with fields }.leave, [])
  | .send fields payload => { task with fields }.sendFlow cause payload
  | .spawn fields work =>
      ({ task with
        fields
        stage := .selecting
        jobs := task.jobs ++ [⟨[work], [], .running work⟩] },
        [.spawned task.jobs.length work])
  | .authenticate fields userId payload =>
      let (sent, seen) := { task with fields }.sendFlow cause payload
      (sent, .authenticate fields userId :: seen)

variable (service)

/-- The KeepAlive deadline, which only an authenticated session has. -/
def keepAliveDeadline : Option Nat :=
  (service.user task.fields).map fun _ =>
    service.lastKeepAlive task.fields + service.keepAliveTimeout

/-- The timer branch of `select!` is ready. -/
def timedOut (now : Nat) : Bool :=
  (task.keepAliveDeadline service).any fun deadline => deadline ≤ now

/-- The frame branch. -/
def onFrame (now : Nat) :
    Frame → Task Fields Work Reply Inner × List (Seen Fields Work Reply Inner)
  | .message message =>
      let (after, seen) := task.perform .frame (service.onRemote task.fields now message)
      (after, .handled task.fields message :: seen)
  | .error => (task.leave, [.left .receiveError])
  | .closed => (task.leave, [.left .disconnected])

/-- The branches of `select!` in their order.  `frame` is what the reader has
ready; the later branches are only looked at when that is nothing. -/
def select (now : Nat) (frame : Option Frame) :
    Task Fields Work Reply Inner × List (Seen Fields Work Reply Inner) :=
  match frame with
  | some frame => task.onFrame service now frame
  | none =>
      match task.inner.tryRecv with
      | some ((job, message), inner) =>
          let (after, seen) := { task with inner }.perform (.result job)
            (service.onInner task.fields now message)
          (after, .consumed job message :: seen)
      | none =>
          if task.timedOut service now then (task.leave, [.left .keepAliveTimeout])
          else ({ task with stage := .selecting }, [])

/-- A spawned task receives the reply to the call it awaits. -/
def reply (index : Nat) (reply : Reply) :
    Option (Task Fields Work Reply Inner × List (Seen Fields Work Reply Inner)) :=
  match task.jobs[index]? with
  | none => none
  | some job =>
      match job.state with
      | .finished _ | .ended _ => none
      | .running work =>
          match service.resume work reply with
          | none => none
          | some (.awaits next) =>
              some ({ task with
                jobs := task.jobs.set index
                  ⟨job.calls ++ [next], job.replies ++ [reply], .running next⟩ },
                [.replied index reply])
          | some (.returns message) =>
              some ({ task with
                jobs := task.jobs.set index
                  ⟨job.calls, job.replies ++ [reply], .finished message⟩ },
                [.replied index reply])

variable {service}

/-- `inner_tx.send(message).await` of a spawned task completes: the message is
queued when there is room, and dropped when the session is gone. -/
def deliver (index : Nat) : Option (Task Fields Work Reply Inner) :=
  match task.jobs[index]? with
  | none => none
  | some job =>
      match job.state with
      | .running _ | .ended _ => none
      | .finished message =>
          let jobs := task.jobs.set index { job with state := .ended message }
          match task.inner.trySend (index, message) with
          | .ok inner => some { task with jobs, inner }
          | .error .closed => some { task with jobs }
          | .error .full => none

variable (service)

/-- One step.  What follows the event loop is the rest of `run`. -/
def step : Event Reply →
    Option (Task Fields Work Reply Inner × List (Seen Fields Work Reply Inner))
  | .greet =>
      if task.stage = .greeting then
        some (task.sendFlow .connection (.connectedResponse ⟨0⟩))
      else none
  | .poll cancelled =>
      if task.stage = .selecting then
        if cancelled then some (task.leave, [.left .kicked])
        else some ({ task with stage := .polling }, [])
      else none
  | .select now frame =>
      if task.stage = .polling ∧ task.clock ≤ now then
        some ({ task with clock := now }.select service now frame)
      else none
  | .reply job reply => task.reply service job reply
  | .deliver job => (task.deliver job).map fun after => (after, [])
  | .write event =>
      (task.path.writeStep event).map fun (path, seen) =>
        ({ task with path }, seen.map Seen.writer)
  | .remove =>
      if task.stage = .leaving then some ({ task with stage := .removed }, [.remove])
      else none
  | .dropOutbox =>
      if task.stage = .removed then
        some ({ task with stage := .closing, path := task.path.dropSender }, [])
      else none
  | .writerJoined =>
      if task.stage = .closing ∧ task.path.writer.over = true then
        some ({ task with stage := .closed }, [])
      else none
  | .drainTimeout =>
      if task.stage = .closing then
        some ({ task with stage := .closed, path := task.path.requestAbort }, [.drainTimeout])
      else none
  | .finish =>
      if task.stage = .closed then
        some ({ task with
          stage := .ended
          recording := (service.logoutAccount task.fields).map fun _ => .attempting },
          ((service.logoutAccount task.fields).map Seen.recordLogout).toList)
      else none
  | .record event =>
      if task.stage = .ended then
        (Recording.step task.recording event).map fun (recording, seen) =>
          ({ task with recording }, seen.map Seen.record)
      else none

end Task

/-- The session task of a server as a machine. -/
def machine {Fields Work Reply Inner : Type} (service : Service Fields Work Reply Inner) :
    Machine (Task Fields Work Reply Inner) (Event Reply) (Seen Fields Work Reply Inner) where
  Initial := fun task => ∃ sessionId kick now, task = .create service sessionId kick now
  step := fun task event => task.step service event

end RustGameserver.Session
