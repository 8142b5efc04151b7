import Mathlib.Data.List.Basic
import RustGameserver.Foundation.FrameStream

/-!
Contract: a pipe that carries messages as frames of bytes, for any frame format.

Owns:
- a pipe whose bytes arrive in order, in pieces of any size;
- the frames that a stream decoder takes off the front of a stream;
- the messages in a pipe: the next one is what its reader decodes, unless it has to wait.

Does not own: who writes to the pipe, and when its reader decodes.
-/

namespace RustGameserver.Foundation

universe u v w

/-- What has been written to a pipe and not been decoded. -/
structure Pipe (Byte : Type u) where
  /-- What has not arrived. -/
  flying : List Byte
  /-- What has arrived. -/
  buffer : List Byte
deriving DecidableEq, Repr

namespace Pipe

variable {Byte : Type u} (pipe : Pipe Byte)

def empty : Pipe Byte := ⟨[], []⟩

def write (bytes : List Byte) : Pipe Byte := { pipe with flying := pipe.flying ++ bytes }

/-- The next bytes arrive, as many as there are. -/
def arrive (count : Nat) : Pipe Byte :=
  ⟨pipe.flying.drop count, pipe.buffer ++ pipe.flying.take count⟩

/-- The bytes in order. -/
def bytes : List Byte := pipe.buffer ++ pipe.flying

@[simp] theorem bytes_write (more : List Byte) : (pipe.write more).bytes = pipe.bytes ++ more := by
  rw [bytes, write, bytes, List.append_assoc]

@[simp] theorem bytes_arrive (count : Nat) : (pipe.arrive count).bytes = pipe.bytes := by
  rw [bytes, arrive, List.append_assoc, List.take_append_drop, bytes]

end Pipe

/-- A stream decoder, and what is written for each message. -/
structure Framing (Byte : Type u) (Message : Type v) (Failure : Type w) where
  decoder : FrameDecoder Byte Message Failure
  frame : Message → List Byte
  idle : decoder.decode [] = (.ok none, [])

namespace Framing

variable {Byte : Type u} {Message : Type v} {Failure : Type w}
  (framing : Framing Byte Message Failure)

/-- The decoder takes the frame of the message off the front of every stream, all of it
and no more. -/
def Carried (message : Message) : Prop :=
  ∀ rest, framing.decoder.decode (framing.frame message ++ rest) = (.ok (some message), rest)

/-- What is written for the message: something, or nothing at all. -/
def writes (message : Message) : Bool := !(framing.frame message).isEmpty

/-- The message is carried, unless nothing is written for it. -/
def Sound (message : Message) : Prop := framing.writes message = true → framing.Carried message

/-- The pipe holds the frames of these messages, which are carried. -/
structure Holds (pipe : Pipe Byte) (pending : List Message) : Prop where
  bytes : pipe.bytes = pending.flatMap framing.frame
  carried : ∀ message ∈ pending, framing.Carried message

variable {framing} {pipe : Pipe Byte} {pending : List Message}

theorem holds_empty : framing.Holds Pipe.empty [] := ⟨rfl, by simp⟩

/-- One more message, if anything is written for it. -/
theorem Holds.write (holds : framing.Holds pipe pending) {message : Message}
    (sound : framing.Sound message) :
    framing.Holds (pipe.write (framing.frame message))
      (pending ++ [message].filter framing.writes) := by
  rw [List.filter_singleton]
  cases written : framing.writes message with
  | false =>
      have nothing : framing.frame message = [] := by simpa [writes] using written
      constructor
      · rw [Pipe.bytes_write, nothing, List.append_nil, holds.bytes, cond_false, List.append_nil]
      · rw [cond_false, List.append_nil]
        exact holds.carried
  | true =>
      constructor
      · rw [Pipe.bytes_write, holds.bytes, cond_true, List.flatMap_append, List.flatMap_singleton]
      · intro other member
        rw [cond_true, List.mem_append, List.mem_singleton] at member
        rcases member with earlier | rfl
        · exact holds.carried other earlier
        · exact sound written

/-- More messages, in order. -/
theorem Holds.writeAll (holds : framing.Holds pipe pending) {messages : List Message}
    (sound : ∀ message ∈ messages, framing.Sound message) :
    framing.Holds (pipe.write (messages.flatMap framing.frame))
      (pending ++ messages.filter framing.writes) := by
  induction messages generalizing pipe pending with
  | nil => simpa [Pipe.write] using holds
  | cons message later inductionHypothesis =>
      have first := holds.write (sound message List.mem_cons_self)
      have rest := inductionHypothesis first
        fun other member => sound other (List.mem_cons_of_mem _ member)
      have joined : (pipe.write (framing.frame message)).write (later.flatMap framing.frame) =
          pipe.write ((message :: later).flatMap framing.frame) := by
        simp [Pipe.write]
      rw [joined, List.append_assoc, ← List.filter_append, List.singleton_append] at rest
      exact rest

/-- Something is written for what is carried. -/
theorem writes_of_carried {message : Message} (carried : framing.Carried message) :
    framing.writes message = true := by
  rw [writes, Bool.not_eq_true', List.isEmpty_eq_false_iff]
  intro nothing
  have decoded := carried []
  rw [nothing, List.append_nil, framing.idle] at decoded
  simp at decoded

/-- More messages that are carried. -/
theorem Holds.writeCarried (holds : framing.Holds pipe pending) {messages : List Message}
    (carried : ∀ message ∈ messages, framing.Carried message) :
    framing.Holds (pipe.write (messages.flatMap framing.frame)) (pending ++ messages) := by
  have all : messages.filter framing.writes = messages :=
    List.filter_eq_self.mpr fun message member => writes_of_carried (carried message member)
  have written := holds.writeAll fun message member _ => carried message member
  rw [all] at written
  exact written

theorem Holds.arrive (holds : framing.Holds pipe pending) (count : Nat) :
    framing.Holds (pipe.arrive count) pending :=
  ⟨by rw [Pipe.bytes_arrive, holds.bytes], holds.carried⟩

/-- What decoding the bytes that have arrived yields: nothing yet, or the next message. -/
theorem Holds.decode (holds : framing.Holds pipe pending) :
    framing.decoder.decode pipe.buffer = (.ok none, pipe.buffer) ∨
      ∃ message later rest, pending = message :: later ∧
        framing.decoder.decode pipe.buffer = (.ok (some message), rest) ∧
        framing.Holds { pipe with buffer := rest } later := by
  rcases decoded : framing.decoder.decode pipe.buffer with ⟨verdict, rest⟩
  cases pending with
  | nil =>
      have nothing : pipe.buffer = [] := (List.append_eq_nil_iff.mp holds.bytes).1
      rw [nothing, framing.idle] at decoded
      rw [nothing]
      exact .inl decoded.symm
  | cons message later =>
      have next : framing.decoder.decode (pipe.buffer ++ pipe.flying) =
          (.ok (some message), later.flatMap framing.frame) := by
        rw [← Pipe.bytes, holds.bytes, List.flatMap_cons]
        exact holds.carried message List.mem_cons_self _
      match verdict with
      | .ok none =>
          rw [framing.decoder.waiting_keeps decoded]
          exact .inl rfl
      | .ok (some found) =>
          rw [framing.decoder.delivered_stable pipe.flying decoded] at next
          simp only [Prod.mk.injEq, Except.ok.injEq, Option.some.injEq] at next
          obtain ⟨rfl, behind⟩ := next
          exact .inr ⟨found, later, rest, rfl, rfl, behind,
            fun other member => holds.carried other (List.mem_cons_of_mem _ member)⟩
      | .error failure =>
          rw [framing.decoder.failed_stable pipe.flying decoded] at next
          simp at next

/-- What arrives cannot fail to be decoded. -/
theorem Holds.never_fails (holds : framing.Holds pipe pending) (failure : Failure)
    (rest : List Byte) : framing.decoder.decode pipe.buffer ≠ (.error failure, rest) := by
  rcases holds.decode with waits | ⟨message, later, after, _, decoded, _⟩
  · rw [waits]
    simp
  · rw [decoded]
    simp

/-- What is decoded is the next message. -/
theorem Holds.delivers (holds : framing.Holds pipe pending) {message : Message}
    {rest : List Byte} (decoded : framing.decoder.decode pipe.buffer = (.ok (some message), rest)) :
    ∃ later, pending = message :: later ∧ framing.Holds { pipe with buffer := rest } later := by
  rcases holds.decode with waits | ⟨next, later, after, shape, delivered, further⟩
  · rw [waits] at decoded
    simp at decoded
  · rw [delivered] at decoded
    simp only [Prod.mk.injEq, Except.ok.injEq, Option.some.injEq] at decoded
    obtain ⟨rfl, rfl⟩ := decoded
    exact ⟨later, shape, further⟩

/-- Once everything has arrived, decoding waits only where there is nothing left. -/
theorem Holds.complete (holds : framing.Holds pipe pending) (arrived : pipe.flying = [])
    (waits : framing.decoder.decode pipe.buffer = (.ok none, pipe.buffer)) : pending = [] := by
  cases pending with
  | nil => rfl
  | cons message later =>
      have bytes := holds.bytes
      rw [Pipe.bytes, arrived, List.append_nil, List.flatMap_cons] at bytes
      rw [bytes, holds.carried message List.mem_cons_self] at waits
      simp at waits

end Framing

end RustGameserver.Foundation
