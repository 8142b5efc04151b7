/-!
Contract: incremental decoders of byte streams, for any alphabet and any frame
format.

Owns:
- decoders that look at the bytes received so far and either wait, deliver one
  message and the bytes behind it, or fail;
- the laws that make such a decoder usable on a stream: a verdict is not changed
  by bytes that arrive later, waiting keeps the bytes, delivering consumes some;
- draining a buffer, feeding a stream in chunks, and the theorem that the cuts
  between the chunks cannot be observed.

Does not own: any length field, limit or message type.
-/

namespace RustGameserver.Foundation

universe u v w

/-- A stream decoder together with the laws of its verdicts. -/
structure FrameDecoder (Byte : Type u) (Message : Type v) (Failure : Type w) where
  decode : List Byte → Except Failure (Option Message) × List Byte
  waiting_keeps : ∀ {source rest},
    decode source = (.ok none, rest) → rest = source
  delivered_stable : ∀ {source rest message} (more),
    decode source = (.ok (some message), rest) →
      decode (source ++ more) = (.ok (some message), rest ++ more)
  delivered_consumes : ∀ {source rest message},
    decode source = (.ok (some message), rest) → rest.length < source.length
  failed_stable : ∀ {source rest failure} (more),
    decode source = (.error failure, rest) →
      decode (source ++ more) = (.error failure, rest ++ more)

/-- Where a decoding loop stops. -/
inductive Terminal (Failure : Type w) where
  | waiting
  | failed (failure : Failure)
deriving DecidableEq, Repr

/-- The messages delivered, the reason for stopping and the bytes left over. -/
structure Drained (Byte : Type u) (Message : Type v) (Failure : Type w) where
  messages : List Message
  terminal : Terminal Failure
  rest : List Byte

namespace Drained

variable {Byte : Type u} {Message : Type v} {Failure : Type w}

/-- Put messages delivered earlier in front. -/
def after (earlier : List Message) (drained : Drained Byte Message Failure) :
    Drained Byte Message Failure :=
  { drained with messages := earlier ++ drained.messages }

@[simp] theorem after_terminal (earlier : List Message)
    (drained : Drained Byte Message Failure) :
    (drained.after earlier).terminal = drained.terminal := rfl

@[simp] theorem after_rest (earlier : List Message)
    (drained : Drained Byte Message Failure) :
    (drained.after earlier).rest = drained.rest := rfl

/-- Two loops that deliver the same messages and stop for the same reason, and
keep the same bytes when that reason is that more bytes are needed. -/
def Agree (left right : Drained Byte Message Failure) : Prop :=
  left.messages = right.messages ∧ left.terminal = right.terminal ∧
    (left.terminal = .waiting → left.rest = right.rest)

theorem Agree.after {left right : Drained Byte Message Failure}
    (agree : left.Agree right) (earlier : List Message) :
    (left.after earlier).Agree (right.after earlier) := by
  obtain ⟨messages, terminal, rest⟩ := agree
  exact ⟨by simp [Drained.after, messages], terminal, rest⟩

theorem Agree.trans {left middle right : Drained Byte Message Failure}
    (first : left.Agree middle) (second : middle.Agree right) : left.Agree right := by
  refine ⟨first.1.trans second.1, first.2.1.trans second.2.1, fun waiting => ?_⟩
  exact (first.2.2 waiting).trans (second.2.2 (first.2.1.symm.trans waiting))

theorem Agree.refl (drained : Drained Byte Message Failure) : drained.Agree drained :=
  ⟨rfl, rfl, fun _ => rfl⟩

theorem Agree.symm {left right : Drained Byte Message Failure}
    (agree : left.Agree right) : right.Agree left :=
  ⟨agree.1.symm, agree.2.1.symm, fun waiting =>
    (agree.2.2 (agree.2.1.trans waiting)).symm⟩

end Drained

namespace FrameDecoder

variable {Byte : Type u} {Message : Type v} {Failure : Type w}
variable (decoder : FrameDecoder Byte Message Failure)

/-- Call `decode` until it waits or fails.  The loop ends because every message
delivered consumes some of the buffer. -/
def drain (source : List Byte) : Drained Byte Message Failure :=
  match _delivered : decoder.decode source with
  | (.ok none, rest) => ⟨[], .waiting, rest⟩
  | (.error failure, rest) => ⟨[], .failed failure, rest⟩
  | (.ok (some message), rest) =>
      (drain rest).after [message]
termination_by source.length
decreasing_by exact decoder.delivered_consumes _delivered

/-- Append the chunks to the buffer one at a time and drain it after each; the
first failure ends the loop. -/
def feed (buffer : List Byte) : List (List Byte) → Drained Byte Message Failure
  | [] => ⟨[], .waiting, buffer⟩
  | chunk :: later =>
      let drained := decoder.drain (buffer ++ chunk)
      match drained.terminal with
      | .failed _ => drained
      | .waiting => (feed drained.rest later).after drained.messages

theorem drain_waiting {source rest : List Byte}
    (decoded : decoder.decode source = (.ok none, rest)) :
    decoder.drain source = ⟨[], .waiting, rest⟩ := by
  rw [drain]
  split <;> simp_all

theorem drain_failed {source rest : List Byte} {failure : Failure}
    (decoded : decoder.decode source = (.error failure, rest)) :
    decoder.drain source = ⟨[], .failed failure, rest⟩ := by
  rw [drain]
  split <;> simp_all

theorem drain_delivered {source rest : List Byte} {message : Message}
    (decoded : decoder.decode source = (.ok (some message), rest)) :
    decoder.drain source = (decoder.drain rest).after [message] := by
  rw [drain]
  split <;> simp_all

/-- What is left over when a loop waits is a buffer on which `decode` waits. -/
theorem decode_rest_of_waiting {source : List Byte}
    (waiting : (decoder.drain source).terminal = .waiting) :
    decoder.decode (decoder.drain source).rest = (.ok none, (decoder.drain source).rest) := by
  induction source using drain.induct decoder with
  | case1 source rest decoded =>
      rw [decoder.drain_waiting decoded]
      have same := decoder.waiting_keeps decoded
      subst same
      exact decoded
  | case2 source failure rest decoded =>
      rw [decoder.drain_failed decoded] at waiting
      contradiction
  | case3 source message rest decoded inductionHypothesis =>
      rw [decoder.drain_delivered decoded] at waiting ⊢
      exact inductionHypothesis waiting

/-- Bytes that arrive after a drained buffer continue where the loop stopped. -/
theorem drain_append (source more : List Byte) :
    (decoder.drain (source ++ more)).Agree
      (match (decoder.drain source).terminal with
      | .failed _ => decoder.drain source
      | .waiting =>
          (decoder.drain ((decoder.drain source).rest ++ more)).after
            (decoder.drain source).messages) := by
  induction source using drain.induct decoder with
  | case1 source rest decoded =>
      rw [decoder.drain_waiting decoded, decoder.waiting_keeps decoded]
      exact Drained.Agree.refl _
  | case2 source failure rest decoded =>
      rw [decoder.drain_failed decoded,
        decoder.drain_failed (decoder.failed_stable more decoded)]
      exact ⟨rfl, rfl, fun waiting => by contradiction⟩
  | case3 source message rest decoded inductionHypothesis =>
      rw [decoder.drain_delivered decoded,
        decoder.drain_delivered (decoder.delivered_stable more decoded)]
      have tail := inductionHypothesis.after [message]
      simp only [Drained.after_terminal, Drained.after_rest]
      split at tail <;> simp_all [Drained.after]

/-- The cuts between chunks cannot be observed. -/
theorem feed_agrees_drain (buffer : List Byte) (chunks : List (List Byte))
    (idle : decoder.decode buffer = (.ok none, buffer)) :
    (decoder.feed buffer chunks).Agree (decoder.drain (buffer ++ chunks.flatten)) := by
  induction chunks generalizing buffer with
  | nil =>
      rw [List.flatten_nil, List.append_nil, decoder.drain_waiting idle]
      exact Drained.Agree.refl _
  | cons chunk later inductionHypothesis =>
      have joined := decoder.drain_append (buffer ++ chunk) later.flatten
      rw [List.append_assoc] at joined
      rw [List.flatten_cons]
      refine Drained.Agree.trans ?_ joined.symm
      simp only [feed]
      split
      · exact Drained.Agree.refl _
      · next waiting =>
          exact (inductionHypothesis _ (decoder.decode_rest_of_waiting waiting)).after _

end FrameDecoder

end RustGameserver.Foundation
