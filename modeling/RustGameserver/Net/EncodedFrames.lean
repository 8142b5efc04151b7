import RustGameserver.Net.Codec

/-!
Contract: what the decoder at the other end makes of whatever the encoder writes.

Owns:
- acceptance of one encoded message, over every wrapper and every buffer;
- the one wrapper whose frame is rejected, and that there is no other.

Does not own: which messages the servers and clients send.
-/

namespace RustGameserver.Net

open RustGameserver.Proto

namespace MessageCodec

variable {DecodeError : Type} {prost : ProstMessage DecodeError}

/-- Encoding left the buffer alone, or appended bytes which the decoder takes off
the front of a stream, all of them and no more, as that same message. -/
def Accepted (prost : ProstMessage DecodeError) (message : MessageWrapper)
    (destination : List UInt8) : Prop :=
  encode prost message destination = (.ok (), destination) ∨
    ∃ written, encode prost message destination = (.ok (), destination ++ written) ∧
      ∀ rest, decode prost (written ++ rest) = (.ok (some message), rest)

/-- A wrapper with all fields at their defaults. -/
def blank : MessageWrapper := ⟨0, none⟩

/-- No other message has an empty body, since an empty body is read as the blank one. -/
theorem encode_eq_nil_iff {message : MessageWrapper} (faithful : prost.Faithful message)
    (faithfulBlank : prost.Faithful blank) (omitted : prost.encode blank = []) :
    prost.encode message = [] ↔ message = blank := by
  constructor
  · intro empty
    have read := faithful.decode_encode
    have readBlank := faithfulBlank.decode_encode
    rw [empty] at read
    rw [omitted, read, Except.ok.injEq] at readBlank
    exact readBlank
  · rintro rfl
    exact omitted

theorem frame_of_empty {message : MessageWrapper} (faithful : prost.Faithful message)
    (empty : prost.encode message = []) : frame prost message = [0, 0] := by
  have size : prost.encodedLen message = 0 := by
    rw [faithful.encodedLen_eq, empty, List.length_nil]
  rw [frame, size, empty, if_neg (by decide)]
  rfl

/-- A length of zero is rejected, and stays in the buffer. -/
theorem decode_zero (prost : ProstMessage DecodeError) (rest : List UInt8) :
    decode prost (0 :: 0 :: rest) = (.error (.invalidLength 0), 0 :: 0 :: rest) := rfl

/-- Of all wrappers the blank one alone is framed so that the decoder rejects it:
its body is empty, and the length of zero is written all the same. -/
theorem encode_accepted_iff (prost : ProstMessage DecodeError) (message : MessageWrapper)
    (faithful : prost.Faithful message) (faithfulBlank : prost.Faithful ⟨0, none⟩)
    (omitted : prost.encode ⟨0, none⟩ = []) (destination : List UInt8) :
    Accepted prost message destination ↔ message ≠ ⟨0, none⟩ := by
  have empty := encode_eq_nil_iff faithful faithfulBlank omitted
  rw [Accepted, encode_eq]
  constructor
  · rintro accepted rfl
    rw [frame_of_empty faithful omitted] at accepted
    rcases accepted with unchanged | ⟨written, appended, decoded⟩
    · simp at unchanged
    · simp only [Prod.mk.injEq, List.append_cancel_left_eq, true_and] at appended
      have delivered := decoded []
      rw [← appended, List.append_nil, decode_zero] at delivered
      simp at delivered
  · intro different
    have body : prost.encode message ≠ [] := fun nothing => different (empty.mp nothing)
    by_cases admissible : prost.encodedLen message ≤ maxMessageBodySize
    · right
      exact ⟨_, rfl, decode_frame_of_body faithful body admissible⟩
    · left
      rw [frame, if_pos (by omega), List.append_nil]

/-- `prost` on wrappers without payload whose `message_size` takes one byte at
most, and on the messages of `sampleProst`. -/
def wrapperProst : ProstMessage Unit where
  encodedLen := fun message => (wrapperEncode message).length
  encode := wrapperEncode
  decode := fun
    | [] => .ok ⟨0, none⟩
    | [0x08, size] => .ok ⟨Int32.ofNat size.toNat, none⟩
    | body => sampleProst.decode body
where
  wrapperEncode (message : MessageWrapper) : List UInt8 :=
    if message.payload.isNone ∧ 0 < message.messageSize ∧ message.messageSize < 128 then
      [0x08, UInt8.ofNat message.messageSize.toNatClampNeg]
    else sampleProst.encode message

/-- A wrapper that carries nothing but its `message_size`, and the blank one. -/
theorem encode_accepted_iff_wrapper :
    (Accepted wrapperProst ⟨1, none⟩ [0xFF] ↔ (⟨1, none⟩ : MessageWrapper) ≠ ⟨0, none⟩) ∧
      (Accepted wrapperProst ⟨0, none⟩ [0xFF] ↔
        (⟨0, none⟩ : MessageWrapper) ≠ ⟨0, none⟩) := by
  have faithfulBlank : wrapperProst.Faithful ⟨0, none⟩ := ⟨rfl, rfl, by simp⟩
  have faithful : wrapperProst.Faithful ⟨1, none⟩ := ⟨rfl, rfl, by simp⟩
  exact ⟨encode_accepted_iff wrapperProst _ faithful faithfulBlank rfl [0xFF],
    encode_accepted_iff wrapperProst _ faithfulBlank faithfulBlank rfl [0xFF]⟩

/-- The blank wrapper is written as a length of zero and nothing else, on which the
decoder fails. -/
theorem blank_frame_rejected :
    wrapperProst.Faithful ⟨0, none⟩ ∧ wrapperProst.encode ⟨0, none⟩ = [] ∧
      encode wrapperProst ⟨0, none⟩ [] = (.ok (), [0, 0]) ∧
      decode wrapperProst [0, 0] = (.error (.invalidLength 0), [0, 0]) ∧
      ¬ Accepted wrapperProst ⟨0, none⟩ [] := by
  refine ⟨⟨rfl, rfl, by simp⟩, rfl, rfl, rfl, ?_⟩
  rintro (unchanged | ⟨written, appended, decoded⟩)
  · simp [encode, wrapperProst, wrapperProst.wrapperEncode, sampleProst,
      sampleProst.sampleEncode, putU16Le, maxMessageBodySize, maxBufferSize] at unchanged
  · have zero : [0, 0] = written := congrArg Prod.snd appended
    have delivered := decoded []
    rw [← zero, List.append_nil, decode_zero] at delivered
    simp at delivered

end MessageCodec

end RustGameserver.Net
