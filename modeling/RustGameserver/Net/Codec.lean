import RustGameserver.Foundation.FrameStream
import RustGameserver.Net.Consts
import RustGameserver.Proto.Message

/-!
Contract: `net::codec`, the framing `[u16 little-endian body length][body]`.

Owns:
- `MessageCodec::decode` and `MessageCodec::encode` on the bytes of a `BytesMut`;
- the decoder as a stream decoder, and with it the independence of decoding
  from TCP segmentation;
- the round trip of a stream of messages through both halves.

Does not own: the body encoding.  `ProstMessage` stands for the `prost::Message`
implementation generated for `MessageWrapper`.
-/

namespace RustGameserver.Net

open RustGameserver.Foundation
open RustGameserver.Proto

/-- `impl prost::Message for MessageWrapper`. -/
structure ProstMessage (DecodeError : Type) where
  encodedLen : MessageWrapper → Nat
  encode : MessageWrapper → List UInt8
  decode : List UInt8 → Except DecodeError MessageWrapper

/-- What `prost` documents about one message: decoding inverts encoding, the
announced length is the length of the encoding, and a `oneof` that is set is
written with its tag, whatever its value. -/
structure ProstMessage.Faithful {DecodeError : Type} (prost : ProstMessage DecodeError)
    (message : MessageWrapper) : Prop where
  decode_encode : prost.decode (prost.encode message) = .ok message
  encodedLen_eq : prost.encodedLen message = (prost.encode message).length
  encode_ne_nil : message.payload.isSome → prost.encode message ≠ []

def headerSize : Nat := 2

inductive CodecError (DecodeError : Type) where
  | invalidLength (size : Nat)
  | decode (error : DecodeError)
deriving DecidableEq, Repr

namespace MessageCodec

variable {DecodeError : Type}

/-- `u16::from_le_bytes`. -/
def u16FromLeBytes (low high : UInt8) : Nat := low.toNat + 256 * high.toNat

/-- `BufMut::put_u16_le`, appending to the buffer. -/
def putU16Le (destination : List UInt8) (value : UInt16) : List UInt8 :=
  destination ++ [UInt8.ofNat value.toNat, UInt8.ofNat (value.toNat / 256)]

/-- `Decoder::decode`.  The second component is the buffer afterwards.
`src.reserve` changes capacity only and is not visible here. -/
def decode (prost : ProstMessage DecodeError) (source : List UInt8) :
    Except (CodecError DecodeError) (Option MessageWrapper) × List UInt8 :=
  match source with
  | low :: high :: received =>
      let bodySize := u16FromLeBytes low high
      if bodySize = 0 ∨ bodySize > maxMessageBodySize then
        (.error (.invalidLength bodySize), source)
      else if source.length < headerSize + bodySize then
        (.ok none, source)
      else
        -- the frame leaves the buffer before its body is looked at
        let body := received.take bodySize
        let rest := received.drop bodySize
        match prost.decode body with
        | .error error => (.error (.decode error), rest)
        | .ok message => (.ok (some message), rest)
  -- fewer bytes than a header
  | _ => (.ok none, source)

/-- `Encoder::encode`.  It never fails: an oversized message is dropped. -/
def encode (prost : ProstMessage DecodeError) (message : MessageWrapper)
    (destination : List UInt8) : Except (CodecError DecodeError) Unit × List UInt8 :=
  let bodySize := prost.encodedLen message
  if bodySize > maxMessageBodySize then
    (.ok (), destination)
  else
    (.ok (), putU16Le destination (UInt16.ofNat bodySize) ++ prost.encode message)

/-- Encode a list of messages in order into one buffer, stopping at an error. -/
def encodeAll (prost : ProstMessage DecodeError) :
    List MessageWrapper → List UInt8 → Except (CodecError DecodeError) Unit × List UInt8
  | [], destination => (.ok (), destination)
  | message :: later, destination =>
      match encode prost message destination with
      | (.error error, written) => (.error error, written)
      | (.ok (), written) => encodeAll prost later written

/-! ## One frame -/

variable {prost : ProstMessage DecodeError}

/-- A complete frame with an admissible length is cut off the buffer, whatever
its body decodes to. -/
theorem decode_frame (prost : ProstMessage DecodeError) (low high : UInt8)
    (body rest : List UInt8)
    (length : body.length = u16FromLeBytes low high)
    (positive : 0 < body.length) (bounded : body.length ≤ maxMessageBodySize) :
    decode prost (low :: high :: (body ++ rest)) =
      match prost.decode body with
      | .error error => (.error (.decode error), rest)
      | .ok message => (.ok (some message), rest) := by
  have admissible : ¬ (body.length = 0 ∨ body.length > maxMessageBodySize) := by omega
  have complete : ¬ (low :: high :: (body ++ rest)).length < headerSize + body.length := by
    simp only [List.length_cons, List.length_append, headerSize]
    omega
  simp only [decode, ← length, if_neg admissible, if_neg complete, List.take_left,
    List.drop_left]

/-- The four things `decode` can find at the front of the buffer: not even a
header, a length it rejects, a frame that is still incomplete, or a frame. -/
theorem decode_cases (prost : ProstMessage DecodeError) (source : List UInt8) :
    (source.length < headerSize ∧ decode prost source = (.ok none, source)) ∨
    (∃ low high received, source = low :: high :: received ∧
      (u16FromLeBytes low high = 0 ∨ u16FromLeBytes low high > maxMessageBodySize) ∧
      decode prost source = (.error (.invalidLength (u16FromLeBytes low high)), source)) ∨
    (source.length < maxBufferSize ∧ decode prost source = (.ok none, source)) ∨
    (∃ low high body rest, source = low :: high :: (body ++ rest) ∧
      body.length = u16FromLeBytes low high ∧
      0 < body.length ∧ body.length ≤ maxMessageBodySize ∧
      decode prost source =
        match prost.decode body with
        | .error error => (.error (.decode error), rest)
        | .ok message => (.ok (some message), rest)) := by
  rcases source with _ | ⟨low, _ | ⟨high, received⟩⟩
  · exact Or.inl ⟨by decide, rfl⟩
  · exact Or.inl ⟨by simp [headerSize], rfl⟩
  right
  by_cases inadmissible :
      u16FromLeBytes low high = 0 ∨ u16FromLeBytes low high > maxMessageBodySize
  · left
    refine ⟨low, high, received, rfl, inadmissible, ?_⟩
    simp only [decode, if_pos inadmissible]
  right
  by_cases short : (low :: high :: received).length < headerSize + u16FromLeBytes low high
  · left
    refine ⟨?_, by simp only [decode, if_neg inadmissible, if_pos short]⟩
    simp only [maxMessageBodySize, maxBufferSize, headerSize] at *
    omega
  · right
    simp only [List.length_cons, headerSize] at short
    have length : (received.take (u16FromLeBytes low high)).length = u16FromLeBytes low high := by
      rw [List.length_take]
      omega
    have positive : 0 < (received.take (u16FromLeBytes low high)).length := by omega
    have bounded :
        (received.take (u16FromLeBytes low high)).length ≤ maxMessageBodySize := by omega
    have cut := decode_frame prost low high _
      (received.drop (u16FromLeBytes low high)) length positive bounded
    rw [List.take_append_drop] at cut
    exact ⟨low, high, _, _, by rw [List.take_append_drop], length, positive, bounded, cut⟩

/-- A waiting decoder has changed nothing and holds less than a full buffer. -/
theorem decode_waiting {source rest : List UInt8}
    (decoded : decode prost source = (.ok none, rest)) :
    rest = source ∧ source.length < maxBufferSize := by
  rcases decode_cases prost source with ⟨short, found⟩ | ⟨_, _, _, _, _, found⟩ |
    ⟨short, found⟩ | ⟨_, _, body, _, _, _, _, _, found⟩ <;> rw [found] at decoded
  · simp only [Prod.mk.injEq, true_and] at decoded
    simp only [headerSize, maxBufferSize] at *
    exact ⟨decoded.symm, by omega⟩
  · simp at decoded
  · simp only [Prod.mk.injEq, true_and] at decoded
    exact ⟨decoded.symm, short⟩
  · cases bodyDecoded : prost.decode body <;> simp [bodyDecoded] at decoded

/-- A message is delivered for exactly one complete frame at the front. -/
theorem decode_delivered {source rest : List UInt8} {message : MessageWrapper}
    (decoded : decode prost source = (.ok (some message), rest)) :
    ∃ low high body,
      source = low :: high :: (body ++ rest) ∧
        body.length = u16FromLeBytes low high ∧
        0 < body.length ∧ body.length ≤ maxMessageBodySize ∧
        prost.decode body = .ok message := by
  rcases decode_cases prost source with ⟨_, found⟩ | ⟨_, _, _, _, _, found⟩ |
    ⟨_, found⟩ | ⟨low, high, body, behind, shape, length, positive, bounded, found⟩ <;>
    rw [found] at decoded
  · simp at decoded
  · simp at decoded
  · simp at decoded
  · cases bodyDecoded : prost.decode body with
    | error error => simp [bodyDecoded] at decoded
    | ok delivered =>
        simp only [bodyDecoded, Prod.mk.injEq, Except.ok.injEq, Option.some.injEq] at decoded
        obtain ⟨rfl, rfl⟩ := decoded
        exact ⟨low, high, body, shape, length, positive, bounded, bodyDecoded⟩

/-- A failure is an inadmissible length, which leaves the buffer as it is, or a
complete frame whose body does not decode. -/
theorem decode_failed {source rest : List UInt8} {failure : CodecError DecodeError}
    (decoded : decode prost source = (.error failure, rest)) :
    (∃ low high received, source = low :: high :: received ∧ rest = source ∧
        failure = .invalidLength (u16FromLeBytes low high) ∧
        (u16FromLeBytes low high = 0 ∨ u16FromLeBytes low high > maxMessageBodySize)) ∨
      ∃ low high body error,
        source = low :: high :: (body ++ rest) ∧
          body.length = u16FromLeBytes low high ∧
          0 < body.length ∧ body.length ≤ maxMessageBodySize ∧
          prost.decode body = .error error ∧ failure = .decode error := by
  rcases decode_cases prost source with ⟨_, found⟩ |
    ⟨low, high, received, shape, inadmissible, found⟩ | ⟨_, found⟩ |
    ⟨low, high, body, behind, shape, length, positive, bounded, found⟩ <;>
    rw [found] at decoded
  · simp at decoded
  · simp only [Prod.mk.injEq, Except.error.injEq] at decoded
    exact Or.inl ⟨low, high, received, shape, decoded.2.symm, decoded.1.symm, inadmissible⟩
  · simp at decoded
  · right
    cases bodyDecoded : prost.decode body with
    | error error =>
        simp only [bodyDecoded, Prod.mk.injEq, Except.error.injEq] at decoded
        obtain ⟨rfl, rfl⟩ := decoded
        exact ⟨low, high, body, error, shape, length, positive, bounded, bodyDecoded, rfl⟩
    | ok delivered => simp [bodyDecoded] at decoded

/-! ## The codec as a stream decoder -/

/-- `MessageCodec` obeys the laws of stream decoders for every body decoder. -/
def decoder (prost : ProstMessage DecodeError) :
    FrameDecoder UInt8 MessageWrapper (CodecError DecodeError) where
  decode := decode prost
  waiting_keeps := fun decoded => (decode_waiting decoded).1
  delivered_stable := by
    intro source rest message more decoded
    obtain ⟨low, high, body, rfl, length, positive, bounded, bodyDecoded⟩ :=
      decode_delivered decoded
    have further := decode_frame prost low high body (rest ++ more) length
      positive bounded
    rw [bodyDecoded] at further
    simpa using further
  delivered_consumes := by
    intro source rest message decoded
    obtain ⟨low, high, body, rfl, _⟩ := decode_delivered decoded
    simp only [List.length_cons, List.length_append]
    omega
  failed_stable := by
    intro source rest failure more decoded
    rcases decode_failed decoded with
      ⟨low, high, received, rfl, rfl, rfl, inadmissible⟩ |
      ⟨low, high, body, error, rfl, length, positive, bounded, bodyFailed, rfl⟩
    · simp only [decode, List.cons_append, if_pos inadmissible]
    · have further := decode_frame prost low high body (rest ++ more) length
        positive bounded
      rw [bodyFailed] at further
      simpa using further

/-- Decoding cannot observe how TCP cut the stream.  Feeding chunks one by one
and feeding them joined deliver the same messages, stop for the same reason and,
when waiting, keep the same bytes; a delivered message consumes its header and
exactly the announced number of bytes; no sequence of deliveries goes on for
ever; and a waiting decoder buffers less than `maxBufferSize` bytes. -/
theorem decode_segmentation_independent (prost : ProstMessage DecodeError) :
    (∀ chunks : List (List UInt8),
      ((decoder prost).feed [] chunks).Agree ((decoder prost).feed [] [chunks.flatten])) ∧
    (∀ source rest message, decode prost source = (.ok (some message), rest) →
      ∃ low high body, source = low :: high :: (body ++ rest) ∧
        body.length = u16FromLeBytes low high ∧
        source.length = 2 + u16FromLeBytes low high + rest.length) ∧
    (∀ buffers : Nat → List UInt8, ¬ ∀ n, ∃ message,
      decode prost (buffers n) = (.ok (some message), buffers (n + 1))) ∧
    (∀ source rest, decode prost source = (.ok none, rest) →
      rest = source ∧ rest.length < maxBufferSize) := by
  refine ⟨fun chunks => ?_, fun source rest message decoded => ?_, fun buffers endless => ?_,
    fun source rest decoded => ?_⟩
  · have idle : (decoder prost).decode [] = (.ok none, []) := rfl
    have cut := (decoder prost).feed_agrees_drain [] chunks idle
    have joined := (decoder prost).feed_agrees_drain [] [chunks.flatten] idle
    rw [List.flatten_singleton] at joined
    exact cut.trans joined.symm
  · obtain ⟨low, high, body, shape, length, _⟩ := decode_delivered decoded
    refine ⟨low, high, body, shape, length, ?_⟩
    rw [shape, ← length]
    simp only [List.length_cons, List.length_append]
    omega
  · have shrinks : ∀ n, (buffers n).length + n ≤ (buffers 0).length := by
      intro n
      induction n with
      | zero => simp
      | succ n inductionHypothesis =>
          obtain ⟨message, decoded⟩ := endless n
          have consumed := (decoder prost).delivered_consumes decoded
          omega
    have tooFar := shrinks ((buffers 0).length + 1)
    omega
  · obtain ⟨rfl, short⟩ := decode_waiting decoded
    exact ⟨rfl, short⟩

/-! ## The encoder -/

/-- The header written for an admissible length reads back as that length. -/
theorem header_round_trip {size : Nat} (bounded : size ≤ maxMessageBodySize) :
    (UInt16.ofNat size).toNat = size ∧
      u16FromLeBytes (UInt8.ofNat (UInt16.ofNat size).toNat)
        (UInt8.ofNat ((UInt16.ofNat size).toNat / 256)) = size := by
  simp only [maxMessageBodySize, maxBufferSize] at bounded
  have kept : (UInt16.ofNat size).toNat = size := by
    rw [UInt16.toNat_ofNat']
    exact Nat.mod_eq_of_lt (by omega)
  refine ⟨kept, ?_⟩
  simp only [kept, u16FromLeBytes, UInt8.toNat_ofNat']
  omega

/-- The bytes `encode` appends for one message. -/
def frame (prost : ProstMessage DecodeError) (message : MessageWrapper) : List UInt8 :=
  if prost.encodedLen message > maxMessageBodySize then
    []
  else
    putU16Le [] (UInt16.ofNat (prost.encodedLen message)) ++ prost.encode message

theorem encode_eq (message : MessageWrapper) (destination : List UInt8) :
    encode prost message destination = (.ok (), destination ++ frame prost message) := by
  simp only [encode, frame, putU16Le]
  split <;> simp

theorem encodeAll_eq (messages : List MessageWrapper) (destination : List UInt8) :
    encodeAll prost messages destination =
      (.ok (), destination ++ messages.flatMap (frame prost)) := by
  induction messages generalizing destination with
  | nil => simp [encodeAll]
  | cons message later inductionHypothesis =>
      simp only [encodeAll, encode_eq, inductionHypothesis, List.flatMap_cons,
        List.append_assoc]

/-- The decoder takes exactly the frame of a message whose body is neither empty
nor too long off the front of a stream and delivers that message. -/
theorem decode_frame_of_body {message : MessageWrapper}
    (faithful : prost.Faithful message) (written : prost.encode message ≠ [])
    (admissible : prost.encodedLen message ≤ maxMessageBodySize) (rest : List UInt8) :
    decode prost (frame prost message ++ rest) = (.ok (some message), rest) := by
  have size := faithful.encodedLen_eq
  have header := (header_round_trip admissible).2
  have positive : 0 < (prost.encode message).length := List.length_pos_iff.mpr written
  rw [size] at header admissible
  have cut := decode_frame prost _ _ (prost.encode message) rest header.symm
    positive admissible
  rw [faithful.decode_encode] at cut
  have notOversized : ¬ (prost.encode message).length > maxMessageBodySize := by omega
  simpa [frame, size, if_neg notOversized, putU16Le] using cut

theorem decode_frame_of_message {message : MessageWrapper}
    (faithful : prost.Faithful message) (carries : message.payload.isSome)
    (admissible : prost.encodedLen message ≤ maxMessageBodySize) (rest : List UInt8) :
    decode prost (frame prost message ++ rest) = (.ok (some message), rest) :=
  decode_frame_of_body faithful (faithful.encode_ne_nil carries) admissible rest

theorem drain_frames {messages : List MessageWrapper}
    (faithful : ∀ message ∈ messages, prost.Faithful message)
    (carry : ∀ message ∈ messages, message.payload.isSome) :
    (decoder prost).drain (messages.flatMap (frame prost)) =
      ⟨messages.filter (fun message => prost.encodedLen message ≤ maxMessageBodySize),
        .waiting, []⟩ := by
  induction messages with
  | nil => exact (decoder prost).drain_waiting rfl
  | cons message later inductionHypothesis =>
      have tail := inductionHypothesis (fun other member => faithful other (by simp [member]))
        (fun other member => carry other (by simp [member]))
      rw [List.flatMap_cons]
      by_cases admissible : prost.encodedLen message ≤ maxMessageBodySize
      · have delivered := decode_frame_of_message (faithful message (by simp))
          (carry message (by simp)) admissible (later.flatMap (frame prost))
        rw [(decoder prost).drain_delivered delivered, tail]
        simp [Drained.after, admissible]
      · have dropped : frame prost message = [] := by
          simp only [frame]
          rw [if_pos (by omega)]
        rw [dropped, List.nil_append, tail]
        simp [admissible]

/-- A list of messages encoded into one buffer and decoded again is the list of
those that fit a frame, in order and with nothing left over; encoding only
appends, and every length written is the length of its body. -/
theorem decode_encodeAll (prost : ProstMessage DecodeError) (messages : List MessageWrapper)
    (carry : ∀ message ∈ messages, message.payload.isSome)
    (faithful : ∀ message ∈ messages, prost.Faithful message) :
    ∃ written : List UInt8,
      (∀ destination,
        encodeAll prost messages destination = (.ok (), destination ++ written)) ∧
      (decoder prost).drain written =
        ⟨messages.filter
            (fun message => (prost.encode message).length ≤ maxMessageBodySize),
          .waiting, []⟩ ∧
      ∀ message ∈ messages, (prost.encode message).length ≤ maxMessageBodySize →
        (UInt16.ofNat (prost.encodedLen message)).toNat = (prost.encode message).length := by
  refine ⟨messages.flatMap (frame prost), encodeAll_eq messages, ?_, ?_⟩
  · rw [drain_frames faithful carry]
    congr 1
    apply List.filter_congr
    intro message member
    rw [(faithful message member).encodedLen_eq]
  · intro message member admissible
    rw [(faithful message member).encodedLen_eq]
    exact (header_round_trip admissible).1

/-- `prost` on three shapes of message: an empty `ConnectedResponse`, a
`KeepAliveRequest`, and a `LoginRequest` of a hash alone, which is not empty and
whose lengths take at most two bytes each. -/
def sampleProst : ProstMessage Unit where
  encodedLen := fun message => (sampleEncode message).length
  encode := sampleEncode
  decode := fun
    | [0x52, 0x00] => .ok ⟨0, some (.connectedResponse ⟨0⟩)⟩
    | [0x62, 0x00] => .ok ⟨0, some .keepAliveRequest⟩
    | 0xA2 :: 0x01 :: body =>
        match skipVarint body with
        | 0x12 :: field => .ok ⟨0, some (.loginRequest ⟨"", skipVarint field⟩)⟩
        | _ => .error ()
    | _ => .error ()
where
  /-- A varint of one byte where that is enough, else of two. -/
  varint (value : Nat) : List UInt8 :=
    if value < 128 then [UInt8.ofNat value]
    else [UInt8.ofNat (value % 128 + 128), UInt8.ofNat (value / 128)]
  skipVarint : List UInt8 → List UInt8
    | [] => []
    | byte :: rest => if byte.toNat < 128 then rest else rest.drop 1
  /-- The field of the password hash. -/
  hashField (hash : List UInt8) : List UInt8 := 0x12 :: varint hash.length ++ hash
  sampleEncode (message : MessageWrapper) : List UInt8 :=
    match message.payload with
    | some (.connectedResponse _) => [0x52, 0x00]
    | some .keepAliveRequest => [0x62, 0x00]
    | some (.loginRequest body) =>
        [0xA2, 0x01] ++ varint (hashField body.passwordHash).length ++ hashField body.passwordHash
    | _ => []

theorem skipVarint_varint (value : Nat) (rest : List UInt8) :
    sampleProst.skipVarint (sampleProst.varint value ++ rest) = rest := by
  rw [sampleProst.varint]
  split
  · next short =>
      have low : (UInt8.ofNat value).toNat < 128 := by
        rw [UInt8.toNat_ofNat']
        omega
      simp only [List.cons_append, List.nil_append, sampleProst.skipVarint, if_pos low]
  · have high : ¬ (UInt8.ofNat (value % 128 + 128)).toNat < 128 := by
      rw [UInt8.toNat_ofNat']
      omega
    simp only [List.cons_append, List.nil_append, sampleProst.skipVarint, if_neg high]
    rfl

theorem sampleProst_login (hash : List UInt8) :
    sampleProst.Faithful ⟨0, some (.loginRequest ⟨"", hash⟩)⟩ where
  decode_encode := by
    show sampleProst.decode (0xA2 :: 0x01 ::
      (sampleProst.varint (sampleProst.hashField hash).length ++ sampleProst.hashField hash)) = _
    simp only [sampleProst, skipVarint_varint, sampleProst.hashField, List.cons_append]
  encodedLen_eq := rfl
  encode_ne_nil := by simp [sampleProst, sampleProst.sampleEncode]

/-- An oversized login between two small messages. -/
def sampleMessages : List MessageWrapper :=
  [⟨0, some (.connectedResponse ⟨0⟩)⟩,
    ⟨0, some (.loginRequest ⟨"", List.replicate maxMessageBodySize 0⟩)⟩,
    ⟨0, some .keepAliveRequest⟩]

theorem decode_encodeAll_sample :
    ∃ written : List UInt8,
      (∀ destination,
        encodeAll sampleProst sampleMessages destination = (.ok (), destination ++ written)) ∧
      (decoder sampleProst).drain written =
        ⟨sampleMessages.filter
            (fun message => (sampleProst.encode message).length ≤ maxMessageBodySize),
          .waiting, []⟩ ∧
      ∀ message ∈ sampleMessages,
        (sampleProst.encode message).length ≤ maxMessageBodySize →
          (UInt16.ofNat (sampleProst.encodedLen message)).toNat =
            (sampleProst.encode message).length :=
  decode_encodeAll sampleProst sampleMessages
    (by simp [sampleMessages])
    (by
      intro message member
      simp only [sampleMessages, List.mem_cons, List.not_mem_nil, or_false] at member
      rcases member with rfl | rfl | rfl
      · exact ⟨rfl, rfl, fun _ => by simp [sampleProst, sampleProst.sampleEncode]⟩
      · exact sampleProst_login _
      · exact ⟨rfl, rfl, fun _ => by simp [sampleProst, sampleProst.sampleEncode]⟩)

end MessageCodec

end RustGameserver.Net
