import Mathlib
import RadioLink.Frame

/-!
Frames on the wire. A frame that was encoded is decoded to what it was made from, nothing else is
accepted, and while a frame comes in a receive buffer holds it completely exactly when all of its bytes
are there.
-/

namespace RadioLink

namespace Bytes

/-- Only the `width` low bytes of a number are kept. -/
theorem toNat_ofNat (width n : Nat) : toNat (ofNat width n) = n % 256 ^ width := by
  induction width generalizing n with
  | zero => simp [ofNat, toNat, Nat.mod_one]
  | succ width ih =>
    have low : (UInt8.ofNat n).toNat = n % 256 := by simp
    rw [ofNat, toNat, ih, low, pow_succ, Nat.mul_comm (256 ^ width) 256, Nat.mod_mul]

/-- A field of two bytes is read back. -/
theorem slice_append (front field back : Bytes) :
    slice (front ++ field ++ back) front.length field.length = field := by
  rw [slice, List.append_assoc, List.drop_left, List.take_left]

theorem uint16At_append (front back : Bytes) (n : UInt16) :
    uint16At (front ++ ofUInt16 n ++ back) front.length = n := by
  have field := slice_append front (ofUInt16 n) back
  have small : n.toNat < 256 ^ 2 := n.toNat_lt
  rw [ofUInt16, length_ofNat] at field
  rw [uint16At, ofUInt16, field, toNat_ofNat, Nat.mod_eq_of_lt small]
  exact UInt16.ofNat_toNat

theorem uint32At_append (front back : Bytes) (n : UInt32) :
    uint32At (front ++ ofUInt32 n ++ back) front.length = n := by
  have field := slice_append front (ofUInt32 n) back
  have small : n.toNat < 256 ^ 4 := n.toNat_lt
  rw [ofUInt32, length_ofNat] at field
  rw [uint32At, ofUInt32, field, toNat_ofNat, Nat.mod_eq_of_lt small]
  exact UInt32.ofNat_toNat

end Bytes

theorem Control.data_ne_idle : Control.data ≠ Control.idle := by decide

namespace Frame

theorem Header.length_bytes (header : Header) : header.bytes.length = headerLength := by
  simp [Header.bytes, Bytes.ofUInt16, headerLength]

theorem Header.ofBytes_append (header : Header) (rest : Bytes) :
    Header.ofBytes (header.bytes ++ rest) = .ok header := by
  have long : ¬(header.bytes ++ rest).length < headerLength := by
    rw [List.length_append, Header.length_bytes]
    omega
  have check : (header.bytes ++ rest).uint16At 3 = header.crc :=
    Bytes.uint16At_append [header.msgId, header.len, header.dataId] rest header.crc
  rw [Header.ofBytes, if_neg long, check]
  rfl

/-- Any five bytes are a header. -/
theorem Header.exists_bytes_append {bytes : Bytes} (long : headerLength ≤ bytes.length) :
    ∃ header : Header, ∃ rest, bytes = header.bytes ++ rest := by
  rcases bytes with _ | ⟨first, _ | ⟨second, _ | ⟨third, _ | ⟨low, _ | ⟨high, rest⟩⟩⟩⟩⟩
  case cons.cons.cons.cons.cons =>
    have small : Bytes.toNat [low, high] < 2 ^ 16 := by
      have := low.toNat_lt
      have := high.toNat_lt
      simp only [Bytes.toNat]
      omega
    have check : Bytes.ofUInt16 (UInt16.ofNat (Bytes.toNat [low, high])) = [low, high] := by
      rw [Bytes.ofUInt16, UInt16.toNat_ofNat_of_lt' small]
      exact Bytes.ofNat_toNat [low, high]
    refine ⟨⟨first, second, third, UInt16.ofNat (Bytes.toNat [low, high])⟩, rest, ?_⟩
    rw [Header.bytes, check]
    rfl
  all_goals simp [headerLength] at long

/-- What the decoder makes of a header and the bytes after it, in the order of its checks. -/
theorem decode_bytes_append (header : Header) (rest : Bytes) :
    decode (header.bytes ++ rest) =
      if maxPayload < header.len.toNat then .error (.payloadTooLarge header.len.toNat)
      else if rest.length < header.len.toNat then
        .error (.truncated (headerLength + header.len.toNat) (headerLength + rest.length))
      else if header.check (rest.take header.len.toNat) = header.crc then
        .ok (header, rest.take header.len.toNat)
      else .error (.crcMismatch header.crc (header.check (rest.take header.len.toNat))) := by
  have body : (header.bytes ++ rest).slice headerLength header.len.toNat =
      rest.take header.len.toNat := by
    rw [Bytes.slice, ← header.length_bytes, List.drop_left]
  rw [decode, Header.ofBytes_append]
  simp only [bind, Except.bind, body, List.length_append, Header.length_bytes,
    Nat.add_lt_add_iff_left, ne_eq, ite_not]
  rfl

theorem decode_short {bytes : Bytes} (short : bytes.length < headerLength) :
    decode bytes = .error (.truncated headerLength bytes.length) := by
  rw [decode, Header.ofBytes, if_pos short]
  rfl

/-- A byte string is refused for want of a header, or it starts with one. -/
theorem decode_cases (bytes : Bytes) :
    decode bytes = .error (.truncated headerLength bytes.length) ∨
      ∃ header : Header, ∃ rest, bytes = header.bytes ++ rest := by
  by_cases short : bytes.length < headerLength
  · exact .inl (decode_short short)
  · exact .inr (Header.exists_bytes_append (Nat.not_lt.mp short))

/-- A header with its payload, whatever comes after, is accepted if the check is right. -/
theorem decode_sized {header : Header} {payload : Bytes} (size : header.len.toNat = payload.length)
    (fits : payload.length ≤ maxPayload) (trailing : Bytes) :
    decode (header.bytes ++ payload ++ trailing) =
      if header.check payload = header.crc then .ok (header, payload)
      else .error (.crcMismatch header.crc (header.check payload)) := by
  have enough : ¬(payload ++ trailing).length < header.len.toNat := by
    rw [List.length_append]
    omega
  rw [List.append_assoc, decode_bytes_append, if_neg (by omega), if_neg enough, size, List.take_left]

/-- What is accepted is a header, the payload that it announces, and anything after that. -/
theorem decode_ok {bytes payload : Bytes} {header : Header}
    (accepted : decode bytes = .ok (header, payload)) :
    ∃ trailing, bytes = header.bytes ++ payload ++ trailing ∧
      header.len.toNat = payload.length ∧ payload.length ≤ maxPayload ∧
      header.check payload = header.crc := by
  rcases decode_cases bytes with refused | ⟨found, rest, rfl⟩
  · rw [refused] at accepted
    cases accepted
  rw [decode_bytes_append] at accepted
  split at accepted
  · cases accepted
  split at accepted
  · cases accepted
  split at accepted
  · next small enough valid =>
    cases accepted
    have size : (rest.take header.len.toNat).length = header.len.toNat := by
      rw [List.length_take]
      omega
    refine ⟨rest.drop header.len.toNat, ?_, size.symm, by omega, valid⟩
    rw [List.append_assoc, List.take_append_drop]
  · cases accepted

/-- What can be wrong with a frame. -/
theorem decode_error {bytes : Bytes} {error : LinkError} (invalid : decode bytes = .error error) :
    (∃ length, error = .payloadTooLarge length) ∨ (∃ needed found, error = .truncated needed found) ∨
      ∃ expected computed, error = .crcMismatch expected computed := by
  rcases decode_cases bytes with refused | ⟨header, rest, rfl⟩
  · rw [refused] at invalid
    cases invalid
    exact .inr (.inl ⟨_, _, rfl⟩)
  rw [decode_bytes_append] at invalid
  split at invalid
  · cases invalid
    exact .inl ⟨_, rfl⟩
  split at invalid
  · cases invalid
    exact .inr (.inl ⟨_, _, rfl⟩)
  split at invalid
  · cases invalid
  · cases invalid
    exact .inr (.inr ⟨_, _, rfl⟩)

/-- What is wrong with a frame has nothing to do with the device. -/
theorem decode_not_io {bytes : Bytes} {error : LinkError}
    (invalid : decode bytes = .error error) (fault : Fault) : error ≠ .io fault := by
  rcases decode_error invalid with ⟨_, rfl⟩ | ⟨_, _, rfl⟩ | ⟨_, _, rfl⟩ <;> exact LinkError.noConfusion

theorem encode_tooLarge (msgId dataId : UInt8) {payload : Bytes} (room : Nat)
    (large : maxPayload < payload.length) :
    encode msgId dataId payload room = .error (.payloadTooLarge payload.length) := by
  rw [encode, Header.forPayload, if_pos large]
  rfl

/-- How long the frame at the start of a stream is, with its control byte. -/
def extent (stream : Bytes) : Nat := 6 + min (stream.byteAt 2).toNat 128

def Complete (stream : Bytes) : Prop :=
  stream.byteAt 0 ≠ 0xff ∧ 6 ≤ stream.length ∧ extent stream ≤ stream.length

instance (stream : Bytes) : Decidable (Complete stream) :=
  inferInstanceAs (Decidable (_ ∧ _ ∧ _))

theorem completeLength?_eq_ite (stream : Bytes) :
    completeLength? stream = if Complete stream then some (extent stream) else none := by
  cases stream with
  | nil => rfl
  | cons control rest =>
    have whole : completeLength? (control :: rest) =
        if control = Control.idle ∨ (control :: rest).length < 6 then none
        else if extent (control :: rest) ≤ (control :: rest).length then
          some (extent (control :: rest))
        else none := rfl
    rw [whole]
    by_cases short : control = Control.idle ∨ (control :: rest).length < 6
    · rw [if_pos short, if_neg]
      rintro ⟨started, long, -⟩
      rcases short with idle | less
      · exact started idle
      · exact Nat.not_lt.mpr long less
    · obtain ⟨started, long⟩ := not_or.mp short
      rw [if_neg short]
      exact if_congr ⟨fun enough => ⟨started, Nat.not_lt.mp long, enough⟩, fun complete => complete.2.2⟩
        rfl rfl

theorem complete_of_completeLength? {stream : Bytes} {length : Nat}
    (found : completeLength? stream = some length) : Complete stream ∧ length = extent stream := by
  rw [completeLength?_eq_ite] at found
  split at found
  next complete => exact ⟨complete, (Option.some.inj found).symm⟩
  next => cases found

theorem not_complete_of_completeLength? {stream : Bytes} (missing : completeLength? stream = none) :
    ¬Complete stream := by
  intro complete
  rw [completeLength?_eq_ite, if_pos complete] at missing
  cases missing

theorem byteAt_of_prefix {start stream : Bytes} (part : start <+: stream) {i : Nat}
    (inside : i < start.length) : stream.byteAt i = start.byteAt i := by
  obtain ⟨rest, rfl⟩ := part
  rw [Bytes.byteAt, Bytes.byteAt, List.getD_append _ _ _ _ inside]

/-- More bytes do not change a frame that is complete. -/
theorem Complete.extend {start stream : Bytes} (complete : Complete start) (part : start <+: stream) :
    Complete stream ∧ stream.take (extent stream) = start.take (extent start) := by
  obtain ⟨started, long, enough⟩ := complete
  have first : stream.byteAt 0 = start.byteAt 0 := byteAt_of_prefix part (by omega)
  have same : extent stream = extent start := by
    rw [extent, byteAt_of_prefix part (by omega), extent]
  refine ⟨⟨first ▸ started, long.trans part.length_le, ?_⟩, ?_⟩
  · rw [same]
    exact enough.trans part.length_le
  · rw [same]
    obtain ⟨rest, rfl⟩ := part
    exact List.take_append_of_le_length enough

end Frame

/-- What one frame is made from. -/
structure Parcel where
  msgId : UInt8
  dataId : UInt8
  payload : Bytes
  fits : payload.length ≤ Frame.maxPayload

namespace Parcel

open RadioLink.Frame

def header (parcel : Parcel) : Header :=
  let blank : Header := ⟨parcel.msgId, UInt8.ofNat parcel.payload.length, parcel.dataId, 0⟩
  { blank with crc := blank.check parcel.payload }

def frame (parcel : Parcel) : Frame := ⟨parcel.header, parcel.payload⟩

def wire (parcel : Parcel) : Bytes :=
  Control.data ::
    (encode parcel.msgId parcel.dataId parcel.payload (headerLength + maxPayload)).toOption.getD []

/-- A payload that fits into a frame is refused only if the frame does not fit into the buffer. -/
theorem encode_eq_ite (parcel : Parcel) (room : Nat) :
    encode parcel.msgId parcel.dataId parcel.payload room =
      if room < headerLength + parcel.payload.length then
        .error (.truncated (headerLength + parcel.payload.length) room)
      else .ok (parcel.header.bytes ++ parcel.payload) := by
  rw [encode, Header.forPayload, if_neg (Nat.not_lt.mpr parcel.fits)]
  rfl

theorem encode_eq (parcel : Parcel) :
    encode parcel.msgId parcel.dataId parcel.payload (headerLength + maxPayload) =
      .ok (parcel.header.bytes ++ parcel.payload) := by
  have fits := parcel.fits
  rw [encode_eq_ite, if_neg (by omega)]

theorem wire_eq (parcel : Parcel) :
    parcel.wire = Control.data :: (parcel.header.bytes ++ parcel.payload) := by
  rw [wire, encode_eq]
  rfl

theorem length_wire (parcel : Parcel) :
    parcel.wire.length = 1 + headerLength + parcel.payload.length := by
  rw [wire_eq, List.length_cons, List.length_append, Header.length_bytes]
  omega

theorem wire_length_pos (parcel : Parcel) : 0 < parcel.wire.length := by
  rw [parcel.length_wire]
  omega

theorem toNat_len (parcel : Parcel) : parcel.header.len.toNat = parcel.payload.length := by
  have fits : parcel.payload.length ≤ 128 := parcel.fits
  have small : parcel.payload.length < 256 := by omega
  exact UInt8.toNat_ofNat_of_lt' small

/-- A header with the length and the check of its payload is the one that the encoder writes. -/
theorem header_eq {header : Header} {payload : Bytes} (size : header.len.toNat = payload.length)
    (fits : payload.length ≤ maxPayload) (valid : header.check payload = header.crc) :
    (Parcel.mk header.msgId header.dataId payload fits).header = header := by
  have len : UInt8.ofNat payload.length = header.len := by
    rw [← size, UInt8.ofNat_toNat]
  rw [Parcel.header, len]
  exact congrArg (Header.mk header.msgId header.len header.dataId) valid

/-- Decoding gives back what the frame was made from. -/
theorem decode_eq (parcel : Parcel) (trailing : Bytes) :
    decode (parcel.header.bytes ++ parcel.payload ++ trailing) =
      .ok (parcel.header, parcel.payload) := by
  have checked : parcel.header.check parcel.payload = parcel.header.crc := rfl
  rw [decode_sized parcel.toNat_len parcel.fits, if_pos checked]

theorem headD_eq (parcel : Parcel) {buffer : Bytes} (started : buffer ≠ [])
    (part : buffer <+: parcel.wire) : buffer.headD Control.idle = Control.data := by
  obtain ⟨control, rest, rfl⟩ := List.exists_cons_of_ne_nil started
  obtain ⟨missing, same⟩ := part
  rw [wire_eq] at same
  exact (List.cons.inj same).1

theorem extent_append (parcel : Parcel) (rest : Bytes) :
    extent (parcel.wire ++ rest) = parcel.wire.length := by
  have len : (parcel.wire ++ rest).byteAt 2 = parcel.header.len := by
    rw [wire_eq]
    rfl
  have limit : min parcel.payload.length 128 = parcel.payload.length := Nat.min_eq_left parcel.fits
  rw [extent, len, toNat_len, limit, length_wire]
  rfl

theorem complete_append (parcel : Parcel) (rest : Bytes) : Complete (parcel.wire ++ rest) := by
  have total := parcel.length_wire
  refine ⟨?_, ?_, ?_⟩
  · rw [wire_eq]
    exact Control.data_ne_idle
  · rw [List.length_append, total, headerLength]
    omega
  · rw [extent_append, List.length_append]
    exact Nat.le_add_right _ _

/-- The length of a frame can be told from its start. -/
theorem completeLength?_append (parcel : Parcel) (rest : Bytes) :
    completeLength? (parcel.wire ++ rest) = some parcel.wire.length := by
  rw [completeLength?_eq_ite, if_pos (parcel.complete_append rest), extent_append]

theorem completeLength?_wire (parcel : Parcel) :
    completeLength? parcel.wire = some parcel.wire.length := by
  simpa using parcel.completeLength?_append []

/-- A part of a frame counts as a complete frame only when it is the whole frame. -/
theorem whole_of_complete (parcel : Parcel) {buffer : Bytes} {length : Nat}
    (part : buffer <+: parcel.wire) (complete : completeLength? buffer = some length) :
    buffer = parcel.wire ∧ length = parcel.wire.length := by
  obtain ⟨whole, rfl⟩ := complete_of_completeLength? complete
  obtain ⟨-, same⟩ := whole.extend part
  have own := parcel.extent_append []
  rw [List.append_nil] at own
  rw [own, List.take_length] at same
  have long : parcel.wire.length ≤ buffer.length := by
    rw [same]
    exact List.length_take_le' ..
  obtain rfl := part.eq_of_length (part.length_le.antisymm long)
  exact ⟨rfl, own⟩

theorem short_of_incomplete (parcel : Parcel) {buffer : Bytes} (part : buffer <+: parcel.wire)
    (missing : completeLength? buffer = none) : buffer.length < parcel.wire.length := by
  refine Nat.lt_of_le_of_ne part.length_le fun full => ?_
  rw [part.eq_of_length full, completeLength?_wire] at missing
  cases missing

theorem decode_wire (parcel : Parcel) :
    decode ((parcel.wire.take parcel.wire.length).drop 1) =
      .ok (parcel.header, parcel.payload) := by
  rw [List.take_length, wire_eq, List.drop_one, List.tail_cons]
  simpa using parcel.decode_eq []

end Parcel

def Frame.ofWire? (data : Bytes) : Option Frame :=
  if data.head? = some Control.data then
    (Frame.decode data.tail).toOption.map fun read => ⟨read.1, read.2⟩
  else none

def Frame.bodyOf? (dataId : UInt8) (data : Bytes) : Option Bytes :=
  ((ofWire? data).filter fun frame => frame.dataId = dataId).map payload

namespace Parcel

theorem ofWire?_wire (parcel : Parcel) : Frame.ofWire? parcel.wire = some parcel.frame := by
  have read := parcel.decode_eq []
  rw [List.append_nil] at read
  rw [wire_eq, Frame.ofWire?, List.head?_cons, if_pos rfl, List.tail_cons, read]
  rfl

theorem bodyOf?_wire (parcel : Parcel) (dataId : UInt8) : Frame.bodyOf? dataId parcel.wire =
    if parcel.dataId = dataId then some parcel.payload else none := by
  have type : parcel.frame.dataId = parcel.dataId := rfl
  rw [Frame.bodyOf?, ofWire?_wire, Option.filter_some, type]
  by_cases same : parcel.dataId = dataId
  · rw [if_pos (decide_eq_true same), if_pos same]
    rfl
  · rw [if_neg (by simpa using same), if_neg same]
    rfl

theorem wire_injective {first second : Parcel} (same : first.wire = second.wire) :
    first = second := by
  have read : first.frame = second.frame := by
    apply Option.some.inj
    rw [← ofWire?_wire, same, ofWire?_wire]
  have number : first.msgId = second.msgId := congrArg (fun frame => frame.header.msgId) read
  have type : first.dataId = second.dataId := congrArg Frame.dataId read
  have body : first.payload = second.payload := congrArg Frame.payload read
  cases first
  cases second
  cases number
  cases type
  cases body
  rfl

end Parcel

namespace Frame

/-- The decoder accepts exactly what the encoder produces. A payload that fits is encoded into every
buffer that has the room, and decoded to what it was made from whatever comes after it; every byte
string that is accepted starts with the encoding of what was read from it. The encoder refuses a
payload that is too large, and after that a buffer that is too small, and nothing else. -/
theorem decode_accepts_encoded :
    (∀ (msgId dataId : UInt8) (payload : Bytes) (room : Nat) (trailing : Bytes),
      payload.length ≤ maxPayload → headerLength + payload.length ≤ room →
      ∃ bytes header, encode msgId dataId payload room = .ok bytes ∧
        bytes.length = headerLength + payload.length ∧
        decode (bytes ++ trailing) = .ok (header, payload) ∧ header.msgId = msgId ∧
        header.dataId = dataId ∧ header.len.toNat = payload.length) ∧
    (∀ (bytes payload : Bytes) (header : Header) (room : Nat),
      decode bytes = .ok (header, payload) → headerLength + payload.length ≤ room →
      encode header.msgId header.dataId payload room =
        .ok (bytes.take (headerLength + payload.length))) ∧
    ∀ (msgId dataId : UInt8) (payload : Bytes) (room : Nat) (error : LinkError),
      encode msgId dataId payload room = .error error ↔
        maxPayload < payload.length ∧ error = .payloadTooLarge payload.length ∨
        payload.length ≤ maxPayload ∧ room < headerLength + payload.length ∧
          error = .truncated (headerLength + payload.length) room := by
  refine ⟨?_, ?_, ?_⟩
  · intro msgId dataId payload room trailing fits enough
    let parcel : Parcel := ⟨msgId, dataId, payload, fits⟩
    have encoded : encode msgId dataId payload room = .ok (parcel.header.bytes ++ payload) := by
      rw [parcel.encode_eq_ite, if_neg (Nat.not_lt.mpr enough)]
    refine ⟨_, parcel.header, encoded, ?_, parcel.decode_eq trailing, rfl, rfl, parcel.toNat_len⟩
    rw [List.length_append, Header.length_bytes]
  · intro bytes payload header room accepted enough
    obtain ⟨trailing, rfl, size, fits, valid⟩ := decode_ok accepted
    have whole : (header.bytes ++ payload).length = headerLength + payload.length := by
      rw [List.length_append, Header.length_bytes]
    rw [Parcel.encode_eq_ite ⟨header.msgId, header.dataId, payload, fits⟩,
      if_neg (Nat.not_lt.mpr enough), Parcel.header_eq size fits valid, ← whole, List.take_left]
  · intro msgId dataId payload room error
    by_cases large : maxPayload < payload.length
    · rw [encode_tooLarge msgId dataId room large]
      simp [large, Nat.not_le.mpr large, eq_comm]
    · have fits : payload.length ≤ maxPayload := Nat.not_lt.mp large
      rw [Parcel.encode_eq_ite ⟨msgId, dataId, payload, fits⟩]
      by_cases tight : room < headerLength + payload.length
      · simp [tight, large, fits, eq_comm]
      · simp [tight, large]

/-- A frame with a byte after it, read and written again. -/
theorem decode_accepts_encoded_trailing :
    (∃ bytes header, encode 1 0x50 [0xaa, 0xbb] 7 = .ok bytes ∧ bytes.length = 7 ∧
      decode (bytes ++ [9]) = .ok (header, [0xaa, 0xbb]) ∧ header.msgId = 1 ∧ header.dataId = 0x50) ∧
    decode [1, 2, 0x50, 0xd8, 0x33, 0xaa, 0xbb, 9] = .ok (⟨1, 2, 0x50, 0x33d8⟩, [0xaa, 0xbb]) ∧
    encode 1 0x50 [0xaa, 0xbb] 7 = .ok [1, 2, 0x50, 0xd8, 0x33, 0xaa, 0xbb] := by
  obtain ⟨there, back, -⟩ := decode_accepts_encoded
  obtain ⟨bytes, header, encoded, size, decoded, msgId, dataId, -⟩ :=
    there 1 0x50 [0xaa, 0xbb] 7 [9] (by decide) (by decide)
  have accepted : decode [1, 2, 0x50, 0xd8, 0x33, 0xaa, 0xbb, 9] =
      .ok (⟨1, 2, 0x50, 0x33d8⟩, [0xaa, 0xbb]) := by decide +kernel
  exact ⟨⟨bytes, header, encoded, size, decoded, msgId, dataId⟩, accepted,
    back _ _ _ 7 accepted (by decide)⟩

end Frame

end RadioLink
