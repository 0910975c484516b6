import Mathlib
import RadioLink.Credentials
import RadioLink.Message.DatagramHeader
import RadioLink.Message.Info
import RadioLink.PortTable
import RadioLink.Proofs.FrameCodec

/-!
The layouts of messages. The fields of a message lie next to each other without gaps, so that its bytes
and its fields determine each other. A text that fills its field has no zero after it, and the field is
then read to its end.
-/

namespace RadioLink

namespace Bytes

variable {bytes : Bytes} {i width : Nat}

theorem toNat_lt (bytes : Bytes) : toNat bytes < 256 ^ bytes.length := by
  induction bytes with
  | nil => exact Nat.one_pos
  | cons b rest ih =>
    have small := b.toNat_lt
    rw [toNat, List.length_cons, pow_succ]
    omega

theorem length_slice (inside : i + width ≤ bytes.length) : (bytes.slice i width).length = width := by
  rw [slice, List.length_take, List.length_drop]
  omega

theorem slice_add (bytes : Bytes) (i first second : Nat) :
    bytes.slice i (first + second) = bytes.slice i first ++ bytes.slice (i + first) second := by
  rw [slice, List.take_add, List.drop_drop]
  rfl

/-- A field and what stands before it. -/
theorem take_append_slice (bytes : Bytes) (i width : Nat) :
    bytes.take i ++ bytes.slice i width = bytes.take (i + width) :=
  List.take_add.symm

theorem ofNat_slice (inside : i + width ≤ bytes.length) :
    ofNat width (toNat (bytes.slice i width)) = bytes.slice i width := by
  have field := ofNat_toNat (bytes.slice i width)
  rwa [length_slice inside] at field

theorem toNat_slice_lt (inside : i + width ≤ bytes.length) :
    toNat (bytes.slice i width) < 256 ^ width := by
  have small := toNat_lt (bytes.slice i width)
  rwa [length_slice inside] at small

theorem ofUInt16_uint16At (inside : i + 2 ≤ bytes.length) :
    ofUInt16 (bytes.uint16At i) = bytes.slice i 2 := by
  rw [ofUInt16, uint16At, UInt16.toNat_ofNat_of_lt' (toNat_slice_lt inside), ofNat_slice inside]

theorem ofUInt32_uint32At (inside : i + 4 ≤ bytes.length) :
    ofUInt32 (bytes.uint32At i) = bytes.slice i 4 := by
  rw [ofUInt32, uint32At, UInt32.toNat_ofNat_of_lt' (toNat_slice_lt inside), ofNat_slice inside]

theorem singleton_byteAt (inside : i + 1 ≤ bytes.length) : [bytes.byteAt i] = bytes.slice i 1 := by
  rw [slice, List.drop_eq_getElem_cons inside, byteAt, List.getD_eq_getElem _ _ inside]
  rfl

theorem padTo_eq_append {text : Bytes} (fits : text.length ≤ width) :
    text.padTo width = text ++ List.replicate (width - text.length) 0 := by
  rw [padTo, List.take_of_length_le fits]

theorem padTo_eq_self {text : Bytes} (full : text.length = width) : text.padTo width = text := by
  rw [padTo_eq_append full.le, full, Nat.sub_self, List.replicate_zero, List.append_nil]

def untilZero (field : Bytes) : Bytes := field.takeWhile (· ≠ 0)

theorem untilZero_padTo {text : Bytes} (fits : text.length ≤ width) (proper : 0 ∉ text) :
    untilZero (text.padTo width) = text := by
  have kept : ∀ b ∈ text, decide (b ≠ 0) = true := fun b member =>
    decide_eq_true fun zero => proper (zero ▸ member)
  rw [padTo_eq_append fits, untilZero, List.takeWhile_append_of_pos kept]
  simp

end Bytes

theorem Address.bytes_readAt {bytes : Bytes} {i : Nat} (inside : i + 4 ≤ bytes.length) :
    (readAt bytes i).bytes = bytes.slice i 4 := by
  calc (readAt bytes i).bytes
      = [bytes.byteAt i] ++ [bytes.byteAt (i + 1)] ++ [bytes.byteAt (i + 2)] ++
          [bytes.byteAt (i + 3)] := rfl
    _ = bytes.slice i 1 ++ bytes.slice (i + 1) 1 ++ bytes.slice (i + 2) 1 ++
          bytes.slice (i + 3) 1 := by
        simp (disch := omega) only [Bytes.singleton_byteAt]
    _ = bytes.slice i 4 := by
        rw [Bytes.slice_add bytes i 3 1, Bytes.slice_add bytes i 2 1, Bytes.slice_add bytes i 1 1]

namespace Message

/-- A payload is read if it has the one length of its message. -/
theorem ofLength_eq_ok {α : Type} {dataId : UInt8} {expected : Nat} {payload : Bytes} {value read : α} :
    ofLength dataId expected payload value = .ok read ↔ payload.length = expected ∧ value = read := by
  unfold ofLength
  split <;> simp [*]

theorem exists_ofLength_eq_ok {α : Type} {dataId : UInt8} {expected : Nat} {payload : Bytes} {value : α} :
    (∃ read, ofLength dataId expected payload value = .ok read) ↔ payload.length = expected := by
  simp [ofLength_eq_ok]

namespace Info

/-- What is read from a payload is written back as it was. -/
theorem bytes_of_decode {payload : Bytes} {info : Info} (decoded : decode payload = .ok info) :
    info.bytes = payload := by
  obtain ⟨size, rfl⟩ := ofLength_eq_ok.mp decoded
  have size : payload.length = 45 := size
  have mac : (Octets.padded 6 (payload.slice 2 6)).bytes = payload.slice 2 6 :=
    Bytes.padTo_eq_self (Bytes.length_slice (by omega))
  have rssi : [(payload.byteAt 20).toInt8.toUInt8] = payload.slice 20 1 :=
    Bytes.singleton_byteAt (by omega)
  have start : payload.slice 0 2 = payload.take 2 := rfl
  -- every field is the slice at its place, and each slice starts where the one before it ends
  simp (disch := omega) only [bytes, mac, rssi, Bytes.ofUInt16_uint16At, Bytes.ofUInt32_uint32At,
    Address.bytes_readAt, start, Bytes.take_append_slice]
  exact List.take_of_length_le size.le

theorem toNat_deviceId (info : Info) : info.deviceId.toNat = info.mac.bytes.toNat := by
  have small := Bytes.toNat_lt info.mac.bytes
  rw [info.mac.size] at small
  exact UInt64.toNat_ofNat_of_lt' (small.trans (by decide))

end Info

namespace DatagramHeader

theorem length_bytes (header : DatagramHeader) : header.bytes.length = length := rfl

/-- An announcement is read back as it was written. -/
theorem decode_bytes (header : DatagramHeader) : decode header.bytes = .ok header := by
  have own : header.bytes.uint16At 4 = header.localPort := Bytes.uint16At_append header.addr.bytes
    (Bytes.ofUInt16 header.remotePort ++ Bytes.ofUInt16 header.len ++ Bytes.ofUInt16 header.crc) _
  have far : header.bytes.uint16At 6 = header.remotePort := Bytes.uint16At_append
    (header.addr.bytes ++ Bytes.ofUInt16 header.localPort)
    (Bytes.ofUInt16 header.len ++ Bytes.ofUInt16 header.crc) _
  have size : header.bytes.uint16At 8 = header.len := Bytes.uint16At_append
    (header.addr.bytes ++ Bytes.ofUInt16 header.localPort ++ Bytes.ofUInt16 header.remotePort)
    (Bytes.ofUInt16 header.crc) _
  have check : header.bytes.uint16At 10 = header.crc := Bytes.uint16At_append
    (header.addr.bytes ++ Bytes.ofUInt16 header.localPort ++ Bytes.ofUInt16 header.remotePort ++
      Bytes.ofUInt16 header.len) [] _
  rw [decode, ofLength, if_pos header.length_bytes, own, far, size, check]
  rfl

theorem bytes_of_decode {payload : Bytes} {header : DatagramHeader}
    (decoded : decode payload = .ok header) : header.bytes = payload := by
  obtain ⟨size, rfl⟩ := ofLength_eq_ok.mp decoded
  have size : payload.length = 12 := size
  have start : payload.slice 0 4 = payload.take 4 := rfl
  simp (disch := omega) only [bytes, Bytes.ofUInt16_uint16At, Address.bytes_readAt, start,
    Bytes.take_append_slice]
  exact List.take_of_length_le size.le

end DatagramHeader

section

variable (vm : UInt32) (size offset : UInt16) (chunk : Bytes)

theorem uint32At_loadVm : (loadVm vm size offset chunk).uint32At 0 = vm :=
  Bytes.uint32At_append [] (Bytes.ofUInt16 size ++ Bytes.ofUInt16 offset ++ chunk.take programChunk) vm

theorem size_loadVm : (loadVm vm size offset chunk).uint16At 4 = size :=
  Bytes.uint16At_append (Bytes.ofUInt32 vm) (Bytes.ofUInt16 offset ++ chunk.take programChunk) size

theorem offset_loadVm : (loadVm vm size offset chunk).uint16At 6 = offset :=
  Bytes.uint16At_append (Bytes.ofUInt32 vm ++ Bytes.ofUInt16 size) (chunk.take programChunk) offset

theorem drop_loadVm : (loadVm vm size offset chunk).drop 8 = chunk.take programChunk := rfl

theorem take_loadVmInto (out : Octets (8 + programChunk)) :
    (loadVmInto vm size offset chunk out).2.bytes.take (loadVmInto vm size offset chunk out).1 =
      loadVm vm size offset chunk :=
  List.take_left

end

end Message

namespace Credentials

def Proper (credentials : Credentials) : Prop :=
  0 ∉ utf8 credentials.ssid ∧ 0 ∉ utf8 credentials.password

theorem utf8_injective : Function.Injective utf8 := by
  intro first second same
  exact String.toByteArray_inj.mp (ByteArray.ext (Array.toList_inj.mp same))

theorem take_bytes (credentials : Credentials) :
    credentials.bytes.take 32 = (utf8 credentials.ssid).padTo 32 :=
  List.take_left' (Bytes.length_padTo 32 _)

theorem drop_bytes (credentials : Credentials) :
    credentials.bytes.drop 32 = (utf8 credentials.password).padTo 32 :=
  List.drop_left' (Bytes.length_padTo 32 _)

theorem Proper.ssid {credentials : Credentials} (proper : credentials.Proper) :
    Bytes.untilZero (credentials.bytes.take 32) = utf8 credentials.ssid := by
  rw [take_bytes]
  exact Bytes.untilZero_padTo credentials.ssid_fits proper.1

theorem Proper.password {credentials : Credentials} (proper : credentials.Proper) :
    Bytes.untilZero (credentials.bytes.drop 32) = utf8 credentials.password := by
  rw [drop_bytes]
  exact Bytes.untilZero_padTo credentials.password_fits proper.2

theorem Proper.eq_of_bytes {first second : Credentials} (proper : first.Proper)
    (proper' : second.Proper) (same : first.bytes = second.bytes) : first = second := by
  have ssid : first.ssid = second.ssid := utf8_injective (by rw [← proper.ssid, ← proper'.ssid, same])
  have password : first.password = second.password :=
    utf8_injective (by rw [← proper.password, ← proper'.password, same])
  cases first
  cases second
  cases ssid
  cases password
  rfl

end Credentials

namespace PortTable

theorem encode_cons (slot : UInt16) (rest : List UInt16) :
    encode (slot :: rest) = Bytes.ofUInt16 slot ++ encode rest :=
  List.flatMap_cons

theorem length_encode (slots : List UInt16) : (encode slots).length = 2 * slots.length := by
  induction slots with
  | nil => rfl
  | cons slot rest ih =>
    have pair : (Bytes.ofUInt16 slot).length = 2 := rfl
    rw [encode_cons, List.length_append, List.length_cons, pair, ih]
    omega

/-- A slot is read back from its place; there is nothing past the last slot. -/
theorem uint16At_encode (slots : List UInt16) (i : Nat) :
    (encode slots).uint16At (2 * i) = slots.getD i 0 := by
  induction slots generalizing i with
  | nil => simp [encode, Bytes.uint16At, Bytes.slice, Bytes.toNat]
  | cons slot rest ih =>
    rw [encode_cons]
    cases i with
    | zero => exact Bytes.uint16At_append [] (encode rest) slot
    | succ i => exact ih i

end PortTable

namespace Message

/-- The bytes of a message and its fields determine each other: INFO and the announcement of a datagram
are read from every payload of their length and written back as they were, the device number spells the
hardware address, and join requests, the copy of the port table and pieces of a program can be taken
apart again. -/
theorem layouts_lose_nothing :
    (∀ payload, (∃ info, Info.decode payload = .ok info) ↔ payload.length = 45) ∧
    (∀ payload info, Info.decode payload = .ok info → info.bytes = payload) ∧
    (∀ info : Info, info.deviceId.toNat < 2 ^ 48 ∧
      Bytes.ofNat 6 info.deviceId.toNat = info.mac.bytes) ∧
    (∀ payload, (∃ header, DatagramHeader.decode payload = .ok header) ↔ payload.length = 12) ∧
    (∀ payload header, DatagramHeader.decode payload = .ok header → header.bytes = payload) ∧
    (∀ header, DatagramHeader.decode header.bytes = .ok header) ∧
    (∀ credentials : Credentials, credentials.Proper →
      Bytes.untilZero (credentials.bytes.take 32) = Credentials.utf8 credentials.ssid ∧
      Bytes.untilZero (credentials.bytes.drop 32) = Credentials.utf8 credentials.password) ∧
    (∀ first second : Credentials, first.Proper → second.Proper → first ≠ second →
      first.bytes ≠ second.bytes) ∧
    (∀ (ports : Vector UInt16 PortTable.capacity) (i : Fin PortTable.capacity),
      (PortTable.encode ports.toList).uint16At (2 * i) = ports[i]) ∧
    (∀ (vm : UInt32) (size offset : UInt16) (chunk : Bytes) (out : Octets (8 + programChunk)),
      let written := loadVmInto vm size offset chunk out
      let body : Bytes := written.2.bytes.take written.1
      body.uint32At 0 = vm ∧ body.uint16At 4 = size ∧ body.uint16At 6 = offset ∧
        body.drop 8 = chunk.take 64) := by
  refine ⟨fun _ => exists_ofLength_eq_ok, fun _ _ => Info.bytes_of_decode, fun info => ?_,
    fun _ => exists_ofLength_eq_ok, fun _ _ => DatagramHeader.bytes_of_decode,
    DatagramHeader.decode_bytes, fun _ proper => ⟨proper.ssid, proper.password⟩,
    fun _ _ proper proper' => mt (proper.eq_of_bytes proper'), fun ports i => ?_,
    fun vm size offset chunk out => ?_⟩
  · have small := Bytes.toNat_lt info.mac.bytes
    have spelt := Bytes.ofNat_toNat info.mac.bytes
    rw [info.mac.size] at small spelt
    rw [info.toNat_deviceId]
    exact ⟨small, spelt⟩
  · rw [PortTable.uint16At_encode, List.getD_eq_getElem _ 0 (by simp)]
    exact ports.getElem_toList _
  · dsimp only
    rw [take_loadVmInto, uint32At_loadVm, size_loadVm, offset_loadVm, drop_loadVm]
    exact ⟨rfl, rfl, rfl, rfl⟩

end Message

end RadioLink
