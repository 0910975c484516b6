import RadioLink.Checksum
import RadioLink.Error

/-!
Frames of the application link. On the wire a message is a control byte, a header of five bytes
(message number, payload length, type, check) and the payload. The check covers the header with
its own field zero, and then the payload. The message number grows with every frame sent and is
informational only.
-/

namespace RadioLink

namespace Control

/-- Nothing received yet. -/
def idle : UInt8 := 0xff

/-- A request to reset the link; the far side answers with a ready edge. -/
def reset : UInt8 := 0x01

/-- A frame follows. -/
def data : UInt8 := 0x02

/-- The far side asks whether the host can receive. -/
def queryReady : UInt8 := 0x03

end Control

namespace Frame

def headerLength : Nat := 5

def maxPayload : Nat := 128

/-- Control byte, header and the largest payload. -/
def maxLength : Nat := 1 + headerLength + maxPayload

structure Header where
  msgId : UInt8
  len : UInt8
  dataId : UInt8
  crc : UInt16
  deriving DecidableEq, Repr

namespace Header

def bytes (header : Header) : Bytes :=
  [header.msgId, header.len, header.dataId] ++ Bytes.ofUInt16 header.crc

/-- The check that a header and its payload should carry. -/
def check (header : Header) (payload : Bytes) : UInt16 :=
  Crc.update (crc16 { header with crc := 0 }.bytes) payload

/-- The header of a payload, with its check. -/
def forPayload (msgId dataId : UInt8) (payload : Bytes) : Except LinkError Header :=
  if maxPayload < payload.length then .error (.payloadTooLarge payload.length)
  else
    let blank : Header := ⟨msgId, UInt8.ofNat payload.length, dataId, 0⟩
    .ok { blank with crc := blank.check payload }

def ofBytes (bytes : Bytes) : Except LinkError Header :=
  if bytes.length < headerLength then .error (.truncated headerLength bytes.length)
  else .ok ⟨bytes.byteAt 0, bytes.byteAt 1, bytes.byteAt 2, bytes.uint16At 3⟩

end Header

/-- Header and payload, without the control byte, for an output buffer of `room` bytes. -/
def encode (msgId dataId : UInt8) (payload : Bytes) (room : Nat) : Except LinkError Bytes := do
  let header ← Header.forPayload msgId dataId payload
  let total := headerLength + payload.length
  if room < total then throw (.truncated total room)
  return header.bytes ++ payload

/-- Reads a frame, without its control byte, and verifies its check. Bytes after the payload are
not looked at. -/
def decode (bytes : Bytes) : Except LinkError (Header × Bytes) := do
  let header ← Header.ofBytes bytes
  let length := header.len.toNat
  if maxPayload < length then throw (.payloadTooLarge length)
  let total := headerLength + length
  if bytes.length < total then throw (.truncated total bytes.length)
  let payload := bytes.slice headerLength length
  let computed := header.check payload
  if computed ≠ header.crc then throw (.crcMismatch header.crc computed)
  return (header, payload)

end Frame

/-- A validated inbound frame. -/
structure Frame where
  header : Frame.Header
  payload : Bytes
  deriving DecidableEq, Repr

namespace Frame

def dataId (frame : Frame) : UInt8 := frame.header.dataId

/-- How long the frame at the start of a receive buffer is, control byte included, once all of it
is there. A length field over the limit counts as the limit. -/
def completeLength? (received : Bytes) : Option Nat :=
  match received with
  | [] => none
  | control :: _ =>
    if control = Control.idle ∨ received.length < 1 + headerLength then none
    else
      let total := 1 + headerLength + min (received.byteAt 2).toNat maxPayload
      if total ≤ received.length then some total else none

end Frame

end RadioLink
