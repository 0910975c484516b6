import RadioLink.Loader

/-!
The flasher stub that runs in the co-processor's RAM. A command is a packet of one byte followed by
a packet of arguments; the image itself is sent raw, outside any packet.
-/

namespace RadioLink.Flasher

variable {σ : Type} [Peer σ]

def writeCommand : UInt8 := 1
def digestCommand : UInt8 := 3

/-- What the stub says when it is up: `OHAI`. -/
def greeting : Bytes := [0x4f, 0x48, 0x41, 0x49]

/-- First byte of a bootable image. The stub expects bytes 2 and 3 of such an image, which hold the
flash mode and size, to be zero. -/
def imageMagic : UInt8 := 0xe9

def blockLength : Nat := 256

/-- The stub acknowledges every this many bytes. -/
def ackInterval : Nat := 1024

def greetingTimeout : Micros := 100000
def commandTimeout : Micros := 50000
def ackTimeout : Micros := 250000
def digestTimeout : Micros := 500000

abbrev Step (σ α : Type) := Action ProvisionError (Slip.Port σ) α

/-- Waits for the stub to come up. -/
def awaitGreeting : Step σ Unit := do
  match ← Slip.Port.readPacket 16 greetingTimeout with
  | none => throw .stubNotReady
  | some packet =>
    if packet = greeting then Action.change (Slip.Port.note · .stubUp)
    else
      Action.change (Slip.Port.note · (.unexpectedPacket packet))
      throw .stubNotReady

def sendCommand (command : UInt8) (arguments : List UInt32) : Step σ Unit := do
  Slip.Port.discard.mapError .io
  (Slip.Port.writePacket [[command]]).mapError .io
  (Slip.Port.writePacket [arguments.flatMap Bytes.ofUInt32]).mapError .io

/-- The first block of an image as the stub expects it. -/
def clearFlashMode : Bytes → Bytes
  | magic :: b :: mode :: size :: rest =>
    if magic = imageMagic then magic :: b :: 0 :: 0 :: rest else magic :: b :: mode :: size :: rest
  | block => block

/-- Waits for the acknowledgement of the bytes written so far; going on without one is allowed. -/
def awaitAck (written : Nat) : Step σ Unit := do
  Slip.Port.discard.mapError .io
  let acknowledged ← (Slip.Port.awaitDelimiter ackTimeout).mapError .io
  if !acknowledged then Action.change (Slip.Port.note · (.noBlockAck written))
  Action.change (Slip.Port.delayMs · 1)

/-- Sends the blocks of an image, as reading them goes, after `written` bytes of it. -/
def streamFrom (written : Nat) : List (Except Fault Bytes) → Step σ Unit
  | [] => pure ()
  | .error fault :: _ => throw (.io fault)
  | .ok block :: rest => do
    let block := if written = 0 then clearFlashMode block else block
    (Slip.Port.writeRaw block).mapError .io
    let written := written + block.length
    if written % ackInterval = 0 then awaitAck written
    streamFrom written rest

/-- Erases `length` bytes at a flash address and writes an image there, as reading it goes. -/
def writeImage (address : UInt32) (image : Firmware.Image) (length : UInt32) : Step σ Unit := do
  sendCommand writeCommand [address, length, 1]
  let ack ← Slip.Port.readPacket 8 commandTimeout
  if ack ≠ some [0, 0, 0, 0] then throw .flashWriteRejected
  streamFrom 0 (image.readBlocks blockLength length.toNat)

/-- Erases and writes `length` bytes of a payload at a flash address. -/
def write (address : UInt32) (payload : Bytes) (length : UInt32) : Step σ Unit :=
  writeImage address { payload, digest := Octets.zero 16 } length

/-- The digest of `length` bytes of flash. -/
def digest (address length : UInt32) : Step σ Digest := do
  sendCommand digestCommand [address, length, 0]
  match ← Slip.Port.readPacket 32 digestTimeout with
  | none => throw .digestUnavailable
  | some packet =>
    match Octets.ofBytes? 16 (packet.take 16) with
    | some digest => pure digest
    | none => throw .digestUnavailable

end RadioLink.Flasher
