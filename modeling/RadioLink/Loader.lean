import RadioLink.Checksum
import RadioLink.Firmware.Image
import RadioLink.Loader.Response
import RadioLink.Slip.Port

/-!
The boot loader in the co-processor's mask ROM. Commands and answers are escape-coded packets. Only
the commands that fill RAM are used: they place the flasher stub and jump to it.
-/

namespace RadioLink.Loader

variable {σ : Type} [Peer σ]

def memBeginOp : UInt8 := 0x05
def memEndOp : UInt8 := 0x06
def memDataOp : UInt8 := 0x07
def syncOp : UInt8 := 0x08

/-- The direction byte of a command. -/
def direction : UInt8 := 0x00

def syncAttempts : Nat := 10
def syncTimeout : Micros := 5000
def syncPauseMs : Nat := 5

/-- The loader answers one SYNC several times; this long until it has. -/
def syncSettleMs : Nat := 50

def commandTimeout : Micros := 50000

/-- The most bytes of an answer. -/
def answerRoom : Nat := 64

/-- What the loader measures the baud rate with. -/
def syncBody : Bytes := [0x07, 0x07, 0x12, 0x20] ++ List.replicate 32 0x55

/-- The header of a command with the given body. -/
def commandHeader (op : UInt8) (body : Bytes) (checksum : UInt32) : Bytes :=
  [direction, op] ++ Bytes.ofNat 2 body.length ++ Bytes.ofUInt32 checksum

abbrev Step (σ α : Type) := Action ProvisionError (Slip.Port σ) α

def sendCommand (op : UInt8) (body : Bytes) (checksum : UInt32) : Step σ Unit :=
  (Slip.Port.writePacket [commandHeader op body checksum, body]).mapError .io

/-- Sends a command and checks the answer to it. -/
def command (op : UInt8) (body : Bytes) (checksum : UInt32) : Step σ Response := do
  Slip.Port.discard.mapError .io
  sendCommand op body checksum
  match ← Slip.Port.readPacket answerRoom commandTimeout with
  | none => throw (.responseTimeout op)
  | some packet =>
    let response ← Action.ofExcept (Response.parse packet)
    Action.change (Slip.Port.note · (.loaderAnswered response))
    if response.accepted then pure response
    else throw (.commandRejected op response.status response.error)

/-- Whether a packet answers a SYNC, whatever its status. -/
def answersSync (packet : Bytes) : Bool :=
  match Response.parse packet with
  | .ok response => response.op = syncOp
  | .error _ => false

/-- Tries to get in step with the loader, `left` more times after `made` attempts. -/
def syncFrom (made : Nat) : (left : Nat) → Step σ Unit
  | 0 => throw (.syncTimeout syncAttempts)
  | left + 1 => do
    Slip.Port.discard.mapError .io
    sendCommand syncOp syncBody 0
    sendCommand syncOp syncBody 0
    let packet ← Slip.Port.readPacket answerRoom syncTimeout
    if packet.any answersSync then
      Action.change (Slip.Port.note · (.loaderInSync (made + 1)))
      Action.change (Slip.Port.delayMs · syncSettleMs)
      Slip.Port.discard.mapError .io
    else
      Action.change (Slip.Port.delayMs · syncPauseMs)
      syncFrom (made + 1) left

/-- Gets in step with the loader. -/
def sync : Step σ Unit := syncFrom 0 syncAttempts

/-- Announces a download to RAM. -/
def memBegin (size blocks blockSize offset : UInt32) : Step σ Unit := do
  let body := [size, blocks, blockSize, offset].flatMap Bytes.ofUInt32
  let _ ← command memBeginOp body 0

/-- The header in front of a data block. -/
def blockHeader (seq : UInt32) (data : Bytes) : Bytes :=
  Bytes.ofNat 4 data.length ++ Bytes.ofUInt32 seq ++ List.replicate 8 0

/-- Sends one block; the checksum covers the data and not the header in front of it. -/
def memData (seq : UInt32) (data : Bytes) : Step σ Unit := do
  let _ ← command memDataOp (blockHeader seq data ++ data) (blockChecksum data)

/-- Ends the download and jumps to `entry`. -/
def memEnd (entry : UInt32) : Step σ Unit := do
  let _ ← command memEndOp (List.replicate 4 0 ++ Bytes.ofUInt32 entry) 0

/-- Places a segment in RAM as one block. -/
def loadSegment (start : UInt32) (content : Bytes) : Step σ Unit := do
  let size := UInt32.ofNat content.length
  memBegin size 1 size start
  memData 0 content

/-- Places the stub in RAM, with its launch parameter in front of the code, and starts it. The
loader may jump before it answers, so a missing last answer is no failure. -/
def loadStub (stub : Firmware.Stub) (parameter : UInt32) : Step σ Unit := do
  Action.change (Slip.Port.note · (.loadingStub stub.code.length stub.data.length))
  loadSegment stub.paramsStart (Bytes.ofUInt32 parameter ++ stub.code)
  if stub.data ≠ [] then loadSegment stub.dataStart stub.data
  match ← Action.attempt (memEnd stub.entry) with
  | .ok () | .error (.responseTimeout _) => pure ()
  | .error error => throw error

end RadioLink.Loader
