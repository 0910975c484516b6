import RadioLink.Error

/-!
Types of the messages exchanged with the co-processor. Each inbound message has one length; a
payload of any other length is refused. The messages to the programs that run on the co-processor
are written here, too.
-/

namespace RadioLink.Message

def statusId : UInt8 := 0x01
def infoId : UInt8 := 0x02
def connectId : UInt8 := 0x03
def accessPointId : UInt8 := 0x04
def portsId : UInt8 := 0x05
def debugId : UInt8 := 0x06
def datagramHeaderId : UInt8 := 0x07
def datagramDataId : UInt8 := 0x08
def resetVmId : UInt8 := 0x20
def loadVmId : UInt8 := 0x21
def vmInfoId : UInt8 := 0x22
def runVmId : UInt8 := 0x26

/-- Reads a payload that must have exactly `expected` bytes. -/
def ofLength {α : Type} (dataId : UInt8) (expected : Nat) (payload : Bytes) (value : α) :
    Except DispatchError α :=
  if payload.length = expected then .ok value
  else .error (.lengthMismatch dataId expected payload.length)

/-- The flags of a STATUS message. -/
structure Status where
  flags : UInt8
  deriving DecidableEq, Repr

namespace Status

def length : Nat := 1

def decode (payload : Bytes) : Except DispatchError Status :=
  ofLength statusId length payload ⟨payload.byteAt 0⟩

end Status

/-- The free heap that a DEBUG message reports. -/
structure Debug where
  freeHeap : UInt16
  deriving DecidableEq, Repr

namespace Debug

def length : Nat := 2

def decode (payload : Bytes) : Except DispatchError Debug :=
  ofLength debugId length payload ⟨payload.uint16At 0⟩

end Debug

/-- The most program bytes in one LOAD message. -/
def programChunk : Nat := 64

/-- Body of the message that stops a program and discards it. -/
def resetVm (vm : UInt32) : Bytes := Bytes.ofUInt32 vm

/-- Body of the message that carries a piece of a program: which program, its whole size, where the
piece belongs, and the piece, cut at the chunk limit. -/
def loadVm (vm : UInt32) (size offset : UInt16) (chunk : Bytes) : Bytes :=
  Bytes.ofUInt32 vm ++ Bytes.ofUInt16 size ++ Bytes.ofUInt16 offset ++ chunk.take programChunk

theorem length_loadVm (vm : UInt32) (size offset : UInt16) (chunk : Bytes) :
    (loadVm vm size offset chunk).length = 8 + min programChunk chunk.length := by
  simp only [loadVm, Bytes.ofUInt32, Bytes.ofUInt16, List.length_append, Bytes.length_ofNat,
    List.length_take]

/-- Writes a LOAD message over the start of a buffer that holds the longest one, and tells how many
bytes of the buffer it takes. -/
def loadVmInto (vm : UInt32) (size offset : UInt16) (chunk : Bytes)
    (out : Octets (8 + programChunk)) : Nat × Octets (8 + programChunk) :=
  let body := loadVm vm size offset chunk
  (body.length,
    { bytes := body ++ out.bytes.drop body.length
      size := by
        rw [List.length_append, List.length_drop, out.size, length_loadVm]
        omega })

/-- Body of the message that calls a function of a program. -/
def runVm (vm : UInt8) (function : UInt16) : Bytes := vm :: Bytes.ofUInt16 function

end RadioLink.Message
