import RadioLink.Error

/-!
Answers of the boot loader: a direction byte, the command answered, a length, a value and two
status bytes. Anything after them is ignored.
-/

namespace RadioLink.Loader

structure Response where
  op : UInt8
  len : UInt16
  value : UInt32
  status : UInt8
  error : UInt8
  deriving DecidableEq, Repr

namespace Response

/-- The direction byte of an answer. -/
def direction : UInt8 := 0x01

/-- The bytes every answer has at least. -/
def minLength : Nat := 10

def parse (packet : Bytes) : Except ProvisionError Response :=
  if packet.length < minLength ∨ packet.byteAt 0 ≠ direction then
    .error (.malformedResponse packet.length)
  else
    .ok { op := packet.byteAt 1
          len := packet.uint16At 2
          value := packet.uint32At 4
          status := packet.byteAt 8
          error := packet.byteAt 9 }

/-- Both status bytes are zero. -/
def accepted (response : Response) : Bool := response.status = 0 ∧ response.error = 0

/-- All fields by name, for the log. -/
def describe (response : Response) : String :=
  s!"RomResponse \x7b op: {response.op.toNat}, len: {response.len.toNat}, " ++
    s!"value: {response.value.toNat}, status: {response.status.toNat}, " ++
    s!"error: {response.error.toNat} \x7d"

end Response

end RadioLink.Loader
