import RadioLink.Bytes

/-!
The two checksums of the wire: the 16-bit cyclic redundancy check of frames and datagrams, and the
exclusive-or checksum of loader blocks.
-/

namespace RadioLink

namespace Crc

/-- The register before the first byte. -/
def start : UInt16 := 0xffff

/-- One step of the division by x¹⁶ + x¹² + x⁵ + 1. -/
def shift (register : UInt16) : UInt16 :=
  if register &&& 0x8000 ≠ 0 then (register <<< 1) ^^^ 0x1021 else register <<< 1

/-- `n` steps of the division. -/
def shifts : Nat → UInt16 → UInt16
  | 0, register => register
  | n + 1, register => shifts n (shift register)

def step (register : UInt16) (b : UInt8) : UInt16 :=
  shifts 8 (register ^^^ (b.toUInt16 <<< 8))

/-- Continues a check over further bytes. -/
def update (register : UInt16) (bytes : Bytes) : UInt16 := bytes.foldl step register

/-- The register after each of several parts. -/
def running (register : UInt16) : List Bytes → List UInt16
  | [] => []
  | part :: rest => update register part :: running (update register part) rest

end Crc

/-- The check of a whole byte string. -/
def crc16 (bytes : Bytes) : UInt16 := Crc.update Crc.start bytes

/-- The seed of the loader's checksum. -/
def blockSeed : UInt8 := 0xef

/-- The loader's checksum of a data block. -/
def blockChecksum (data : Bytes) : UInt32 := (data.foldl (· ^^^ ·) blockSeed).toUInt32

end RadioLink
