/-!
Byte strings, their little-endian fields and addresses. Multi-byte numbers on every wire of this
library are little endian, so the two directions are written once, here.
-/

namespace RadioLink

/-- A byte string, first byte first. -/
abbrev Bytes := List UInt8

namespace Bytes

/-- The `width` low bytes of a number, least significant first. -/
def ofNat : (width : Nat) → Nat → Bytes
  | 0, _ => []
  | width + 1, n => UInt8.ofNat n :: ofNat width (n / 256)

/-- The number that a byte string spells, least significant byte first. -/
def toNat : Bytes → Nat
  | [] => 0
  | b :: rest => b.toNat + 256 * toNat rest

def ofUInt16 (n : UInt16) : Bytes := ofNat 2 n.toNat

def ofUInt32 (n : UInt32) : Bytes := ofNat 4 n.toNat

/-- `width` bytes from position `start` on. -/
def slice (bytes : Bytes) (start width : Nat) : Bytes := (bytes.drop start).take width

/-- The byte at a position, zero past the end. -/
def byteAt (bytes : Bytes) (i : Nat) : UInt8 := bytes.getD i 0

def uint16At (bytes : Bytes) (i : Nat) : UInt16 := UInt16.ofNat (toNat (slice bytes i 2))

def uint32At (bytes : Bytes) (i : Nat) : UInt32 := UInt32.ofNat (toNat (slice bytes i 4))

/-- Cuts to `width` bytes, or fills up with zeros. -/
def padTo (width : Nat) (bytes : Bytes) : Bytes :=
  bytes.take width ++ List.replicate (width - bytes.length) 0

/-- Copies bytes over the start of a buffer, as far as they fit, and tells how many that are. -/
def copyOver (bytes buffer : Bytes) : Nat × Bytes :=
  let count := min bytes.length buffer.length
  (count, bytes.take count ++ buffer.drop count)

/-- At most `count` pieces of `size` bytes each, the last one possibly shorter. -/
def pieces (size : Nat) : (count : Nat) → Bytes → List Bytes
  | 0, _ => []
  | _ + 1, [] => []
  | count + 1, bytes => bytes.take size :: pieces size count (bytes.drop size)

/-- All of a byte string in pieces of `size` bytes, the last one possibly shorter. -/
def chunks (size : Nat) (bytes : Bytes) : List Bytes := pieces size bytes.length bytes

/-- Draws `left` bytes from a source in blocks of `size`. A block that the source cannot fill is
`none` and ends the list. `count` bounds the number of blocks. -/
def drawBlocks (size : Nat) : (count left : Nat) → Bytes → List (Option Bytes)
  | 0, _, _ => []
  | count + 1, left, source =>
    if left = 0 then []
    else
      let n := min left size
      let block := source.take n
      if block.length < n then [none]
      else some block :: drawBlocks size count (left - n) (source.drop n)

/-- The first `total` bytes of a source in blocks of `size`; `none` marks the block that the
source is too short for. -/
def blocks (size total : Nat) (source : Bytes) : List (Option Bytes) :=
  drawBlocks size total total source

@[simp] theorem length_ofNat (width n : Nat) : (ofNat width n).length = width := by
  induction width generalizing n with
  | zero => rfl
  | succ width ih => simp [ofNat, ih]

theorem ofNat_toNat (bytes : Bytes) : ofNat bytes.length (toNat bytes) = bytes := by
  induction bytes with
  | nil => rfl
  | cons b rest ih =>
    have small : b.toNat < 256 := b.toNat_lt
    have quotient : (b.toNat + 256 * toNat rest) / 256 = toNat rest := by omega
    have low : UInt8.ofNat (b.toNat + 256 * toNat rest) = b := by
      apply UInt8.toNat_inj.1
      simp only [UInt8.toNat_ofNat']
      omega
    simp only [toNat, List.length_cons, ofNat, quotient, low, ih]

@[simp] theorem length_padTo (width : Nat) (bytes : Bytes) : (padTo width bytes).length = width := by
  simp only [padTo, List.length_append, List.length_take, List.length_replicate]
  omega

end Bytes

/-- A byte string of a known length. -/
structure Octets (n : Nat) where
  bytes : Bytes
  size : bytes.length = n
  deriving DecidableEq, Repr

namespace Octets

def zero (n : Nat) : Octets n := ⟨List.replicate n 0, List.length_replicate⟩

/-- Cuts a byte string to `n` bytes, or fills it up with zeros. -/
def padded (n : Nat) (bytes : Bytes) : Octets n := ⟨bytes.padTo n, Bytes.length_padTo n bytes⟩

/-- Accepts exactly the byte strings of `n` bytes. -/
def ofBytes? (n : Nat) (bytes : Bytes) : Option (Octets n) :=
  if size : bytes.length = n then some ⟨bytes, size⟩ else none

instance (n : Nat) : Inhabited (Octets n) := ⟨zero n⟩

end Octets

/-- An MD5 digest, as an image file and the flasher report it. -/
abbrev Digest := Octets 16

/-- A hardware address. -/
abbrev Mac := Octets 6

/-- A network address of four octets. -/
structure Address where
  a : UInt8 := 0
  b : UInt8 := 0
  c : UInt8 := 0
  d : UInt8 := 0
  deriving DecidableEq, Repr, Inhabited

namespace Address

def bytes (address : Address) : Bytes := [address.a, address.b, address.c, address.d]

/-- The address at a position of a byte string. -/
def readAt (bytes : Bytes) (i : Nat) : Address :=
  ⟨bytes.byteAt i, bytes.byteAt (i + 1), bytes.byteAt (i + 2), bytes.byteAt (i + 3)⟩

/-- Dotted decimal. -/
def text (address : Address) : String :=
  ".".intercalate (address.bytes.map fun octet => toString octet.toNat)

/-- Reads dotted decimal. -/
def ofText? (text : String) : Option Address := do
  match ← (text.splitOn ".").mapM String.toNat? with
  | [a, b, c, d] =>
    if max (max a b) (max c d) < 256 then some ⟨.ofNat a, .ofNat b, .ofNat c, .ofNat d⟩ else none
  | _ => none

end Address

end RadioLink
