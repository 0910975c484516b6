import RadioLink.Error

/-!
Escape-coded packets. A packet has a delimiter on both sides; delimiter and escape bytes inside
it are written as two bytes each. The decoder takes a byte at a time, ignores what
comes before the first delimiter and skips empty packets.
-/

namespace RadioLink.Slip

/-- The delimiter. -/
def delimiter : UInt8 := 0xc0

def escape : UInt8 := 0xdb

/-- Stands for the delimiter after an escape. -/
def escapedDelimiter : UInt8 := 0xdc

/-- Stands for the escape byte after an escape. -/
def escapedEscape : UInt8 := 0xdd

/-- One byte of a packet as it is sent. -/
def stuff (b : UInt8) : Bytes :=
  if b = delimiter then [escape, escapedDelimiter]
  else if b = escape then [escape, escapedEscape]
  else [b]

/-- The parts as one packet, delimiters included. -/
def encode (parts : List Bytes) : Bytes :=
  delimiter :: (parts.flatten.flatMap stuff ++ [delimiter])

theorem length_encode (parts : List Bytes) : parts.flatten.length + 2 ≤ (encode parts).length := by
  have stuffed : ∀ bytes : Bytes, bytes.length ≤ (bytes.flatMap stuff).length := by
    intro bytes
    induction bytes with
    | nil => exact Nat.le_refl _
    | cons b rest ih =>
      have some : 1 ≤ (stuff b).length := by
        unfold stuff
        split
        · decide
        · split <;> simp
      rw [List.flatMap_cons, List.length_append, List.length_cons]
      omega
  have content := stuffed parts.flatten
  simp only [encode, List.length_cons, List.length_append, List.length_nil]
  omega

inductive Mode where
  /-- Outside a packet. -/
  | hunting
  | inPacket
  /-- Inside a packet, right after an escape byte. -/
  | escaped
  deriving DecidableEq, Repr

/-- Decoder of a byte stream into packets of at most `capacity` bytes. -/
structure Decoder where
  capacity : Nat
  mode : Mode := .hunting
  content : Bytes := []
  deriving DecidableEq, Repr

namespace Decoder

def reset (decoder : Decoder) : Decoder := { decoder with mode := .hunting, content := [] }

/-- Takes a byte of content, if it still fits. -/
def store (decoder : Decoder) (b : UInt8) : Decoder × Option (Except SlipError Bytes) :=
  if decoder.content.length < decoder.capacity then
    ({ decoder with mode := .inPacket, content := decoder.content ++ [b] }, none)
  else (decoder.reset, some (.error .overflow))

/-- Takes one byte of the stream. The answer is the packet that the byte closed, or the error that
it caused; after an error the decoder hunts for the next packet. -/
def push (decoder : Decoder) (b : UInt8) : Decoder × Option (Except SlipError Bytes) :=
  match decoder.mode with
  | .hunting =>
    if b = delimiter then ({ decoder with mode := .inPacket, content := [] }, none)
    else (decoder, none)
  | .inPacket =>
    if b = delimiter then
      if decoder.content = [] then (decoder, none)
      else ({ decoder with mode := .hunting }, some (.ok decoder.content))
    else if b = escape then ({ decoder with mode := .escaped }, none)
    else decoder.store b
  | .escaped =>
    if b = escapedDelimiter then decoder.store delimiter
    else if b = escapedEscape then decoder.store escape
    else (decoder.reset, some (.error (.invalidEscape b)))

/-- Feeds bytes and collects what they cause, each with the position of its byte. -/
def events (decoder : Decoder) (position : Nat) :
    Bytes → Decoder × List (Nat × Except SlipError Bytes)
  | [] => (decoder, [])
  | b :: rest =>
    let (next, event) := decoder.push b
    let (final, later) := next.events (position + 1) rest
    (final, event.toList.map (position, ·) ++ later)

end Decoder

end RadioLink.Slip
