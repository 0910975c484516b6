import RadioLink.Action
import RadioLink.Firmware.Image

/-!
A firmware file while it is open. Digest and payload are read through one position in the file, and every use of
either moves it. A reader of the payload goes back to the start and stops before the digest; it has the position to
itself until it is given back.
-/

namespace RadioLink.Firmware

/-- A file that is read at a position. -/
structure Cursor where
  content : Bytes
  position : Nat := 0
  reads : Nat := 0
  /-- The most bytes that a read gives, by the number of reads before it. Even so it gives one if it can. -/
  most : (read : Nat) → Nat := fun _ => content.length

namespace Cursor

def seek (cursor : Cursor) (position : Nat) : Cursor := { cursor with position }

def seekEnd (cursor : Cursor) : Cursor := cursor.seek cursor.content.length

def read (cursor : Cursor) (room : Nat) : Bytes × Cursor :=
  let count := min room (max 1 (cursor.most cursor.reads))
  let bytes := (cursor.content.drop cursor.position).take count
  (bytes, { cursor with position := cursor.position + bytes.length, reads := cursor.reads + 1 })

/-- Reads until a buffer of `room` bytes is full. A file that ends before that is an error. -/
def readExact (room : Nat) : Action Fault Cursor Bytes := do
  if room = 0 then return []
  match ← Action.total (Cursor.read · room) with
  | [] => throw .shortRead
  | first :: rest => return first :: rest ++ (← readExact (room - (first :: rest).length))
termination_by room
decreasing_by
  rw [List.length_cons]
  omega

theorem length_read_le (cursor : Cursor) (room : Nat) : (cursor.read room).1.length ≤ room :=
  Nat.le_trans (List.length_take_le _ _) (Nat.min_le_left _ _)

end Cursor

/-- Reads the bytes of a file up to some place. -/
structure PayloadReader where
  cursor : Cursor
  /-- How many bytes may still be read. -/
  left : Nat

namespace PayloadReader

def read (reader : PayloadReader) (room : Nat) : Bytes × PayloadReader :=
  if reader.left = 0 then ([], reader)
  else
    let (bytes, cursor) := reader.cursor.read (min room reader.left)
    (bytes, { cursor, left := reader.left - bytes.length })

theorem left_read (reader : PayloadReader) (room : Nat) :
    (reader.read room).1.length + (reader.read room).2.left = reader.left := by
  unfold read
  split
  · exact Nat.zero_add _
  · have fits := reader.cursor.length_read_le (min room reader.left)
    exact Nat.add_sub_cancel' (Nat.le_trans fits (Nat.min_le_right _ _))

theorem left_lt_of_read {reader next : PayloadReader} {room : Nat} {first : UInt8} {rest : Bytes}
    (given : reader.read room = (first :: rest, next)) : next.left < reader.left := by
  have fewer := reader.left_read room
  simp only [given, List.length_cons] at fewer
  omega

/-- Reads into buffers of `room` bytes until nothing more comes. -/
def readToEnd (reader : PayloadReader) (room : Nat) : Bytes × PayloadReader :=
  match given : reader.read room with
  | ([], last) => ([], last)
  | (first :: rest, next) =>
    have := left_lt_of_read given
    let (others, last) := next.readToEnd room
    (first :: rest ++ others, last)
termination_by reader.left

/-- One read after the other, into buffers of the given sizes. -/
def readEach (reader : PayloadReader) : (rooms : List Nat) → List Bytes × PayloadReader
  | [] => ([], reader)
  | room :: rest =>
    let (bytes, next) := reader.read room
    let (others, last) := next.readEach rest
    (bytes :: others, last)

end PayloadReader

structure ImageFile where
  cursor : Cursor
  payloadLength : Nat

namespace ImageFile

def ofCursor (cursor : Cursor) : Except ProvisionError ImageFile :=
  let cursor := cursor.seekEnd
  if cursor.position < Image.digestLength then .error .imageTooShort
  else .ok { cursor, payloadLength := cursor.position - Image.digestLength }

/-- Reads the digest at the end of the file. -/
def digest : Action Fault ImageFile Digest := do
  Action.change fun image => { image with cursor := image.cursor.seek image.payloadLength }
  let bytes ← (Cursor.readExact Image.digestLength).within ImageFile.cursor
    fun cursor image => { image with cursor }
  return Octets.padded 16 bytes

def payload (image : ImageFile) : PayloadReader :=
  { cursor := image.cursor.seek 0, left := image.payloadLength }

def giveBack (image : ImageFile) (reader : PayloadReader) : ImageFile :=
  { image with cursor := reader.cursor }

end ImageFile

end RadioLink.Firmware
