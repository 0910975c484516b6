import RadioLink.Error
import RadioLink.Log

/-!
Image containers. A firmware file is the image followed by its digest. A flasher stub is a header
of four words (entry, address of the launch parameter, address of the data, length of the code),
the code, and then the data. What is in a container is read in blocks while it is used; a block is
read whole or not at all.
-/

namespace RadioLink

/-- Bytes that are read in blocks. -/
structure Reader where
  content : Bytes
  /-- What goes wrong with reading a block, if anything does. -/
  fault : (number : Nat) → Option Fault := fun _ => none

namespace Reader

/-- What reading a block gives; `none` is a block that the content is too short for. -/
def read (reader : Reader) (number : Nat) (block : Option Bytes) : Except Fault Bytes :=
  match reader.fault number with
  | some fault => .error fault
  | none => block.elim (.error .shortRead) .ok

/-- What reading `total` bytes in blocks of `size` gives. -/
def blocks (reader : Reader) (size total : Nat) : List (Except Fault Bytes) :=
  (reader.content.blocks size total).mapIdx reader.read

end Reader

namespace Firmware

/-- What a provisioning cycle reads from a firmware file. -/
inductive Reading where
  | digest
  /-- Going back to the start of the payload. -/
  | rewind
  /-- One block of the payload. -/
  | block (number : Nat)
  deriving DecidableEq, Repr

/-- A firmware image with the digest that its file carries. The file is read while it is used, and
each reading may fail. -/
structure Image where
  payload : Bytes
  digest : Digest
  /-- What goes wrong with a reading, if anything does. -/
  fault : Reading → Option Fault := fun _ => none

namespace Image

/-- What a reading gives. -/
def read {α : Type} (image : Image) (reading : Reading) (content : α) : Except Fault α :=
  match image.fault reading with
  | some fault => .error fault
  | none => .ok content

def readDigest (image : Image) : Except Fault Digest := image.read .digest image.digest

def rewind (image : Image) : Except Fault Unit := image.read .rewind ()

/-- Reads the payload. -/
def reader (image : Image) : Reader where
  content := image.payload
  fault number := image.fault (.block number)

/-- What reading `total` bytes of payload in blocks of `size` gives. -/
def readBlocks (image : Image) (size total : Nat) : List (Except Fault Bytes) :=
  image.reader.blocks size total

def digestLength : Nat := 16

def ofFile (file : Bytes) : Except ProvisionError Image :=
  let (payload, digest) := file.splitAt (file.length - digestLength)
  match Octets.ofBytes? 16 digest with
  | some digest => .ok { payload, digest }
  | none => .error .imageTooShort

end Image

structure Stub where
  entry : UInt32
  /-- Where the launch parameter goes; the code follows it. -/
  paramsStart : UInt32
  dataStart : UInt32
  code : Bytes
  data : Bytes
  deriving DecidableEq, Repr

namespace Stub

def headerLength : Nat := 16

def parse (file : Bytes) : Except ProvisionError Stub :=
  if file.length < headerLength then .error (.invalidStub .truncatedHeader)
  else
    let codeLength := (file.uint32At 12).toNat
    let rest := file.drop headerLength
    if codeLength = 0 ∨ rest.length < codeLength then .error (.invalidStub .badCodeLength)
    else
      .ok { entry := file.uint32At 0
            paramsStart := file.uint32At 4
            dataStart := file.uint32At 8
            code := rest.take codeLength
            data := rest.drop codeLength }

/-- The container of a stub. -/
def bytes (stub : Stub) : Bytes :=
  Bytes.ofUInt32 stub.entry ++ Bytes.ofUInt32 stub.paramsStart ++ Bytes.ofUInt32 stub.dataStart ++
    Bytes.ofNat 4 stub.code.length ++ stub.code ++ stub.data

end Stub

/-- A file that could be opened: what reading it gives. -/
abbrev OpenFile := Except Fault Bytes

/-- What a source offers when a provisioning cycle asks for images. -/
structure Offer where
  /-- The firmware file, `none` when there is none to offer. -/
  firmware : Except Fault (Option OpenFile) := .ok none
  stub : Except ProvisionError (Option Stub) := .ok none
  /-- What looking for the firmware file told. -/
  notices : List Notice := []
  /-- What goes wrong with a reading of the firmware file later in the cycle, if anything does. -/
  fault : Reading → Option Fault := fun _ => none

/-- Where images come from. The offer may differ from one provisioning cycle to the next, since
files change. -/
structure Source where
  offer : (cycle : Nat) → Offer

namespace Source

/-- The same images in every cycle. -/
def fixed (firmware : Option Bytes) (stub : Option Stub) : Source :=
  ⟨fun _ => { firmware := .ok (firmware.map .ok), stub := .ok stub }⟩

end Source

/-- How opening a file can go wrong. -/
inductive FileError where
  | notFound
  | other (fault : Fault)
  deriving DecidableEq, Repr

def FileError.fault : FileError → Fault
  | notFound => Fault.noSuchFile
  | other fault => fault

/-- Opens the files of a system, by path. -/
abbrev Files := String → Except FileError OpenFile

namespace Files

/-- The firmware file at a path. A file that does not exist is no error. -/
def firmware (files : Files) : Option String → Except Fault (Option OpenFile) × List Notice
  | none => (.ok none, [])
  | some path =>
    match files path with
    | .ok file => (.ok (some file), [])
    | .error .notFound => (.ok none, [.fileNotFound path])
    | .error (.other fault) => (.error fault, [])

/-- The flasher stub at a path. -/
def stub (files : Files) : Option String → Except ProvisionError (Option Stub)
  | none => .ok none
  | some path =>
    match files path with
    | .ok (.ok bytes) => (Stub.parse bytes).map some
    | .ok (.error fault) => .error (.io fault)
    | .error error => .error (.io error.fault)

/-- The images at two paths, as the files are in one cycle. -/
def offer (files : Files) (firmwarePath stubPath : Option String) : Offer :=
  let (firmware, notices) := files.firmware firmwarePath
  { firmware, stub := files.stub stubPath, notices }

end Files

/-- Images read from files in every cycle. -/
def Source.ofFiles (files : (cycle : Nat) → Files) (firmwarePath stubPath : Option String) :
    Source :=
  ⟨fun cycle => (files cycle).offer firmwarePath stubPath⟩

end Firmware

end RadioLink
