import RadioLink.Text

/-!
What can go wrong, grouped by the layer that notices it. Transport and dispatch errors concern one
frame or datagram; provisioning errors feed the retry policy of the lifecycle. The wording of each
cause is its `message`; its `name` is the cause without details.
-/

namespace RadioLink

/-- A device or file operation failed; the text comes from outside. -/
structure Fault where
  text : String
  deriving DecidableEq, Repr, Inhabited

/-- A source ended before the bytes asked for were read. -/
def Fault.shortRead : Fault := ⟨"failed to fill whole buffer"⟩

def Fault.noSuchFile : Fault := ⟨"No such file or directory (os error 2)"⟩

/-- A path goes on below a file. -/
def Fault.notADirectory : Fault := ⟨"Not a directory (os error 20)"⟩

/-- A directory was read like a file. -/
def Fault.isADirectory : Fault := ⟨"Is a directory (os error 21)"⟩

def Fault.nameTooLong : Fault := ⟨"File name too long (os error 36)"⟩

def Fault.zeroInPath : Fault := ⟨"file name contained an unexpected NUL byte"⟩

/-- Errors of the framed transport. -/
inductive LinkError where
  /-- The far side has not signalled that it can take a frame. -/
  | notReady
  /-- The far side did not become ready in time. -/
  | timeout
  /-- The far side was ready and the frame could not be sent. -/
  | sendFailed
  /-- The request went out and no complete answer arrived in time. -/
  | responseTimeout
  | crcMismatch (expected computed : UInt16)
  | payloadTooLarge (length : Nat)
  | truncated (needed got : Nat)
  | io (fault : Fault)
  deriving DecidableEq, Repr

/-- Errors of the escape-coded packets that the boot loader speaks. -/
inductive SlipError where
  | invalidEscape (byte : UInt8)
  | overflow
  deriving DecidableEq, Repr

/-- What is wrong with a flasher stub. -/
inductive StubDefect where
  | truncatedHeader
  | badCodeLength
  /-- A source of images refuses a stub for a reason of its own. -/
  | other (reason : String)
  deriving DecidableEq, Repr

/-- Errors met while provisioning the firmware. -/
inductive ProvisionError where
  | syncTimeout (attempts : Nat)
  | responseTimeout (op : UInt8)
  | commandRejected (op status error : UInt8)
  | malformedResponse (length : Nat)
  | slip (error : SlipError)
  | stubNotReady
  | invalidStub (defect : StubDefect)
  | flashWriteRejected
  | digestUnavailable
  | digestMismatch
  | imageLengthMismatch (file config : Nat)
  | imageTooShort
  | link (error : LinkError)
  | io (fault : Fault)
  deriving DecidableEq, Repr

/-- Errors of an inbound frame or datagram. -/
inductive DispatchError where
  | notAlive
  | lengthMismatch (dataId : UInt8) (expected got : Nat)
  | unknownType (dataId : UInt8)
  | portBusy (port : UInt16)
  | datagramTooLarge (length : Nat)
  | noReassembly
  | overrun (received chunk total : Nat)
  | datagramCrc
  | emptyDatagram
  deriving DecidableEq, Repr

/-- Errors of joining a network and of sending datagrams. -/
inductive NetworkError where
  | notConnected
  | apPasswordTooShort (length : Nat)
  | send (error : LinkError)
  deriving DecidableEq, Repr

/-- Any error of the library. -/
inductive Error where
  | link (error : LinkError)
  | provision (error : ProvisionError)
  | dispatch (error : DispatchError)
  | network (error : NetworkError)
  | io (fault : Fault)
  deriving DecidableEq, Repr

open Text

/-- The cause alone, without its details. -/
def LinkError.name : LinkError → String
  | notReady => "NotReady"
  | timeout => "Timeout"
  | sendFailed => "SendFailed"
  | responseTimeout => "ResponseTimeout"
  | crcMismatch _ _ => "CrcMismatch"
  | payloadTooLarge _ => "PayloadTooLarge"
  | truncated _ _ => "Truncated"
  | io _ => "Io"

def SlipError.name : SlipError → String
  | invalidEscape _ => "InvalidEscape"
  | overflow => "Overflow"

def ProvisionError.name : ProvisionError → String
  | syncTimeout _ => "SyncTimeout"
  | responseTimeout _ => "ResponseTimeout"
  | commandRejected _ _ _ => "CommandRejected"
  | malformedResponse _ => "MalformedResponse"
  | slip _ => "Slip"
  | stubNotReady => "StubNotReady"
  | invalidStub _ => "InvalidStub"
  | flashWriteRejected => "FlashWriteRejected"
  | digestUnavailable => "DigestUnavailable"
  | digestMismatch => "DigestMismatch"
  | imageLengthMismatch _ _ => "ImageLengthMismatch"
  | imageTooShort => "ImageTooShort"
  | link _ => "Link"
  | io _ => "Io"

def DispatchError.name : DispatchError → String
  | notAlive => "NotAlive"
  | lengthMismatch _ _ _ => "LengthMismatch"
  | unknownType _ => "UnknownType"
  | portBusy _ => "PortBusy"
  | datagramTooLarge _ => "DatagramTooLarge"
  | noReassembly => "NoReassembly"
  | overrun _ _ _ => "Overrun"
  | datagramCrc => "DatagramCrc"
  | emptyDatagram => "EmptyDatagram"

def NetworkError.name : NetworkError → String
  | notConnected => "NotConnected"
  | apPasswordTooShort _ => "ApPasswordTooShort"
  | send _ => "Send"

/-- The layer that an error comes from. -/
def Error.name : Error → String
  | link _ => "Link"
  | provision _ => "Provision"
  | dispatch _ => "Dispatch"
  | network _ => "Network"
  | io _ => "Io"

def LinkError.message : LinkError → String
  | notReady => "peer is not ready to receive"
  | timeout => "timed out waiting for the peer to become ready"
  | sendFailed => "frame could not be sent"
  | responseTimeout => "timed out waiting for a response frame"
  | crcMismatch expected computed =>
    "frame CRC mismatch: header says " ++ taggedWord expected ++ ", computed " ++ taggedWord computed
  | payloadTooLarge length => s!"payload of {length} bytes exceeds the frame limit"
  | truncated needed got => s!"frame truncated: need {needed} bytes, got {got}"
  | io fault => "serial IO error: " ++ fault.text

def SlipError.message : SlipError → String
  | invalidEscape byte => "invalid escape sequence " ++ tagged byte
  | overflow => "frame does not fit in the receive buffer"

def StubDefect.message : StubDefect → String
  | truncatedHeader => "truncated header"
  | badCodeLength => "bad code length"
  | other reason => reason

def ProvisionError.message : ProvisionError → String
  | syncTimeout attempts => s!"ROM loader did not answer SYNC after {attempts} attempts"
  | responseTimeout op => "no response to loader command " ++ tagged op
  | commandRejected op status error =>
    "loader rejected command " ++ tagged op ++ " with status " ++ tagged status ++ "/" ++ tagged error
  | malformedResponse length => s!"malformed loader response ({length} bytes)"
  | slip error => "SLIP framing error: " ++ error.message
  | stubNotReady => "flasher stub did not send its greeting"
  | invalidStub defect => "invalid stub image: " ++ defect.message
  | flashWriteRejected => "flasher stub rejected the flash write"
  | digestUnavailable => "flasher stub did not return a digest"
  | digestMismatch => "flash digest does not match the image after writing"
  | imageLengthMismatch file config =>
    s!"image is {file} bytes but the configuration expects {config}"
  | imageTooShort => "image file is too short to carry a digest"
  | link error => "link error: " ++ error.message
  | io fault => "IO error: " ++ fault.text

def DispatchError.message : DispatchError → String
  | notAlive => "link is not alive, frame dropped"
  | lengthMismatch dataId expected got =>
    "message " ++ tagged dataId ++ s!" is {got} bytes, expected {expected}"
  | unknownType dataId => "no handler for message " ++ tagged dataId
  | portBusy port => s!"UDP port {port.toNat} is busy"
  | datagramTooLarge length => s!"UDP datagram of {length} bytes is too large"
  | noReassembly => "UDP data without a pending header"
  | overrun received chunk total =>
    s!"UDP data overruns the datagram: {received} + {chunk} > {total}"
  | datagramCrc => "UDP datagram CRC mismatch"
  | emptyDatagram => "empty UDP datagram"

def NetworkError.message : NetworkError → String
  | notConnected => "not connected"
  | apPasswordTooShort length => s!"AP password must be at least {length} characters"
  | send error => "failed to send datagram: " ++ error.message

def Error.message : Error → String
  | link error => "transport error: " ++ error.message
  | provision error => "provisioning error: " ++ error.message
  | dispatch error => "dispatch error: " ++ error.message
  | network error => "network error: " ++ error.message
  | io fault => "IO error: " ++ fault.text

end RadioLink
