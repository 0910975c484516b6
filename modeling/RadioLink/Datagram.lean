import RadioLink.Checksum
import RadioLink.Log
import RadioLink.Message.DatagramHeader
import RadioLink.Transport

/-!
Datagrams and their reassembly. The co-processor announces a datagram with a header message and
then sends its bytes in pieces of at most one frame each; one datagram is under way at a time. The
host sends its own datagrams the same way, and every frame waits for the far side to become ready.
-/

namespace RadioLink

structure Datagram where
  localPort : UInt16
  remotePort : UInt16
  remoteAddr : Address
  data : Bytes
  deriving DecidableEq, Repr

/-- The largest datagram accepted. -/
def Datagram.maxLength : Nat := 576

/-- A datagram of which some bytes are still to come. -/
structure Reassembly where
  header : Message.DatagramHeader
  /-- The check of the bytes received so far. -/
  crc : UInt16 := Crc.start
  buffer : Bytes := []
  deriving DecidableEq, Repr

/-- All fields by name. -/
def Reassembly.describe (context : Reassembly) : String :=
  s!"Reassembly \x7b header: {context.header.describe}, crc: Crc16({context.crc.toNat}), " ++
    "buffer: " ++ Text.decimalList context.buffer ++ " \x7d"

/-- The buffer has room for the largest datagram and takes a piece whole or not at all; the check
goes over the piece in any case. -/
def Reassembly.extend (context : Reassembly) (chunk : Bytes) : Reassembly :=
  { context with
    crc := Crc.update context.crc chunk
    buffer :=
      if Datagram.maxLength < context.buffer.length + chunk.length then context.buffer
      else context.buffer ++ chunk }

def Reassembly.datagram (context : Reassembly) : Datagram :=
  { localPort := context.header.localPort
    remotePort := context.header.remotePort
    remoteAddr := context.header.addr
    data := context.buffer }

/-- The receiving side: the datagram under way, if there is one. -/
structure Reassembler where
  pending : Option Reassembly := none
  deriving DecidableEq, Repr, Inhabited

namespace Reassembler

def isPending (receiver : Reassembler) : Bool := receiver.pending.isSome

/-- What is said about a datagram that is given up for a new one. -/
def dropped (receiver : Reassembler) : List Notice :=
  match receiver.pending with
  | some stale =>
    [.partialDropped stale.header.localPort stale.buffer.length stale.header.len.toNat]
  | none => []

/-- A datagram is announced. If its port is busy the announcement is refused and nothing changes;
otherwise a datagram still under way is given up. -/
def onHeader (receiver : Reassembler) (header : Message.DatagramHeader) (busy : Bool) :
    Except DispatchError Unit × Reassembler × List Notice :=
  if busy then (.error (.portBusy header.localPort), receiver, [])
  else
    let total := header.len.toNat
    if total = 0 then (.error .emptyDatagram, {}, receiver.dropped)
    else if Datagram.maxLength < total then (.error (.datagramTooLarge total), {}, receiver.dropped)
    else (.ok (), { pending := some { header } }, receiver.dropped)

/-- A piece of the datagram arrives. The datagram is handed over with its last byte if its check
is right; with its last byte, on overrun and on a wrong check the context is gone. -/
def onData (receiver : Reassembler) (chunk : Bytes) :
    Except DispatchError (Option Datagram) × Reassembler :=
  match receiver.pending with
  | none => (.error .noReassembly, receiver)
  | some context =>
    let total := context.header.len.toNat
    let received := context.buffer.length
    if total < received + chunk.length then
      (.error (.overrun received chunk.length total), {})
    else
      let grown := context.extend chunk
      if grown.buffer.length < total then (.ok none, { pending := some grown })
      else if grown.crc ≠ grown.header.crc then (.error .datagramCrc, {})
      else (.ok (some grown.datagram), {})

def describe (receiver : Reassembler) : String :=
  "UdpReceiver \x7b pending: " ++
    (match receiver.pending with
      | none => "None"
      | some context => "Some(" ++ context.describe ++ ")") ++ " \x7d"

end Reassembler

namespace Datagram

variable {σ : Type}

/-- The announcement of a datagram. -/
def header (datagram : Datagram) : Message.DatagramHeader :=
  { addr := datagram.remoteAddr
    localPort := datagram.localPort
    remotePort := datagram.remotePort
    len := UInt16.ofNat datagram.data.length
    crc := crc16 datagram.data }

variable [Peer σ]

def sendPieces : List Bytes → Action LinkError (Transport σ) Unit
  | [] => pure ()
  | piece :: rest => do
    Transport.sendBlocking Message.datagramDataId piece
    sendPieces rest

def send (datagram : Datagram) : Action NetworkError (Transport σ) Unit := do
  let header := datagram.header
  Action.change (Transport.note ·
    (.datagramSent header.len header.localPort header.addr header.remotePort))
  (Transport.sendBlocking Message.datagramHeaderId header.bytes).mapError .send
  (sendPieces (datagram.data.chunks Frame.maxPayload)).mapError .send

end Datagram

end RadioLink
