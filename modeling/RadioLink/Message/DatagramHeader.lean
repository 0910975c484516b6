import RadioLink.Message.Basic

/-!
The message that announces a datagram. In both directions the local port is the host's.
-/

namespace RadioLink.Message

structure DatagramHeader where
  addr : Address
  localPort : UInt16
  remotePort : UInt16
  len : UInt16
  crc : UInt16
  deriving DecidableEq, Repr

namespace DatagramHeader

def length : Nat := 12

def decode (payload : Bytes) : Except DispatchError DatagramHeader :=
  ofLength datagramHeaderId length payload
    { addr := Address.readAt payload 0
      localPort := payload.uint16At 4
      remotePort := payload.uint16At 6
      len := payload.uint16At 8
      crc := payload.uint16At 10 }

def bytes (header : DatagramHeader) : Bytes :=
  header.addr.bytes ++ Bytes.ofUInt16 header.localPort ++ Bytes.ofUInt16 header.remotePort ++
    Bytes.ofUInt16 header.len ++ Bytes.ofUInt16 header.crc

/-- All fields by name. -/
def describe (header : DatagramHeader) : String :=
  s!"UdpHeaderMsg \x7b addr: {header.addr.text}, lport: {header.localPort.toNat}, " ++
    s!"rport: {header.remotePort.toNat}, len: {header.len.toNat}, crc: {header.crc.toNat} \x7d"

end DatagramHeader

end RadioLink.Message
