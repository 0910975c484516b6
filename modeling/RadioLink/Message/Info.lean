import RadioLink.Message.Basic

/-!
The INFO message: identity, network addresses and counters of the co-processor, packed into 45
bytes.
-/

namespace RadioLink.Message

structure Info where
  version : UInt16
  mac : Mac
  ip : Address
  subnet : Address
  dns : Address
  rssi : Int8
  fifoOverruns : UInt16
  portOverruns : UInt16
  udpReceived : UInt32
  udpSent : UInt32
  commErrors : UInt16
  heapPeak : UInt16
  interfaceMaxTime : UInt16
  vmMaxTime : UInt16
  wifiMaxTime : UInt16
  memoryMaxTime : UInt16
  deriving DecidableEq, Repr

namespace Info

def length : Nat := 45

def decode (payload : Bytes) : Except DispatchError Info :=
  ofLength infoId length payload
    { version := payload.uint16At 0
      mac := Octets.padded 6 (payload.slice 2 6)
      ip := Address.readAt payload 8
      subnet := Address.readAt payload 12
      dns := Address.readAt payload 16
      rssi := (payload.byteAt 20).toInt8
      fifoOverruns := payload.uint16At 21
      portOverruns := payload.uint16At 23
      udpReceived := payload.uint32At 25
      udpSent := payload.uint32At 29
      commErrors := payload.uint16At 33
      heapPeak := payload.uint16At 35
      interfaceMaxTime := payload.uint16At 37
      vmMaxTime := payload.uint16At 39
      wifiMaxTime := payload.uint16At 41
      memoryMaxTime := payload.uint16At 43 }

/-- The fields in order, packed. -/
def bytes (info : Info) : Bytes :=
  Bytes.ofUInt16 info.version ++ info.mac.bytes ++ info.ip.bytes ++ info.subnet.bytes ++
    info.dns.bytes ++ [info.rssi.toUInt8] ++ Bytes.ofUInt16 info.fifoOverruns ++
    Bytes.ofUInt16 info.portOverruns ++ Bytes.ofUInt32 info.udpReceived ++
    Bytes.ofUInt32 info.udpSent ++ Bytes.ofUInt16 info.commErrors ++
    Bytes.ofUInt16 info.heapPeak ++ Bytes.ofUInt16 info.interfaceMaxTime ++
    Bytes.ofUInt16 info.vmMaxTime ++ Bytes.ofUInt16 info.wifiMaxTime ++
    Bytes.ofUInt16 info.memoryMaxTime

/-- The device number that the hardware address spells. -/
def deviceId (info : Info) : UInt64 := UInt64.ofNat info.mac.bytes.toNat

end Info

end RadioLink.Message
