import RadioLink.Config
import RadioLink.Log
import RadioLink.Message.Info
import RadioLink.Time

/-!
What the co-processor last reported about itself, and the seconds it has been connected.
-/

namespace RadioLink

structure Telemetry where
  statusFlags : UInt8 := 0
  version : UInt16 := 0
  mac : Mac := Octets.zero 6
  rssi : Int8 := 0
  fifoOverruns : UInt16 := 0
  portOverruns : UInt16 := 0
  udpReceived : UInt32 := 0
  udpSent : UInt32 := 0
  commErrors : UInt16 := 0
  heapPeak : UInt16 := 0
  interfaceMaxTime : UInt16 := 0
  vmMaxTime : UInt16 := 0
  wifiMaxTime : UInt16 := 0
  memoryMaxTime : UInt16 := 0
  freeHeap : UInt16 := 0
  /-- Seconds connected. -/
  uptime : UInt32 := 0
  deriving DecidableEq, Repr

namespace Telemetry

instance : Inhabited Telemetry := ⟨{}⟩

def connectedFlag : UInt8 := 0x01

def accessPointFlag : UInt8 := 0x02

def isConnected (telemetry : Telemetry) : Bool := telemetry.statusFlags &&& connectedFlag ≠ 0

def isAccessPoint (telemetry : Telemetry) : Bool := telemetry.statusFlags &&& accessPointFlag ≠ 0

/-- Copies the counters of an INFO message. -/
def withInfo (telemetry : Telemetry) (info : Message.Info) : Telemetry :=
  { telemetry with
    version := info.version
    mac := info.mac
    rssi := info.rssi
    fifoOverruns := info.fifoOverruns
    portOverruns := info.portOverruns
    udpReceived := info.udpReceived
    udpSent := info.udpSent
    commErrors := info.commErrors
    heapPeak := info.heapPeak
    interfaceMaxTime := info.interfaceMaxTime
    vmMaxTime := info.vmMaxTime
    wifiMaxTime := info.wifiMaxTime
    memoryMaxTime := info.memoryMaxTime }

end Telemetry

/-- Counts the seconds of a connection. -/
structure Uptime where
  tick : Alarm := {}
  deriving DecidableEq, Repr, Inhabited

namespace Uptime

def second : Micros := 1000000

/-- Looks at the clock. A second is counted when its alarm has gone off, and the next one starts
from this look, so uptime never runs ahead of the clock. -/
def poll (uptime : Uptime) (now : Micros) (telemetry : Telemetry) : Uptime × Telemetry :=
  if !telemetry.isConnected then ({ tick := .off }, { telemetry with uptime := 0 })
  else if !uptime.tick.isArmed then ({ tick := .due now second }, telemetry)
  else if uptime.tick.expired now then
    ({ tick := .due now second }, { telemetry with uptime := telemetry.uptime + 1 })
  else (uptime, telemetry)

end Uptime

end RadioLink
