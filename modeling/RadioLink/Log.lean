import RadioLink.Error
import RadioLink.Loader.Response
import RadioLink.Settings
import RadioLink.Verdict

/-!
The log. A notice is what happened; its level and its wording are functions of it.
-/

namespace RadioLink

inductive Level where
  | error | warn | info | debug | trace
  deriving DecidableEq, Repr

namespace Level

/-- Zero for the most severe level. -/
def rank : Level → Nat
  | error => 0
  | warn => 1
  | info => 2
  | debug => 3
  | trace => 4

/-- Whether records of this level are kept by a log that keeps everything down to `threshold`. -/
def keptAt (level threshold : Level) : Bool := level.rank ≤ threshold.rank

def name : Level → String
  | error => "error"
  | warn => "warn"
  | info => "info"
  | debug => "debug"
  | trace => "trace"

def all : List Level := [error, warn, info, debug, trace]

def ofName? (name : String) : Option Level := all.find? fun level => level.name = name

end Level

/-- The states of the lifecycle, as far as the log names them. -/
inductive StageName where
  | bootRom | bootApp | alive | error | shutdown
  deriving DecidableEq, Repr

def StageName.text : StageName → String
  | bootRom => "BootRom"
  | bootApp => "BootApp"
  | alive => "Alive"
  | error => "Error"
  | shutdown => "Shutdown"

inductive Notice where
  -- frames
  | notReady (dataId : UInt8)
  | frameSent (bytes : Bytes)
  | frameReceived (bytes : Bytes)
  | sendFailed (dataId : UInt8) (error : LinkError)
  | badFrame
  -- packets of the boot loader
  | packetSent (bytes : Bytes)
  | packetReceived (length : Nat)
  -- boot loader, flasher and provisioning
  | loaderInSync (attempt : Nat)
  | loaderAnswered (response : Loader.Response)
  | loadingStub (code data : Nat)
  | stubUp
  | unexpectedPacket (bytes : Bytes)
  | noBlockAck (written : Nat)
  | decided (verdict : Verdict)
  | firmwareValid
  | fileDigestMismatch
  | digestRestored
  | digestsDisagree
  | loadingFirmware (length : Nat)
  | flashLoadDone
  | fileNotFound (path : String)
  | noStub
  -- reception
  | receiveFailed (error : LinkError)
  | receiveTimeout
  | frameRejected (error : LinkError)
  | unexpectedControl (byte : UInt8)
  | dispatchFailed (dataId : UInt8) (error : DispatchError)
  | dispatching (dataId : UInt8) (length : Nat)
  | statusChanged (flags : UInt8)
  | deviceIdChanged (id : UInt64)
  | datagramReceived (length : Nat) (remote : Address) (remotePort localPort : UInt16)
  | partialDropped (port : UInt16) (received total : Nat)
  -- network
  | datagramSent (length : UInt16) (localPort : UInt16) (remote : Address) (remotePort : UInt16)
  | portTableFull (port : UInt16)
  | connecting (ssid : String)
  | connectFailed (error : LinkError)
  | accessPointDisabled (error : NetworkError)
  | startingAccessPoint (ssid : String)
  | accessPointFailed (error : LinkError)
  | accessPointUp
  | connected
  | disconnected
  | portsPushFailed (error : LinkError)
  | joinTimedOut (slot : Nat)
  -- programs
  | resettingVm (vm : UInt32)
  | loadingVm (vm : UInt32) (size : UInt16)
  -- lifecycle
  | entered (stage : StageName)
  | imageNotFound
  | firmwareUpdated
  | provisioningFailed (attempts tries : Nat) (error : ProvisionError)
  | runningFlash
  | loaderGaveUp
  | noResetAnswer
  | bootFailed (error : LinkError)
  | linkLost (error : LinkError)
  | holdFailed (error : LinkError)
  | parkFailed (error : LinkError)
  -- serial adapter
  | openingPort (attempt : Nat)
  | openFailed (tries : Nat) (fault : Fault)
  | portOpened (name : String) (baudRate : UInt32)
  | portDataBits (value : DataBits)
  | portStopBits (value : StopBits)
  | portParity (value : Parity)
  | portFlowControl (value : FlowControl)
  | portBaudRate (baudRate : UInt32)
  | readyEdge
  | watcherStopped (fault : Fault)
  | listingFailed (fault : Fault)
  -- program
  | exitStatus (status : Nat)
  deriving DecidableEq, Repr

namespace Notice

open Text

def level : Notice → Level
  | frameSent _ | frameReceived _ | packetSent _ | packetReceived _ | loaderAnswered _
  | unexpectedPacket _ | noBlockAck _ | dispatching _ _ | readyEdge => .trace
  | notReady _ | sendFailed _ _ | badFrame | loaderInSync _ | stubUp | decided _ | fileNotFound _
  | receiveTimeout | frameRejected _ | unexpectedControl _ | dispatchFailed _ _ | statusChanged _
  | datagramReceived _ _ _ _ | datagramSent _ _ _ _ | connectFailed _ | accessPointFailed _
  | portsPushFailed _ | joinTimedOut _ | resettingVm _ | holdFailed _ | openingPort _
  | portDataBits _ | portStopBits _ | portParity _ | portFlowControl _ | portBaudRate _
  | watcherStopped _ | exitStatus _ => .debug
  | loadingStub _ _ | firmwareValid | loadingFirmware _ | flashLoadDone | deviceIdChanged _
  | portTableFull _ | connecting _ | startingAccessPoint _ | accessPointUp | connected
  | disconnected | loadingVm _ _ | entered _ | firmwareUpdated | openFailed _ _ | portOpened _ _
  | listingFailed _ => .info
  | fileDigestMismatch | digestRestored | digestsDisagree | noStub | receiveFailed _
  | partialDropped _ _ _ | accessPointDisabled _ | imageNotFound | provisioningFailed _ _ _
  | runningFlash | noResetAnswer | bootFailed _ => .warn
  | loaderGaveUp | linkLost _ | parkFailed _ => .error

def text : Notice → String
  | notReady dataId => "rx not ready! " ++ tagged dataId
  | frameSent bytes => "tx frame:\n" ++ dump bytes
  | frameReceived bytes => "rx frame:\n" ++ dump bytes
  | sendFailed dataId error => "send " ++ tagged dataId ++ " failed: " ++ error.message
  | badFrame => "Wifi crc error"
  | packetSent bytes => "slip tx:\n" ++ dump bytes
  | packetReceived length => s!"slip rx {length} bytes"
  | loaderInSync attempt => s!"ROM loader in sync after {attempt} attempt(s)"
  | loaderAnswered response => "rom response " ++ response.describe
  | loadingStub code data => s!"Loading flasher stub: {code} code + {data} data bytes"
  | stubUp => "flasher stub is up"
  | unexpectedPacket bytes => "unexpected stub frame " ++ hexList bytes
  | noBlockAck written => s!"no block ack at {written}"
  | decided verdict => "reconciliation: " ++ verdict.name
  | firmwareValid => "Wifi firmware image valid"
  | fileDigestMismatch => "Wifi firmware file digest mismatch, possible bad file load"
  | digestRestored => "Wifi firmware digest restored from file"
  | digestsDisagree => "Wifi firmware digests disagree, trying to run anyway"
  | loadingFirmware length => s!"Loading wifi firmware: {length} bytes"
  | flashLoadDone => "Wifi flash load done"
  | fileNotFound path => path ++ " not found"
  | noStub => "no flasher stub, cannot check the firmware"
  | receiveFailed error => "receive failed: " ++ error.message
  | receiveTimeout => "Wifi rx timeout"
  | frameRejected error => "frame rejected: " ++ error.message
  | unexpectedControl byte => "unexpected control byte " ++ tagged byte
  | dispatchFailed dataId error => "dispatch " ++ tagged dataId ++ ": " ++ error.message
  | dispatching dataId length => "dispatch " ++ tagged dataId ++ s!" ({length} bytes)"
  | statusChanged flags => "wifi status " ++ tagged flags
  | deviceIdChanged id => "device id " ++ hex 12 id.toNat
  | datagramReceived length remote remotePort localPort =>
    s!"udp {length} bytes " ++ remote.text ++ s!":{remotePort.toNat} -> {localPort.toNat}"
  | partialDropped port received total =>
    s!"dropping partial datagram for port {port.toNat}: {received} of {total} bytes"
  | datagramSent length localPort remote remotePort =>
    s!"udp tx {length.toNat} bytes {localPort.toNat} -> " ++ remote.text ++ s!":{remotePort.toNat}"
  | portTableFull port => s!"port table full, {port.toNat} not forwarded"
  | connecting ssid => "Connecting to: " ++ ssid
  | connectFailed error => "connect request failed: " ++ error.message
  | accessPointDisabled error => error.message ++ ", AP mode disabled"
  | startingAccessPoint ssid => "Starting AP: " ++ ssid
  | accessPointFailed error => "AP request failed: " ++ error.message
  | accessPointUp => "Wifi AP up"
  | connected => "Wifi connected"
  | disconnected => "Wifi disconnected"
  | portsPushFailed error => "ports push failed: " ++ error.message
  | joinTimedOut slot => s!"join timed out on slot {slot}"
  | resettingVm vm => s!"reset vm {vm.toNat}"
  | loadingVm vm size => s!"Loading vm {vm.toNat}: {size.toNat} bytes"
  | entered stage => "=> " ++ stage.text
  | imageNotFound => "Wifi firmware image not found, trying to start anyway"
  | firmwareUpdated => "Wifi firmware updated"
  | provisioningFailed attempts tries error =>
    s!"Wifi provisioning failed ({attempts}/{tries}): " ++ error.message
  | runningFlash => "Wifi loader gave up, running the image in flash"
  | loaderGaveUp => "Wifi loader gave up"
  | noResetAnswer => "Wifi did not answer the link reset"
  | bootFailed error => "Wifi boot failed: " ++ error.message
  | linkLost error => "Wifi link lost: " ++ error.message
  | holdFailed error => "hold reset: " ++ error.message
  | parkFailed error => "could not park the co-processor: " ++ error.message
  | openingPort attempt => s!"Trying to connect {attempt}"
  | openFailed tries fault =>
    s!"Failed to open the port after {tries - 1}s and {tries} tries: " ++ fault.text
  | portOpened name baudRate => s!"Connected to {name} at {baudRate.toNat} baud"
  | portDataBits value => "data_bits    : " ++ value.name
  | portStopBits value => "stop_bits    : " ++ value.name
  | portParity value => "parity       : " ++ value.name
  | portFlowControl value => "flow control : " ++ value.name
  | portBaudRate baudRate => s!"baud rate {baudRate.toNat}"
  | readyEdge => "ready edge"
  | watcherStopped fault => "CTS watcher stopped: " ++ fault.text
  | listingFailed fault => "error: " ++ fault.text
  | exitStatus status => s!"exit code: {status}"

end Notice

/-- The records of a log, latest first. -/
structure Log where
  records : List Notice := []
  deriving DecidableEq, Repr, Inhabited

namespace Log

def add (log : Log) (notice : Notice) : Log := ⟨notice :: log.records⟩

/-- The records kept at a threshold, earliest first. -/
def kept (log : Log) (threshold : Level) : List Notice :=
  (log.records.filter fun notice => notice.level.keptAt threshold).reverse

end Log

end RadioLink
