import RadioLink.Adapter.Device

/-!
A serial device that follows a script, for running the adapter without hardware.
-/

namespace RadioLink.Simulation

/-- The calls that can be told to fail, without their arguments. -/
inductive DeviceCallKind where
  | openPort | setBaudRate | setDataBits | setStopBits | setParity | setFlowControl | baudRate
  | clone | write | flush | pending | read | clearInput | requestToSend | dataTerminalReady
  | setBreak | clearBreak
  deriving DecidableEq, Repr

namespace DeviceCallKind

def ofCall : DeviceCall → DeviceCallKind
  | .openPort _ _ _ _ => openPort
  | .setBaudRate _ => setBaudRate
  | .setDataBits _ => setDataBits
  | .setStopBits _ => setStopBits
  | .setParity _ => setParity
  | .setFlowControl _ => setFlowControl
  | .baudRate => baudRate
  | .clone => clone
  | .write _ => write
  | .flush => flush
  | .pending => pending
  | .read _ => read
  | .clearInput => clearInput
  | .requestToSend _ => requestToSend
  | .dataTerminalReady _ => dataTerminalReady
  | .setBreak => setBreak
  | .clearBreak => clearBreak

def name : DeviceCallKind → String
  | openPort => "open"
  | setBaudRate => "set_baud_rate"
  | setDataBits => "set_data_bits"
  | setStopBits => "set_stop_bits"
  | setParity => "set_parity"
  | setFlowControl => "set_flow_control"
  | baudRate => "baud_rate"
  | clone => "try_clone"
  | write => "write"
  | flush => "flush"
  | pending => "pending"
  | read => "read"
  | clearInput => "clear"
  | requestToSend => "rts"
  | dataTerminalReady => "dtr"
  | setBreak => "set_break"
  | clearBreak => "clear_break"

def all : List DeviceCallKind :=
  [openPort, setBaudRate, setDataBits, setStopBits, setParity, setFlowControl, baudRate, clone, write,
    flush, pending, read, clearInput, requestToSend, dataTerminalReady, setBreak, clearBreak]

def ofName? (name : String) : Option DeviceCallKind := all.find? fun kind => kind.name = name

end DeviceCallKind

structure Device where
  /-- Bytes that wait to be read. -/
  waiting : Bytes := []
  name : Option String := none
  /-- A baud rate that the device reports whatever it was set to. -/
  stuckRate : Option UInt32 := none
  rate : UInt32 := 0
  format : LineFormat := {}
  readTimesOut : Bool := false
  /-- For a kind of call, how many more of it succeed before all fail. -/
  failures : List (DeviceCallKind × Nat) := []
  deriving DecidableEq, Repr, Inhabited

namespace Device

def gone : DeviceFault := ⟨.noDevice, "device gone"⟩

/-- Lets `after` more calls of a kind succeed, and then none. -/
def failAfter (device : Device) (kind : DeviceCallKind) (after : Nat) : Device :=
  { device with
    failures := (kind, after) :: device.failures.filter fun entry => entry.1 ≠ kind }

/-- Whether a call of a kind goes wrong now, and the device after that call. -/
def takeChance (device : Device) (kind : DeviceCallKind) : Bool × Device :=
  match device.failures.lookup kind with
  | none => (false, device)
  | some 0 => (true, device)
  | some (left + 1) => (false, device.failAfter kind left)

/-- A call that succeeds. -/
def carryOut (device : Device) : (call : DeviceCall) → call.Reply × Device
  | .openPort _ rate format _ => ((), { device with rate, format })
  | .setBaudRate rate => ((), { device with rate })
  | .setDataBits value => ((), { device with format := { device.format with dataBits := value } })
  | .setStopBits value => ((), { device with format := { device.format with stopBits := value } })
  | .setParity value => ((), { device with format := { device.format with parity := value } })
  | .setFlowControl value =>
    ((), { device with format := { device.format with flowControl := value } })
  | .baudRate => (device.stuckRate.getD device.rate, device)
  | .pending => (device.waiting.length, device)
  | .read room =>
    if device.readTimesOut then (none, device)
    else (some (device.waiting.take room), { device with waiting := device.waiting.drop room })
  | .clearInput => ((), { device with waiting := [] })
  | .clone | .write _ | .flush | .requestToSend _ | .dataTerminalReady _ | .setBreak
  | .clearBreak => ((), device)

instance : SerialDevice Device where
  perform device call :=
    match device.takeChance (.ofCall call) with
    | (true, device) => (.error gone, device)
    | (false, device) =>
      let (reply, device) := device.carryOut call
      (.ok reply, device)
  name := Device.name
  format := Device.format

end Device

end RadioLink.Simulation
