import RadioLink.Bytes
import RadioLink.Error
import RadioLink.Settings

/-!
Serial devices as the operating system offers them. Any type with a `SerialDevice` instance will
do; the instance decides which calls fail.
-/

namespace RadioLink

/-- How characters travel on the line. -/
structure LineFormat where
  dataBits : DataBits := .eight
  stopBits : StopBits := .one
  parity : Parity := .none
  flowControl : FlowControl := .none
  deriving DecidableEq, Repr, Inhabited

/-- The four choices by name. -/
def LineFormat.describe (format : LineFormat) : String :=
  " ".intercalate
    [format.dataBits.name, format.stopBits.name, format.parity.name, format.flowControl.name]

def Settings.lineFormat (settings : Settings) : LineFormat :=
  { dataBits := settings.dataBits
    stopBits := settings.stopBits
    parity := settings.parity
    flowControl := settings.flowControl }

inductive DeviceCall where
  | openPort (path : String) (baudRate : UInt32) (format : LineFormat) (timeoutMs : Nat)
  | setBaudRate (rate : UInt32)
  | setDataBits (value : DataBits)
  | setStopBits (value : StopBits)
  | setParity (value : Parity)
  | setFlowControl (value : FlowControl)
  | baudRate
  /-- A second handle of the same device. -/
  | clone
  | write (data : Bytes)
  | flush
  /-- How many bytes wait to be read. -/
  | pending
  | read (room : Nat)
  | clearInput
  | requestToSend (asserted : Bool)
  | dataTerminalReady (asserted : Bool)
  | setBreak
  | clearBreak
  deriving DecidableEq, Repr

/-- What a call returns. A read may time out, which is `none`. -/
def DeviceCall.Reply : DeviceCall → Type
  | .baudRate => UInt32
  | .pending => Nat
  | .read _ => Option Bytes
  | _ => Unit

inductive DeviceFaultKind where
  | noDevice
  | invalidInput
  deriving DecidableEq, Repr

def DeviceFaultKind.name : DeviceFaultKind → String
  | noDevice => "NoDevice"
  | invalidInput => "InvalidInput"

structure DeviceFault where
  kind : DeviceFaultKind
  text : String
  deriving DecidableEq, Repr

/-- A device fault as the line reports it. -/
def DeviceFault.fault (fault : DeviceFault) : Fault := ⟨fault.text⟩

class SerialDevice (δ : Type) where
  perform : δ → (call : DeviceCall) → Except DeviceFault call.Reply × δ
  /-- The name of an open device, if it tells one. -/
  name : δ → Option String
  format : δ → LineFormat

end RadioLink
