import RadioLink.Action
import RadioLink.Adapter.Device
import RadioLink.Line

/-!
The line over a USB serial adapter: RTS drives reset, DTR the boot strap, a short break is the
receive-ready strobe, and a falling edge on CTS is the ready edge.
-/

namespace RadioLink

/-- The task that watches CTS. -/
inductive Watcher where
  | running (level : Bool)
  | stopped
  deriving DecidableEq, Repr

inductive DeviceEvent where
  | done (call : DeviceCall)
  | failed (call : DeviceCall)
  deriving DecidableEq, Repr

structure Adapter (δ : Type) where
  device : δ
  ready : ReadySignal := {}
  watcher : Watcher := .stopped
  /-- Calls of the device, latest first. -/
  history : List DeviceEvent := []
  log : Log := {}

namespace Adapter

variable {δ : Type}

def note (adapter : Adapter δ) (notice : Notice) : Adapter δ :=
  { adapter with log := adapter.log.add notice }

/-- Starts a new history. -/
def forget (adapter : Adapter δ) : Adapter δ := { adapter with history := [] }

def setIrq (adapter : Adapter δ) (enabled : Bool) : Adapter δ :=
  { adapter with ready := adapter.ready.setEnabled enabled }

/-- The watcher looks at CTS. A level that cannot be read ends the watch. -/
def sample (adapter : Adapter δ) (reading : Except Fault Bool) : Adapter δ :=
  match adapter.watcher, reading with
  | .stopped, _ => adapter
  | .running _, .error fault => { adapter with watcher := .stopped }.note (.watcherStopped fault)
  | .running last, .ok level =>
    let watched := { adapter with watcher := .running level }
    if last && !level then { watched.note .readyEdge with ready := watched.ready.notify }
    else watched

/-- The watcher looks several times. -/
def samples (adapter : Adapter δ) (readings : List (Except Fault Bool)) : Adapter δ :=
  readings.foldl sample adapter

variable [SerialDevice δ]

def call (c : DeviceCall) : Action DeviceFault (Adapter δ) c.Reply := fun adapter =>
  match SerialDevice.perform adapter.device c with
  | (.ok reply, device) =>
    .ok reply { adapter with device, history := .done c :: adapter.history }
  | (.error fault, device) =>
    .error fault { adapter with device, history := .failed c :: adapter.history }

/-- How long a device may hold up a read, in milliseconds. -/
def readTimeoutMs : Nat := 1

/-- How often opening a device is tried, a second apart. -/
def openAttempts : Nat := 5

/-- Tries to open a device, `left` more times after `made` attempts. -/
def openFrom (path : String) (settings : Settings) (made : Nat) :
    (left : Nat) → Action DeviceFault (Adapter δ) Unit
  | 0 => pure ()
  | left + 1 => do
    Action.change (note · (.openingPort (made + 1)))
    match ← Action.attempt
      (call (.openPort path settings.romBaudRate settings.lineFormat readTimeoutMs)) with
    | .ok () => pure ()
    | .error fault =>
      if left = 0 then
        Action.change (note · (.openFailed (made + 1) fault.fault))
        throw fault
      openFrom path settings (made + 1) left

/-- Opens the device of the settings at the boot loader's baud rate and sets it up. -/
def openDevice (settings : Settings) : Action DeviceFault (Adapter δ) Unit := do
  match settings.path with
  | none => throw ⟨.noDevice, "no serial port selected"⟩
  | some path =>
    openFrom path settings 0 openAttempts
    let rate := settings.romBaudRate
    let _ ← call (.setBaudRate rate)
    let _ ← call (.setDataBits settings.dataBits)
    let _ ← call (.setStopBits settings.stopBits)
    let _ ← call (.setParity settings.parity)
    let _ ← call (.setFlowControl settings.flowControl)
    let actual : UInt32 ← call .baudRate
    let device := (← get).device
    let format := SerialDevice.format device
    Action.change (note · (.portOpened ((SerialDevice.name device).getD path) actual))
    Action.change (note · (.portDataBits format.dataBits))
    Action.change (note · (.portStopBits format.stopBits))
    Action.change (note · (.portParity format.parity))
    Action.change (note · (.portFlowControl format.flowControl))
    if actual ≠ rate then throw ⟨.invalidInput, s!"port refused baud rate {rate.toNat}"⟩

/-- Opens the device and starts watching CTS. -/
def start (settings : Settings) : Action DeviceFault (Adapter δ) Unit := do
  openDevice settings
  let _ ← call .clone
  Action.change fun adapter => { adapter with watcher := .running true }

/-- Carries out a call of the line on the device. -/
def perform : Call → Action DeviceFault (Adapter δ) Unit
  | .write data => do
    if data ≠ [] then
      let _ ← call (.write data)
    let _ ← call .flush
  | .baud rate => do
    Action.change (note · (.portBaudRate rate))
    let _ ← call (.setBaudRate rate)
  | .clear => do
    let _ ← call .clearInput
  | .reset asserted => do
    let _ ← call (.requestToSend asserted)
  | .mode mode => do
    let _ ← call (.dataTerminalReady (mode = .rom))
  | .pulse => do
    let _ ← call .setBreak
    let _ ← call .clearBreak

/-- Takes bytes that wait on the device, at most `room` of them. A read that times out takes none. -/
def read (room : Nat) : Action DeviceFault (Adapter δ) Bytes := do
  let pending : Nat ← call .pending
  if pending = 0 || room = 0 then return []
  let bytes : Option Bytes ← call (.read (min pending room))
  return bytes.getD []

end Adapter

end RadioLink
