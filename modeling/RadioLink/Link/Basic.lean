import RadioLink.Association
import RadioLink.Dispatcher
import RadioLink.Provisioning

/-!
The link to the co-processor: the transport and everything that hangs off it. Booting, provisioning
and the operations that a user of a live link has are here, those on the programs of the co-processor
included; reception is in its own module.
-/

namespace RadioLink

structure Link (σ : Type) extends Association σ where
  settings : Settings := {}
  state : LinkState := .booting
  images : Firmware.Source
  /-- Provisioning cycles begun so far. -/
  cycles : Nat := 0
  /-- The verdict of the latest cycle that got as far as comparing digests. -/
  verdict : Option Verdict := none
  sink : Option Sink := none
  /-- Frames handed to the dispatcher, latest first. -/
  dispatched : List Frame := []
  /-- Calls of the registered handler, latest first. -/
  handled : List HandlerCall := []
  telemetry : Telemetry := {}
  dispatcher : Dispatcher := {}
  uptime : Uptime := {}
  /-- Runs while a frame is incomplete. -/
  rxAlarm : Alarm := {}

namespace Link

variable {σ ε α : Type}

/-- A new link over a line. -/
def start (line : Line σ) (settings : Settings) (config : Config) (images : Firmware.Source)
    (sink : Option Sink) : Link σ :=
  { transport := { line, timeout := settings.transportTimeout }
    store := { config }
    settings, images, sink }

def line (link : Link σ) : Line σ := link.transport.line

def note (link : Link σ) (notice : Notice) : Link σ :=
  { link with transport := link.transport.note notice }

/-- Runs an operation of the transport. -/
def onTransport (action : Action ε (Transport σ) α) : Action ε (Link σ) α :=
  action.within (fun link => link.transport) fun transport link => { link with transport }

def onLine (f : Line σ → Line σ) (link : Link σ) : Link σ :=
  { link with transport := link.transport.onLine f }

def setState (link : Link σ) (state : LinkState) : Link σ := { link with state }

/-- Forgets what has been recorded so far and keeps its effect. -/
def forget (link : Link σ) : Link σ :=
  { link.onLine Line.forget with
    store := link.store.forget
    sink := link.sink.map Sink.forget
    dispatched := []
    handled := [] }

/-- Installs the handler of messages that the link does not consume itself. -/
def register (link : Link σ) (handler : Nat) : Link σ :=
  { link with dispatcher := link.dispatcher.register handler }

/-- Forgets what was learned in the previous session of the application firmware. -/
def resetSession (link : Link σ) : Link σ :=
  { link with
    telemetry := {}
    dispatcher := link.dispatcher.reset
    manager := link.manager.restart
    rxAlarm := .off }

/-- Our address and subnet mask, once connected. -/
def route (link : Link σ) : Option (Address × Address) :=
  if link.telemetry.isConnected then some (link.store.config.ip, link.store.config.subnet) else none

/-- The number of the UDP protocol. -/
def udpProtocol : UInt8 := 17

/-- Opens or closes a port of the socket layer. Only UDP is forwarded, other protocols are ignored,
and a port that finds the table full is only mentioned in the log. -/
def setPort (link : Link σ) (protocol : UInt8) (port : UInt16) (wanted : Bool) : Link σ :=
  if protocol ≠ udpProtocol then link
  else if !wanted then { link with ports := link.ports.closePort port }
  else
    match link.ports.openPort port with
    | (true, ports) => { link with ports }
    | (false, ports) => { link with ports }.note (.portTableFull port)

variable [Peer σ]

/-- Reset is held this long with the boot strap set before it is released. -/
def resetSettleMs : Nat := 20
def romBootMs : Nat := 60
def applicationResetMs : Nat := 20

/-- The application firmware needs this long before it answers a link reset. -/
def applicationBootMs : Nat := 300

def handshakeTimeout : Micros := 100000

def delayMs (link : Link σ) (ms : Nat) : Link σ := link.onLine (·.delayMs ms)

def device (action : Action Fault (Line σ) α) : Action LinkError (Link σ) α :=
  onTransport (Transport.device action)

/-- Resets the co-processor into a boot mode and switches to the baud rate of that mode. The ready
edge stays masked. -/
def enterMode (mode : BootMode) : Action LinkError (Link σ) Unit := do
  let settings := (← get).settings
  let (bootMs, rate) :=
    match mode with
    | .rom => (romBootMs, settings.romBaudRate)
    | .application => (applicationResetMs, settings.baudRate)
  Action.change (onLine (·.setIrq false))
  device (Line.call (.reset true))
  device (Line.call (.mode mode))
  Action.change (delayMs · resetSettleMs)
  device (Line.call (.reset false))
  Action.change (delayMs · bootMs)
  device (Line.call (.baud rate))
  onTransport Transport.resetReceived

/-- Waits for the application firmware to come up and resets the link. `true` when the far side
acknowledged with a ready edge; then the receiver is armed for its first frame. -/
def handshake : Action LinkError (Link σ) Bool := do
  Action.change (onLine Line.clearReady)
  Action.change (delayMs · applicationBootMs)
  Action.change (onLine (·.setIrq true))
  onTransport Transport.resetLink
  let acknowledged ← onTransport (Action.total (·.awaitReady handshakeTimeout))
  if acknowledged then onTransport Transport.armReceiver
  pure acknowledged

/-- Holds the co-processor in reset with the ready edge masked. -/
def holdReset : Action LinkError (Link σ) Unit := do
  Action.change (onLine (·.setIrq false))
  device (Line.call (.reset true))

/-- Runs a provisioning cycle on the line. -/
def runProvisioning (image : Firmware.Image) (stub : Firmware.Stub) :
    Action ProvisionError (Link σ) Provisioning.Outcome := do
  let settings := (← get).settings
  (Provisioning.run settings image stub).within
    (fun link => { port := { line := link.transport.line }, store := link.store,
                   verdict := link.verdict })
    fun bench link =>
      { link with
        transport := { link.transport with line := bench.port.line }
        store := bench.store
        verdict := bench.verdict }

/-- Resets into the boot loader and runs a provisioning cycle. `none` when there is nothing to
provision with; the co-processor is then left alone. -/
def provision : Action ProvisionError (Link σ) (Option Provisioning.Outcome) := do
  let offer := (← get).images.offer (← get).cycles
  Action.change fun link => { link with cycles := link.cycles + 1 }
  Action.change fun link => offer.notices.foldl note link
  match ← Action.ofExcept (offer.firmware.mapError ProvisionError.io) with
  | none => pure none
  | some file =>
    match ← Action.ofExcept offer.stub with
    | none =>
      Action.change (note · .noStub)
      pure none
    | some stub =>
      let bytes ← Action.ofExcept (file.mapError .io)
      let image ← Action.ofExcept (Firmware.Image.ofFile bytes)
      (enterMode .rom).mapError .link
      some <$> runProvisioning { image with fault := offer.fault } stub

/-- Sends one frame, or fails right away when the far side is not ready. -/
def send (dataId : UInt8) (payload : Bytes) : Action LinkError (Link σ) Unit :=
  onTransport (Transport.send dataId payload)

/-- Waits for readiness, then sends. -/
def sendBlocking (dataId : UInt8) (payload : Bytes) : Action LinkError (Link σ) Unit :=
  onTransport (Transport.sendBlocking dataId payload)

/-- Sends a request and returns at most `room` bytes of the answer. -/
def request (dataId : UInt8) (payload : Bytes) (room : Nat) : Action LinkError (Link σ) Bytes :=
  onTransport (Transport.request dataId payload room)

/-- Sends a datagram, once connected. -/
def sendDatagram (datagram : Datagram) : Action NetworkError (Link σ) Unit := do
  if !(← get).telemetry.isConnected then throw .notConnected
  onTransport datagram.send

/-- Stops a program and discards it. -/
def resetVm (vm : UInt32) : Action LinkError (Link σ) Unit := do
  Action.change (note · (.resettingVm vm))
  sendBlocking Message.resetVmId (Message.resetVm vm)

/-- Sends the pieces of a program from `offset` on, then an empty piece that marks the end. -/
def loadVmFrom (vm : UInt32) (size offset : UInt16) :
    List (Except Fault Bytes) → Action LinkError (Link σ) Unit
  | [] => sendBlocking Message.loadVmId (Message.loadVm vm size offset [])
  | .error fault :: _ => throw (.io fault)
  | .ok piece :: rest => do
    sendBlocking Message.loadVmId (Message.loadVm vm size offset piece)
    loadVmFrom vm size (offset + UInt16.ofNat piece.length) rest

/-- Sends the first `size` bytes that a reader gives as a program. -/
def loadProgram (vm : UInt32) (reader : Reader) (size : UInt16) : Action LinkError (Link σ) Unit := do
  Action.change (note · (.loadingVm vm size))
  loadVmFrom vm size 0 (reader.blocks Message.programChunk size.toNat)

/-- Sends the first `size` bytes of an image as a program. -/
def loadVm (vm : UInt32) (image : Bytes) (size : UInt16) : Action LinkError (Link σ) Unit :=
  loadProgram vm { content := image } size

/-- Calls a function of a program and returns at most `room` bytes of the answer. -/
def runVm (vm : UInt8) (function : UInt16) (room : Nat) : Action LinkError (Link σ) Bytes :=
  request Message.runVmId (Message.runVm vm function) room

end Link

end RadioLink
