import RadioLink.Frame
import RadioLink.Line

/-!
The framed transport with its flow control. Each direction has one line: the far side raises the
ready edge when it can take a frame, and every send uses that edge up; the host strobes the
receive-ready line once its receive buffer is empty, which lets the far side send its next frame.
-/

namespace RadioLink

structure Transport (σ : Type) where
  line : Line σ
  /-- The receive buffer; its first byte is a control byte. -/
  received : Bytes := []
  /-- Number of the latest frame sent. -/
  lastId : UInt8 := 0
  /-- Bound on every wait for readiness or for an answer. -/
  timeout : Micros
  /-- Complete frames that were rejected. -/
  commErrors : UInt16 := 0

namespace Transport

variable {σ : Type} {α : Type}

def now (transport : Transport σ) : Micros := transport.line.now

def isReady (transport : Transport σ) : Bool := transport.line.ready.isSet

/-- The first byte received, the idle byte when there is none. -/
def controlByte (transport : Transport σ) : UInt8 := transport.received.headD Control.idle

def onLine (f : Line σ → Line σ) (transport : Transport σ) : Transport σ :=
  { transport with line := f transport.line }

def note (transport : Transport σ) (notice : Notice) : Transport σ :=
  transport.onLine (·.note notice)

/-- Runs an operation of the line. -/
def device (action : Action Fault (Line σ) α) : Action LinkError (Transport σ) α :=
  (action.mapError .io).within Transport.line fun line transport => { transport with line }

variable [Peer σ]

def delay (transport : Transport σ) (span : Micros) : Transport σ :=
  transport.onLine (·.delay span)

def awaitReadySince (transport : Transport σ) (start timeout : Micros) : Bool × Transport σ :=
  let (ready, line) := transport.line.awaitReadySince start timeout
  (ready, { transport with line })

/-- Waits for the far side to become ready. -/
def awaitReady (transport : Transport σ) (timeout : Micros) : Bool × Transport σ :=
  transport.awaitReadySince transport.now timeout

/-- Drops everything received so far. -/
def resetReceived : Action LinkError (Transport σ) Unit := do
  Action.change fun transport => { transport with received := [] }
  device (Line.call .clear)

/-- Empties the receive buffer and tells the far side that it may send. -/
def armReceiver : Action LinkError (Transport σ) Unit := do
  resetReceived
  device (Line.call .pulse)

/-- Asks for a link reset, which the far side acknowledges with a ready edge. -/
def resetLink : Action LinkError (Transport σ) Unit := do
  resetReceived
  Action.change (onLine Line.clearReady)
  device (Line.call (.write [Control.reset]))

def setBaud (rate : UInt32) : Action LinkError (Transport σ) Unit := device (Line.call (.baud rate))

/-- Sends one frame, or fails right away when the far side is not ready. -/
def send (dataId : UInt8) (payload : Bytes) : Action LinkError (Transport σ) Unit := do
  if Frame.maxPayload < payload.length then throw (.payloadTooLarge payload.length)
  if !(← get).isReady then
    Action.change (note · (.notReady dataId))
    throw .notReady
  Action.change fun transport => { transport with lastId := transport.lastId + 1 }
  let frame ← Action.ofExcept
    (Frame.encode (← get).lastId dataId payload (Frame.headerLength + Frame.maxPayload))
  let bytes := Control.data :: frame
  Action.change (onLine Line.clearReady)
  device (Line.call (.write bytes))
  Action.change (note · (.frameSent bytes))

/-- Waits for readiness, then sends. -/
def sendBlocking (dataId : UInt8) (payload : Bytes) : Action LinkError (Transport σ) Unit := do
  let ready ← Action.total fun transport => transport.awaitReady transport.timeout
  if !ready then throw .timeout
  match ← Action.attempt (send dataId payload) with
  | .ok () => pure ()
  | .error error =>
    Action.change (note · (.sendFailed dataId error))
    throw .sendFailed

/-- Moves bytes that have arrived into the receive buffer, as far as there is room. -/
def pump : Action LinkError (Transport σ) Unit := do
  let transport ← get
  if transport.received.length < Frame.maxLength then
    let bytes ← device (Line.read (Frame.maxLength - transport.received.length))
    Action.change fun transport => { transport with received := transport.received ++ bytes }

/-- Decodes a frame that is complete; a frame that is rejected is counted. -/
def accept (frame : Bytes) : Action LinkError (Transport σ) Frame := do
  match Frame.decode frame with
  | .ok (header, payload) => pure ⟨header, payload⟩
  | .error error =>
    Action.change fun transport =>
      { transport.note .badFrame with commErrors := transport.commErrors + 1 }
    throw error

/-- Waits for a complete frame until `timeout` after `start`, looking at most `count` times, and
returns its length with the control byte. -/
def awaitFrameFrom (start timeout : Micros) : (count : Nat) → Action LinkError (Transport σ) Nat
  | 0 => throw .responseTimeout
  | count + 1 => do
    pump
    let transport ← get
    match Frame.completeLength? transport.received with
    | some length => pure length
    | none =>
      if timeout ≤ transport.line.elapsed start then throw .responseTimeout
      Action.change (delay · Line.pollInterval)
      awaitFrameFrom start timeout count

/-- Sends a frame and waits for the frame that answers it; both waits share one timeout. -/
def exchange (dataId : UInt8) (payload : Bytes) : Action LinkError (Transport σ) Frame := do
  let start := (← get).now
  let timeout := (← get).timeout
  let ready ← Action.total fun transport => transport.awaitReadySince start timeout
  if !ready then throw .timeout
  send dataId payload
  let length ← awaitFrameFrom start timeout (Line.pollCount timeout)
  accept (((← get).received.take length).drop 1)

/-- Sends a request and returns at most `room` bytes of the answer's payload. Whatever happened,
the receiver is armed again once before the result is given. -/
def request (dataId : UInt8) (payload : Bytes) (room : Nat) :
    Action LinkError (Transport σ) Bytes := do
  let result ← Action.attempt (exchange dataId payload)
  armReceiver
  let frame ← Action.ofExcept result
  pure (frame.payload.take room)

/-- Runs an operation of the transport next to a buffer. -/
def beside (action : Action LinkError (Transport σ) α) : Action LinkError (Bytes × Transport σ) α :=
  action.within Prod.snd fun transport state => (state.1, transport)

/-- Sends a request and copies the answer's payload over the start of a buffer, as far as it fits.
Returns how many bytes that are; the receiver is armed again as in `request`. -/
def requestInto (dataId : UInt8) (payload : Bytes) : Action LinkError (Bytes × Transport σ) Nat := do
  let result ← Action.attempt do
    let frame ← beside (exchange dataId payload)
    Action.total fun state =>
      let (count, buffer) := frame.payload.copyOver state.1
      (count, buffer, state.2)
  beside armReceiver
  Action.ofExcept result

/-- Takes a complete frame out of the receive buffer, if there is one. A complete frame arms the
receiver again exactly once, whether it is accepted or not. -/
def pollFrame : Action LinkError (Transport σ) (Option Frame) := do
  pump
  let received := (← get).received
  match Frame.completeLength? received with
  | none => pure none
  | some length =>
    let raw := received.take length
    armReceiver
    Action.change (note · (.frameReceived raw))
    some <$> accept (raw.drop 1)

end Transport

end RadioLink
