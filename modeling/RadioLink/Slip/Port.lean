import RadioLink.Line
import RadioLink.Slip

/-!
Escape-coded packets over the line, with a small read-ahead. Both waits of this module scan the
incoming bytes with a step function until it reports something: the packet decoder for a packet,
and a test for the delimiter alone.
-/

namespace RadioLink.Slip

structure Port (σ : Type) where
  line : Line σ
  /-- What the latest read returned. -/
  block : Bytes := []
  /-- The bytes of the block that are still to be looked at. -/
  ahead : Bytes := []

namespace Port

variable {σ δ α β : Type}

def note (port : Port σ) (notice : Notice) : Port σ := { port with line := port.line.note notice }

/-- Runs an operation of the line. -/
def device (action : Action Fault (Line σ) α) : Action Fault (Port σ) α :=
  action.within Port.line fun line port => { port with line }

/-- Feeds bytes to a step function up to the first one that makes it report, and returns the bytes
after that one. -/
def scan (step : δ → UInt8 → δ × Option β) (state : δ) : Bytes → δ × Bytes × Option β
  | [] => (state, [], none)
  | b :: rest =>
    match step state b with
    | (next, some report) => (next, rest, some report)
    | (next, none) => scan step next rest

variable [Peer σ]

def delayMs (port : Port σ) (ms : Nat) : Port σ := { port with line := port.line.delayMs ms }

def setBaud (rate : UInt32) : Action Fault (Port σ) Unit := device (Line.call (.baud rate))

/-- Drops bytes read ahead and bytes waiting on the line. -/
def discard : Action Fault (Port σ) Unit := do
  Action.change fun port => { port with block := [], ahead := [] }
  device (Line.call .clear)

/-- Sends bytes as they are. -/
def writeRaw (data : Bytes) : Action Fault (Port σ) Unit := device (Line.call (.write data))

/-- Sends the parts as one packet. -/
def writePacket (parts : List Bytes) : Action Fault (Port σ) Unit := do
  let bytes := Slip.encode parts
  Action.change (note · (.packetSent bytes))
  writeRaw bytes

/-- How many bytes one read takes ahead. -/
def readAhead : Nat := 64

/-- Reads the next block. When the read fails, the block before it is looked at again from its
start. -/
def readBlock : Action Fault (Port σ) Bytes := fun port =>
  match Line.read readAhead port.line with
  | .ok bytes line => .ok bytes { line, block := bytes, ahead := bytes }
  | .error fault line => .error fault { port with line, ahead := port.block }

/-- Scans what has been read ahead and what waits on the line, with at most `count` reads. -/
def scanWaiting (step : δ → UInt8 → δ × Option β) (state : δ) :
    (count : Nat) → Action Fault (Port σ) (δ × Option β)
  | 0 => pure (state, none)
  | count + 1 => do
    let (next, rest, report) := scan step state (← get).ahead
    Action.change fun port => { port with ahead := rest }
    if report.isSome then return (next, report)
    let bytes ← readBlock
    if bytes = [] then return (next, none)
    scanWaiting step next count

/-- Scans incoming bytes until `timeout` after `start`, looking for them at most `count` times. -/
def awaitFrom (step : δ → UInt8 → δ × Option β) (start timeout : Micros) (state : δ) :
    (count : Nat) → Action Fault (Port σ) (Option β)
  | 0 => pure none
  | count + 1 => do
    let (next, report) ← scanWaiting step state ((← get).line.waiting.length + 1)
    if report.isSome then return report
    if timeout ≤ (← get).line.elapsed start then return none
    Action.change fun port => { port with line := port.line.delay Line.pollInterval }
    awaitFrom step start timeout next count

/-- Scans incoming bytes until the step function reports, for at most `timeout`. -/
def await (step : δ → UInt8 → δ × Option β) (state : δ) (timeout : Micros) :
    Action Fault (Port σ) (Option β) := do
  awaitFrom step (← get).line.now timeout state (Line.pollCount timeout)

/-- Reads one packet of at most `capacity` bytes; `none` when none was complete in time. -/
def readPacket (capacity : Nat) (timeout : Micros) :
    Action ProvisionError (Port σ) (Option Bytes) := do
  match ← (await Decoder.push { capacity } timeout).mapError .io with
  | none => pure none
  | some (.error error) => throw (.slip error)
  | some (.ok packet) =>
    Action.change (note · (.packetReceived packet.length))
    pure (some packet)

/-- Waits for a delimiter, whatever comes before it. -/
def awaitDelimiter (timeout : Micros) : Action Fault (Port σ) Bool := do
  let seen ← await (fun (_ : Unit) b => ((), if b = delimiter then some () else none)) () timeout
  pure seen.isSome

end Port

end RadioLink.Slip
