import RadioLink.Action
import RadioLink.Log
import RadioLink.Time

/-!
The line to the co-processor: a serial port with its control lines, a clock and the ready signal.

The far side is any type with a `Peer` instance. It decides which calls fail, which bytes arrive
and when the ready edge comes; statements about every far side quantify over that instance. Bytes
arrive as an effect of a call or while time passes, never during a read, so at every moment the
bytes that wait to be read are finitely many. The ready edge can also come on its own, right after
the host has taken the ready signal down and before it goes on.
-/

namespace RadioLink

/-- The ready signal: a slot that a ready edge sets and the host clears. Two edges before a `clear` are
one. While the signal is masked, edges are dropped. -/
structure ReadySignal where
  isSet : Bool := false
  enabled : Bool := false
  deriving DecidableEq, Repr, Inhabited

namespace ReadySignal

/-- A ready edge arrives. -/
def notify (signal : ReadySignal) : ReadySignal :=
  { signal with isSet := signal.isSet || signal.enabled }

def clear (signal : ReadySignal) : ReadySignal := { signal with isSet := false }

/-- Masking leaves the slot as it is. -/
def setEnabled (signal : ReadySignal) (enabled : Bool) : ReadySignal := { signal with enabled }

end ReadySignal

/-- What the co-processor boots into when reset is released. -/
inductive BootMode where
  /-- Boot strap low: the loader in the mask ROM. -/
  | rom
  /-- Boot strap high: the application firmware in flash. -/
  | application
  deriving DecidableEq, Repr

def BootMode.name : BootMode → String
  | rom => "Rom"
  | application => "Application"

/-- What the host asks of the device. Each of these can fail. -/
inductive Call where
  | write (data : Bytes)
  | baud (rate : UInt32)
  /-- Discards received bytes that were not read. -/
  | clear
  /-- Drives the reset line; `true` holds the co-processor in reset. -/
  | reset (asserted : Bool)
  | mode (mode : BootMode)
  /-- Strobes the line that tells the far side that the host can receive. -/
  | pulse
  deriving DecidableEq, Repr

/-- What the far side does at one moment: bytes it sends, and whether it raises the ready edge. -/
structure Arrival where
  bytes : Bytes := []
  edge : Bool := false
  deriving DecidableEq, Repr, Inhabited

/-- A far side with states `σ`. -/
class Peer (σ : Type) where
  /-- How a call made at a given time goes. A call that fails does nothing to the line. -/
  answer : σ → Micros → Call → Except Fault Arrival × σ
  /-- How many of the waiting bytes a read made at a given time, with room for so many, may take. -/
  grant : σ → Micros → Nat → Except Fault Nat × σ
  /-- What happens while time passes up to the given moment. -/
  elapse : σ → Micros → Arrival × σ
  /-- Whether the ready edge crosses what the host does next: it comes when the host has just taken the
  ready signal down. -/
  crosses : σ → Micros → Bool × σ := fun peer _ => (false, peer)

inductive Event where
  | done (call : Call)
  | failed (call : Call)
  /-- The ready edge was masked or unmasked. -/
  | irq (enabled : Bool)
  /-- The host took the ready signal down. -/
  | lowered
  /-- A read returned these bytes, at least one. -/
  | took (bytes : Bytes)
  | readFailed
  /-- The far side raised the ready edge; `heard` tells whether the edge was unmasked. -/
  | edge (heard : Bool)
  /-- Bytes of the far side reached the port, at least one. -/
  | arrived (bytes : Bytes)
  deriving DecidableEq, Repr

structure Entry where
  time : Micros
  event : Event
  deriving DecidableEq, Repr

structure Line (σ : Type) where
  peer : σ
  now : Micros := 0
  ready : ReadySignal := {}
  /-- Bytes received and not yet read. -/
  waiting : Bytes := []
  /-- What happened on the line, latest first. -/
  history : List Entry := []
  log : Log := {}

namespace Line

variable {σ : Type}

def note (line : Line σ) (notice : Notice) : Line σ := { line with log := line.log.add notice }

def record (line : Line σ) (event : Event) : Line σ :=
  { line with history := ⟨line.now, event⟩ :: line.history }

/-- Starts a new history and a new log; the line itself stays as it is. -/
def forget (line : Line σ) : Line σ := { line with history := [], log := {} }

/-- The far side raises the ready edge. -/
def raiseEdge (line : Line σ) : Line σ :=
  { line.record (.edge line.ready.enabled) with ready := line.ready.notify }

/-- Bytes of the far side reach the port. -/
def receive (line : Line σ) (bytes : Bytes) : Line σ :=
  if bytes = [] then line
  else { line.record (.arrived bytes) with waiting := line.waiting ++ bytes }

def accept (line : Line σ) (arrival : Arrival) : Line σ :=
  let line := line.receive arrival.bytes
  if arrival.edge then line.raiseEdge else line

/-- Masks or unmasks the ready edge; this cannot fail. -/
def setIrq (line : Line σ) (enabled : Bool) : Line σ :=
  { line.record (.irq enabled) with ready := line.ready.setEnabled enabled }

def elapsed (line : Line σ) (start : Micros) : Micros := line.now.elapsed start

/-- What a call does to the line itself, once it has succeeded. -/
def carryOut (line : Line σ) : Call → Line σ
  | .clear => { line with waiting := [] }
  | _ => line

variable [Peer σ]

/-- The host takes the ready signal down. The next edge can come before the host does anything else. -/
def clearReady (line : Line σ) : Line σ :=
  let (edge, peer) := Peer.crosses line.peer line.now
  { line.record .lowered with peer, ready := line.ready.clear }.accept { edge }

def call (c : Call) : Action Fault (Line σ) Unit := fun line =>
  match Peer.answer line.peer line.now c with
  | (.error fault, peer) => .error fault ({ line with peer }.record (.failed c))
  | (.ok arrival, peer) => .ok () ((({ line with peer }.record (.done c)).carryOut c).accept arrival)

/-- Takes bytes that have already arrived, at most `room` of them and possibly none. -/
def read (room : Nat) : Action Fault (Line σ) Bytes := fun line =>
  match Peer.grant line.peer line.now room with
  | (.error fault, peer) => .error fault ({ line with peer }.record .readFailed)
  | (.ok limit, peer) =>
    let count := min room limit
    let taken := line.waiting.take count
    let rest := { line with peer, waiting := line.waiting.drop count }
    .ok taken (if taken = [] then rest else rest.record (.took taken))

/-- Lets time pass. -/
def delay (line : Line σ) (span : Micros) : Line σ :=
  let now := line.now.after span
  let (arrival, peer) := Peer.elapse line.peer now
  { line with now, peer }.accept arrival

def delayMs (line : Line σ) (ms : Nat) : Line σ := line.delay (Micros.ofMillis ms)

/-- The pause between two looks at the ready signal or at the received bytes. -/
def pollInterval : Micros := 50

/-- A number of looks that is enough for a wait of `timeout`, one look at each interval. -/
def pollCount (timeout : Micros) : Nat := timeout / pollInterval + 2

/-- Waits for the ready signal until `timeout` after `start`, looking at most `count` times. -/
def awaitReadyFrom (start timeout : Micros) : (count : Nat) → Line σ → Bool × Line σ
  | 0, line => (line.ready.isSet, line)
  | count + 1, line =>
    if line.ready.isSet then (true, line)
    else if timeout ≤ line.elapsed start then (false, line)
    else awaitReadyFrom start timeout count (line.delay pollInterval)

/-- Waits for the ready signal until `timeout` after `start`. -/
def awaitReadySince (line : Line σ) (start timeout : Micros) : Bool × Line σ :=
  awaitReadyFrom start timeout (pollCount timeout) line

def awaitReady (line : Line σ) (timeout : Micros) : Bool × Line σ :=
  line.awaitReadySince line.now timeout

end Line

end RadioLink
