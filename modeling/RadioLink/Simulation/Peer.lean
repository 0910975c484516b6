import RadioLink.Line

/-!
A far side that follows a script, for running the library without hardware. It answers writes,
strobes and changes of baud rate from queues of replies, keeps what it will send later until its
time has come, and can be told to let calls fail.
-/

namespace RadioLink.Simulation

/-- Bytes and a ready edge, some time after the reply they belong to. -/
structure Burst where
  bytes : Bytes := []
  edge : Bool := false
  delay : Micros := 0
  deriving DecidableEq, Repr, Inhabited

/-- What the far side does about one call. All delays count from the call. -/
abbrev Reply := List Burst

/-- A burst with the moment it is due. -/
structure Scheduled where
  due : Micros
  burst : Burst
  deriving DecidableEq, Repr

/-- After which writes the far side raises the ready edge. -/
inductive ReadyPolicy where
  | never
  /-- After the reset byte alone. -/
  | afterReset
  | always
  deriving DecidableEq, Repr

/-- Reads the name of a policy. -/
def ReadyPolicy.ofName? : String → Option ReadyPolicy
  | "none" => some never
  | "reset" => some afterReset
  | "all" => some always
  | _ => none

/-- The calls that can be told to fail. -/
inductive CallKind where
  | write | read | baud | clear | reset | mode | pulse
  deriving DecidableEq, Repr

namespace CallKind

def ofCall : Call → CallKind
  | .write _ => write
  | .baud _ => baud
  | .clear => clear
  | .reset _ => reset
  | .mode _ => mode
  | .pulse => pulse

def name : CallKind → String
  | write => "write"
  | read => "read"
  | baud => "baud"
  | clear => "clear"
  | reset => "reset"
  | mode => "mode"
  | pulse => "pulse"

def all : List CallKind := [write, read, baud, clear, reset, mode, pulse]

def ofName? (name : String) : Option CallKind := all.find? fun kind => kind.name = name

end CallKind

structure Script where
  readyPolicy : ReadyPolicy := .afterReset
  /-- The most bytes that one read returns. -/
  readLimit : Option Nat := none
  onWrite : List Reply := []
  onPulse : List Reply := []
  onBaud : List Reply := []
  /-- Bursts still to come, in the order of their due times, those of one time in the order of
  their creation. -/
  agenda : List Scheduled := []
  /-- For a kind of call, how many more of it succeed before all fail. -/
  failures : List (CallKind × Nat) := []
  /-- For each of the next times that the host takes the ready signal down, whether an edge crosses what
  it does then. -/
  crossings : List Bool := []
  deriving DecidableEq, Repr, Inhabited

namespace Script

def unplugged : Fault := ⟨"adapter unplugged"⟩

/-- Keeps a burst for later, behind those that are due no later than it. -/
def schedule (entry : Scheduled) : List Scheduled → List Scheduled
  | [] => [entry]
  | first :: rest =>
    if first.due ≤ entry.due then first :: schedule entry rest else entry :: first :: rest

/-- Adds what a burst brings to an arrival. -/
def gather (arrival : Arrival) (burst : Burst) : Arrival :=
  ⟨arrival.bytes ++ burst.bytes, arrival.edge || burst.edge⟩

/-- Applies a reply: a burst without delay arrives at once, any other is scheduled. -/
def apply (script : Script) (now : Micros) (reply : Reply) : Arrival × Script :=
  reply.foldl
    (fun (arrival, script) burst =>
      if burst.delay = 0 then (gather arrival burst, script)
      else
        (arrival,
          { script with agenda := schedule ⟨now.after burst.delay, burst⟩ script.agenda }))
    ({}, script)

/-- Whether a call of a kind goes wrong now, and the script after that call. -/
def takeChance (script : Script) (kind : CallKind) : Bool × Script :=
  match script.failures.lookup kind with
  | none => (false, script)
  | some 0 => (true, script)
  | some (left + 1) =>
    (false, { script with
      failures := (kind, left) :: script.failures.filter fun entry => entry.1 ≠ kind })

/-- Lets `after` more calls of a kind succeed, and then none. -/
def failAfter (script : Script) (kind : CallKind) (after : Nat) : Script :=
  { script with
    failures := (kind, after) :: script.failures.filter fun entry => entry.1 ≠ kind }

/-- Adds replies to the queue of a kind of call; calls without a queue get none. -/
def enqueue (script : Script) (kind : CallKind) (replies : List Reply) : Script :=
  match kind with
  | .write => { script with onWrite := script.onWrite ++ replies }
  | .pulse => { script with onPulse := script.onPulse ++ replies }
  | .baud => { script with onBaud := script.onBaud ++ replies }
  | _ => script

/-- The ready edge that follows a write by policy. -/
def edgeAfter (policy : ReadyPolicy) (data : Bytes) : Bool :=
  match policy with
  | .never => false
  | .afterReset => data = [0x01]
  | .always => true

/-- Takes the reply to a call off its queue. -/
def nextReply (script : Script) : Call → Reply × Script
  | .write _ => (script.onWrite.headD [], { script with onWrite := script.onWrite.tail })
  | .pulse => (script.onPulse.headD [], { script with onPulse := script.onPulse.tail })
  | .baud _ => (script.onBaud.headD [], { script with onBaud := script.onBaud.tail })
  | _ => ([], script)

def answer (script : Script) (now : Micros) (call : Call) : Except Fault Arrival × Script :=
  match script.takeChance (.ofCall call) with
  | (true, script) => (.error unplugged, script)
  | (false, script) =>
    let (reply, script) := script.nextReply call
    let (arrival, script) := script.apply now reply
    match call with
    | .write data =>
      (.ok { arrival with edge := arrival.edge || edgeAfter script.readyPolicy data }, script)
    | _ => (.ok arrival, script)

def grant (script : Script) (room : Nat) : Except Fault Nat × Script :=
  match script.takeChance .read with
  | (true, script) => (.error unplugged, script)
  | (false, script) => (.ok (script.readLimit.getD room), script)

/-- Everything that is due by now arrives. -/
def elapse (script : Script) (now : Micros) : Arrival × Script :=
  let due := script.agenda.takeWhile fun entry => entry.due ≤ now
  let later := script.agenda.dropWhile fun entry => entry.due ≤ now
  (due.foldl (fun arrival entry => gather arrival entry.burst) {}, { script with agenda := later })

def crosses (script : Script) : Bool × Script :=
  (script.crossings.headD false, { script with crossings := script.crossings.tail })

instance : Peer Script where
  answer := answer
  grant script _ := script.grant
  elapse := elapse
  crosses script _ := script.crosses

end Script

end RadioLink.Simulation
