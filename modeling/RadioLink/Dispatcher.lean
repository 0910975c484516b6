import RadioLink.Action
import RadioLink.Datagram
import RadioLink.Telemetry

/-!
Inbound frames and what they update. Messages that the link does not consume itself go to one
registered handler.
-/

namespace RadioLink

inductive LinkState where
  | booting | alive | error | shutdown
  deriving DecidableEq, Repr

namespace LinkState

def name : LinkState → String
  | booting => "Booting"
  | alive => "Alive"
  | error => "Error"
  | shutdown => "Shutdown"

def all : List LinkState := [booting, alive, error, shutdown]

def ofName? (name : String) : Option LinkState := all.find? fun state => state.name = name

end LinkState

/-- The socket layer: ports that cannot take a datagram now, and what it was given, latest first. -/
structure Sink where
  busy : List UInt16 := []
  delivered : List Datagram := []
  deriving DecidableEq, Repr, Inhabited

def Sink.setBusy (sink : Sink) (busy : List UInt16) : Sink := { sink with busy }

/-- Forgets what was delivered. -/
def Sink.forget (sink : Sink) : Sink := { sink with delivered := [] }

/-- One call of the registered handler. -/
structure HandlerCall where
  handler : Nat
  dataId : UInt8
  payload : Bytes
  deriving DecidableEq, Repr

structure Dispatcher where
  receiver : Reassembler := {}
  /-- The number of the registered handler. -/
  handler : Option Nat := none
  deriving DecidableEq, Repr, Inhabited

namespace Dispatcher

/-- Drops a datagram under way; the handler stays. -/
def reset (dispatcher : Dispatcher) : Dispatcher := { dispatcher with receiver := {} }

def register (dispatcher : Dispatcher) (handler : Nat) : Dispatcher :=
  { dispatcher with handler := some handler }

def describe (dispatcher : Dispatcher) : String :=
  "Dispatcher \x7b udp: " ++ dispatcher.receiver.describe ++ ", handler: " ++
    (if dispatcher.handler.isSome then "true" else "false") ++ " \x7d"

end Dispatcher

/-- The dispatcher with everything that a frame may update. Without a socket layer every port reads
as free and datagrams are dropped. -/
structure Desk where
  dispatcher : Dispatcher := {}
  telemetry : Telemetry := {}
  store : ConfigStore := {}
  sink : Option Sink := none
  /-- Calls of the handler, latest first. -/
  handled : List HandlerCall := []
  log : Log := {}

namespace Desk

def note (desk : Desk) (notice : Notice) : Desk := { desk with log := desk.log.add notice }

/-- Forgets what earlier frames caused and keeps their effect. -/
def forget (desk : Desk) : Desk :=
  { desk with store := desk.store.forget, sink := desk.sink.map Sink.forget, handled := [], log := {} }

def write (desk : Desk) (change : ConfigWrite) : Desk :=
  { desk with store := desk.store.write change }

def isBusy (desk : Desk) (port : UInt16) : Bool :=
  match desk.sink with
  | some sink => sink.busy.contains port
  | none => false

def deliver (desk : Desk) (datagram : Datagram) : Desk :=
  { desk with
    sink := desk.sink.map fun sink => { sink with delivered := datagram :: sink.delivered } }

def applyStatus (desk : Desk) (status : Message.Status) : Desk :=
  let noted :=
    if status.flags ≠ desk.telemetry.statusFlags then desk.note (.statusChanged status.flags)
    else desk
  { noted with telemetry := { noted.telemetry with statusFlags := status.flags } }

/-- Copies the counters and writes the network identity to the configuration; the device number is
written only when it is new. -/
def applyInfo (desk : Desk) (info : Message.Info) : Desk :=
  let told := { desk with telemetry := desk.telemetry.withInfo info }
  let id := info.deviceId
  let known :=
    if told.store.config.deviceId ≠ id then
      (told.note (.deviceIdChanged id)).write (.deviceId id)
    else told
  known.write (.network info.ip info.subnet info.dns)

def applyDebug (desk : Desk) (debug : Message.Debug) : Desk :=
  { desk with telemetry := { desk.telemetry with freeHeap := debug.freeHeap } }

def setReceiver (desk : Desk) (receiver : Reassembler) : Desk :=
  { desk with dispatcher := { desk.dispatcher with receiver } }

def onHeader (header : Message.DatagramHeader) : Action DispatchError Desk Unit := fun desk =>
  let (result, receiver, notices) :=
    desk.dispatcher.receiver.onHeader header (desk.isBusy header.localPort)
  let next := (notices.foldl note desk).setReceiver receiver
  match result with
  | .ok () => .ok () next
  | .error error => .error error next

def onData (payload : Bytes) : Action DispatchError Desk Unit := fun desk =>
  let (result, receiver) := desk.dispatcher.receiver.onData payload
  let next := desk.setReceiver receiver
  match result with
  | .error error => .error error next
  | .ok none => .ok () next
  | .ok (some datagram) =>
    .ok () ((next.note (.datagramReceived datagram.data.length datagram.remoteAddr
      datagram.remotePort datagram.localPort)).deliver datagram)

/-- A message of another type goes to the handler. -/
def handle (dataId : UInt8) (payload : Bytes) : Action DispatchError Desk Unit := fun desk =>
  match desk.dispatcher.handler with
  | some handler => .ok () { desk with handled := ⟨handler, dataId, payload⟩ :: desk.handled }
  | none => .error (.unknownType dataId) desk

/-- Takes one frame. Frames count only while the link is alive. -/
def dispatch (state : LinkState) (dataId : UInt8) (payload : Bytes) :
    Action DispatchError Desk Unit := do
  if state ≠ .alive then throw .notAlive
  Action.change (note · (.dispatching dataId payload.length))
  if dataId = Message.statusId then
    let status ← Action.ofExcept (Message.Status.decode payload)
    Action.change (applyStatus · status)
  else if dataId = Message.infoId then
    let info ← Action.ofExcept (Message.Info.decode payload)
    Action.change (applyInfo · info)
  else if dataId = Message.debugId then
    let debug ← Action.ofExcept (Message.Debug.decode payload)
    Action.change (applyDebug · debug)
  else if dataId = Message.datagramHeaderId then
    let header ← Action.ofExcept (Message.DatagramHeader.decode payload)
    onHeader header
  else if dataId = Message.datagramDataId then onData payload
  else handle dataId payload

end Desk

end RadioLink
