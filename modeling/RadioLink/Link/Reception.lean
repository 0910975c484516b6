import RadioLink.Link.Basic

/-!
One pass over the tasks of a live link: reception, association and uptime. Only failures of the
device are errors of a pass; everything a far side can send is dealt with here.
-/

namespace RadioLink.Link

variable {σ : Type}

/-- Bound on the time from a frame's control byte to its last byte. -/
def receiveTimeout : Micros := 20000

/-- Hands a frame to the dispatcher; what it refuses is only mentioned in the log. -/
def dispatch (link : Link σ) (frame : Frame) : Link σ :=
  let desk : Desk :=
    { dispatcher := link.dispatcher
      telemetry := link.telemetry
      store := link.store
      sink := link.sink
      handled := link.handled
      log := link.transport.line.log }
  let (result, desk) := (Desk.dispatch link.state frame.dataId frame.payload).outcome desk
  let next : Link σ :=
    { link.onLine (fun line => { line with log := desk.log }) with
      dispatcher := desk.dispatcher
      telemetry := desk.telemetry
      store := desk.store
      sink := desk.sink
      dispatched := frame :: link.dispatched
      handled := desk.handled }
  match result with
  | .ok () => next
  | .error error => next.note (.dispatchFailed frame.dataId error)

variable [Peer σ]

/-- Goes on with a frame whose control byte has arrived. A frame that stays incomplete for too long
is dropped. -/
def receiveFrame : Action LinkError (Link σ) Unit := do
  let now := (← get).transport.now
  Action.change fun link => { link with rxAlarm := link.rxAlarm.ensure now receiveTimeout }
  match ← Action.attempt (onTransport Transport.pollFrame) with
  | .ok (some frame) => Action.change fun link => { link with rxAlarm := .off }.dispatch frame
  | .ok none =>
    if (← get).rxAlarm.expired now then
      Action.change fun link => { link with rxAlarm := .off }.note .receiveTimeout
      onTransport Transport.armReceiver
  | .error (.io fault) => throw (.io fault)
  | .error error =>
    Action.change fun link => { link with rxAlarm := .off }.note (.frameRejected error)

/-- Looks at what has arrived. -/
def receive : Action LinkError (Link σ) Unit := do
  onTransport Transport.pump
  let control := (← get).transport.controlByte
  if control = Control.idle then pure ()
  else if control = Control.data then receiveFrame
  else if control = Control.queryReady then onTransport Transport.armReceiver
  else
    Action.change (note · (.unexpectedControl control))
    onTransport Transport.armReceiver

/-- Lets the association manager take a step. -/
def associate (link : Link σ) : Link σ :=
  { link with
    toAssociation := link.toAssociation.poll link.telemetry link.settings.connectTimeout }

def countUptime (link : Link σ) : Link σ :=
  let (uptime, telemetry) := link.uptime.poll link.transport.now link.telemetry
  { link with uptime, telemetry }

/-- One pass. A failure of the device means that the link is gone. -/
def tick : Action LinkError (Link σ) Unit := do
  match ← Action.attempt receive with
  | .ok () => pure ()
  | .error (.io fault) => throw (.io fault)
  | .error error => Action.change (note · (.receiveFailed error))
  Action.change associate
  Action.change countUptime

end RadioLink.Link
