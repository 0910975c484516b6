import RadioLink.Config
import RadioLink.PortTable
import RadioLink.Telemetry
import RadioLink.Transport

/-!
Joining a network or offering an access point. The manager is polled while the link is alive; each
poll takes at most one step and never waits, since every wait is an alarm.

A device with no network configured, or with its access point switched on, offers an access point;
otherwise it tries the configured networks in turn.
-/

namespace RadioLink

inductive Phase where
  /-- Choosing what to ask the co-processor for. -/
  | select
  /-- Waiting to be connected to a network. -/
  | joining
  /-- Waiting for the access point to be up. -/
  | apJoining
  | backoff
  | connected
  deriving DecidableEq, Repr

def Phase.name : Phase → String
  | select => "Select"
  | joining => "Joining"
  | apJoining => "ApJoining"
  | backoff => "Backoff"
  | connected => "Connected"

structure Manager where
  phase : Phase := .select
  /-- The slot that the next attempt uses. -/
  router : Nat := 0
  alarm : Alarm := {}
  /-- Whether the access point is the generated one. -/
  generatedAp : Bool := false
  /-- Networks joined so far. -/
  connects : UInt32 := 0
  deriving DecidableEq, Repr, Inhabited

namespace Manager

def backoffTime : Micros := 500000

/-- How long the co-processor goes without a copy of the port table. -/
def portsInterval : Micros := 2000000

/-- Goes back to choosing, for instance after the link was booted again. -/
def restart (manager : Manager) : Manager := { manager with phase := .select, alarm := .off }

/-- Enters a phase that ends `timeout` from now at the latest. -/
def enter (manager : Manager) (phase : Phase) (now timeout : Micros) : Manager :=
  { manager with phase, alarm := .due now timeout }

def enterBackoff (manager : Manager) (now : Micros) : Manager :=
  manager.enter .backoff now backoffTime

/-- Turns to the next slot. -/
def advance (manager : Manager) : Manager :=
  { manager with router := (manager.router + 1) % stationCount }

end Manager

/-- The manager with what it reads and writes. -/
structure Association (σ : Type) where
  transport : Transport σ
  store : ConfigStore
  ports : PortTable := .empty
  manager : Manager := {}

namespace Association

variable {σ : Type}

def note (assoc : Association σ) (notice : Notice) : Association σ :=
  { assoc with transport := assoc.transport.note notice }

def setManager (assoc : Association σ) (manager : Manager) : Association σ := { assoc with manager }

/-- The co-processor reports a connection. -/
def enterConnected (assoc : Association σ) (telemetry : Telemetry) : Association σ :=
  let now := assoc.transport.now
  let manager := assoc.manager.enter .connected now Manager.portsInterval
  if telemetry.isAccessPoint then (assoc.setManager manager).note .accessPointUp
  else (assoc.setManager { manager with connects := manager.connects + 1 }).note .connected

/-- An access point needs a password of eight bytes. -/
def checkPassword (credentials : Credentials) : Except NetworkError Unit :=
  let length := credentials.password.utf8ByteSize
  if length < Credentials.minAccessPointPassword then .error (.apPasswordTooShort length) else .ok ()

variable [Peer σ]

def send (assoc : Association σ) (dataId : UInt8) (payload : Bytes) :
    Except LinkError Unit × Association σ :=
  let (result, transport) := (Transport.send dataId payload).outcome assoc.transport
  (result, { assoc with transport })

/-- Asks to join the network of the current slot. An empty slot is passed over, and the next poll
looks at the next one. -/
def trySlot (assoc : Association σ) (connectTimeout : Micros) : Association σ :=
  let now := assoc.transport.now
  let assoc := assoc.setManager { assoc.manager with generatedAp := false }
  let credentials := assoc.store.config.station assoc.manager.router
  if credentials.isEmpty then assoc.setManager assoc.manager.advance
  else
    match (assoc.note (.connecting credentials.ssid)).send Message.connectId credentials.bytes with
    | (.error error, assoc) => assoc.note (.connectFailed error)
    | (.ok (), assoc) => assoc.setManager (assoc.manager.enter .joining now connectTimeout)

/-- Asks for an access point. -/
def startAccessPoint (assoc : Association σ) (credentials : Credentials)
    (connectTimeout : Micros) : Association σ :=
  let now := assoc.transport.now
  match (assoc.note (.startingAccessPoint credentials.ssid)).send Message.accessPointId
    credentials.bytes with
  | (.error error, assoc) => assoc.note (.accessPointFailed error)
  | (.ok (), assoc) => assoc.setManager (assoc.manager.enter .apJoining now connectTimeout)

/-- Offers the configured access point, or a generated one when none is configured. A configured
one with a short password is switched off instead. The hardware address is known only after the
first INFO message, and before that nothing is done. -/
def offerAccessPoint (assoc : Association σ) (telemetry : Telemetry)
    (connectTimeout : Micros) : Association σ :=
  if telemetry.mac = Octets.zero 6 then assoc
  else
    let credentials := assoc.store.config.accessPoint
    if credentials.isEmpty then
      (assoc.setManager { assoc.manager with generatedAp := true }).startAccessPoint
        (Credentials.generated telemetry.mac) connectTimeout
    else
      match checkPassword credentials with
      | .error error =>
        let assoc := assoc.note (.accessPointDisabled error)
        { assoc with
          store := assoc.store.write (.accessPointEnabled false)
          manager := assoc.manager.enterBackoff assoc.transport.now }
      | .ok () =>
        (assoc.setManager { assoc.manager with generatedAp := false }).startAccessPoint
          credentials connectTimeout

def select (assoc : Association σ) (telemetry : Telemetry) (connectTimeout : Micros) :
    Association σ :=
  let config := assoc.store.config
  if !config.accessPointEnabled && !config.noStations then assoc.trySlot connectTimeout
  else assoc.offerAccessPoint telemetry connectTimeout

/-- Sends a copy of the port table. -/
def pushPorts (assoc : Association σ) : Association σ :=
  let now := assoc.transport.now
  let pushed :=
    match assoc.send Message.portsId assoc.ports.bytes with
    | (.ok (), assoc) => { assoc with ports := assoc.ports.clearChanged }
    | (.error error, assoc) => assoc.note (.portsPushFailed error)
  pushed.setManager { pushed.manager with alarm := .due now Manager.portsInterval }

/-- One step. -/
def poll (assoc : Association σ) (telemetry : Telemetry) (connectTimeout : Micros) :
    Association σ :=
  let now := assoc.transport.now
  let manager := assoc.manager
  match manager.phase with
  | .select =>
    if telemetry.isConnected then assoc.enterConnected telemetry
    else if assoc.transport.isReady then assoc.select telemetry connectTimeout
    else assoc
  | .joining =>
    if telemetry.isConnected then assoc.enterConnected telemetry
    else if manager.alarm.expired now then
      (assoc.note (.joinTimedOut manager.router)).setManager (manager.advance.enterBackoff now)
    else assoc
  | .apJoining =>
    if telemetry.isConnected then assoc.enterConnected telemetry
    else if manager.alarm.expired now then assoc.setManager (manager.enterBackoff now)
    else assoc
  | .backoff =>
    if telemetry.isConnected then assoc.enterConnected telemetry
    else if manager.alarm.expired now then assoc.setManager manager.restart
    else assoc
  | .connected =>
    if !telemetry.isConnected then
      (assoc.note .disconnected).setManager (manager.enterBackoff now)
    else if (assoc.ports.changed || manager.alarm.expired now) && assoc.transport.isReady then
      assoc.pushPorts
    else assoc

end Association

end RadioLink
