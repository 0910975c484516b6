import RadioLink.Credentials

/-!
The persisted configuration. The link reads all of it and writes back four things; the store keeps
every such write, also one that changes nothing.
-/

namespace RadioLink

/-- The firmware that the co-processor should run. -/
structure FirmwareDescriptor where
  /-- Image length without the digest at its end. -/
  length : UInt32 := 0
  md5 : Digest := Octets.zero 16
  deriving DecidableEq, Repr

/-- How many networks can be configured. -/
def stationCount : Nat := 4

structure Config where
  stations : Vector Credentials stationCount := Vector.replicate stationCount .blank
  accessPointEnabled : Bool := false
  accessPoint : Credentials := .blank
  firmware : FirmwareDescriptor := {}
  deviceId : UInt64 := 0
  ip : Address := {}
  subnet : Address := {}
  dns : Address := {}
  deriving DecidableEq, Repr

namespace Config

/-- The credentials of a slot; a slot that does not exist is empty. -/
def station (config : Config) (slot : Nat) : Credentials := config.stations[slot]?.getD .blank

/-- No slot has a network configured. -/
def noStations (config : Config) : Bool := config.stations.all Credentials.isEmpty

/-- Fills a slot; a slot that does not exist is left alone. -/
def setStation (config : Config) (slot : Nat) (credentials : Credentials) : Config :=
  { config with stations := config.stations.setIfInBounds slot credentials }

/-- Fills slots from `slot` on with pairs of a name and a password. The name of a pair that does not
fit is the error. -/
def fillStations (config : Config) (slot : Nat) : List (String × String) → Except String Config
  | [] => .ok config
  | (ssid, password) :: rest =>
    match Credentials.ofTexts? ssid password with
    | some credentials => (config.setStation slot credentials).fillStations (slot + 1) rest
    | none => .error ssid

end Config

/-- What the link writes back to the configuration. -/
inductive ConfigWrite where
  | accessPointEnabled (enabled : Bool)
  | firmwareMd5 (md5 : Digest)
  | deviceId (id : UInt64)
  | network (ip subnet dns : Address)
  deriving DecidableEq, Repr

def Config.apply (config : Config) : ConfigWrite → Config
  | .accessPointEnabled enabled => { config with accessPointEnabled := enabled }
  | .firmwareMd5 md5 => { config with firmware := { config.firmware with md5 } }
  | .deviceId id => { config with deviceId := id }
  | .network ip subnet dns => { config with ip, subnet, dns }

/-- A configuration with the writes made to it, latest first. -/
structure ConfigStore where
  config : Config := {}
  writes : List ConfigWrite := []
  deriving DecidableEq, Repr

def ConfigStore.write (store : ConfigStore) (change : ConfigWrite) : ConfigStore :=
  ⟨store.config.apply change, change :: store.writes⟩

/-- Forgets the writes and keeps their effect. -/
def ConfigStore.forget (store : ConfigStore) : ConfigStore := { store with writes := [] }

end RadioLink
