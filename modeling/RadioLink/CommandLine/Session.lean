import RadioLink.CommandLine.Arguments
import RadioLink.CommandLine.Numbers
import RadioLink.Config
import RadioLink.Log
import RadioLink.Settings

/-!
From arguments to a session: the settings and the configuration that they ask for, what is said
about values that make no sense, and how a run of the program goes.
-/

namespace RadioLink.CommandLine

/-- What makes a session impossible. -/
inductive Complaint where
  | invalidValue (option : OptionName) (value : String)
  | credentialsTooLong (ssid : String)
  | portRefused (fault : Fault)
  deriving DecidableEq, Repr

def Complaint.text : Complaint → String
  | invalidValue option value =>
    "error: `" ++ option.long ++ "` has an invalid value\n   --> `" ++ value ++
      "` is not a valid value\n"
  | credentialsTooLong ssid =>
    "error: `" ++ ssid ++ "` and its password must be at most 32 bytes\n"
  | portRefused fault => "error: " ++ fault.text ++ "\n"

/-- A session that can be started. -/
structure Plan where
  settings : Settings
  config : Config
  deriving DecidableEq, Repr

/-- A choice among the values that an option is limited to. -/
def choice {α : Type} (arguments : Arguments) (option : OptionName) (absent : α)
    (read : String → Option α) : α :=
  ((arguments.valueOf? option).bind read).getD absent

/-- Reads the value of an option, if it was given. -/
def valueWith {α : Type} (arguments : Arguments) (option : OptionName) (absent : α)
    (read : String → Option α) : Except Complaint α :=
  match arguments.valueOf? option with
  | none => .ok absent
  | some text =>
    match read text with
    | some value => .ok value
    | none => .error (.invalidValue option text)

def credentials (ssid password : String) : Except Complaint Credentials :=
  match Credentials.ofTexts? ssid password with
  | some credentials => .ok credentials
  | none => .error (.credentialsTooLong ssid)

/-- Each network with its password; one without a password of its own has an empty one. -/
def stations (arguments : Arguments) : List (String × String) :=
  let passwords := arguments.valuesOf .password
  (arguments.valuesOf .ssid).mapIdx fun i ssid => (ssid, passwords.getD i "")

/-- The settings. The flasher stub runs at the baud rate of the application. -/
def settings (arguments : Arguments) : Except Complaint Settings := do
  let baudRate ← valueWith arguments .baudRate 2000000 uint32?
  return { path := arguments.valueOf? .tty
           baudRate
           stubBaudRate := baudRate
           dataBits := choice arguments .dataBits .eight fun text => text.toNat?.bind DataBits.ofNat?
           stopBits := choice arguments .stopBits .one fun text => text.toNat?.bind StopBits.ofNat?
           parity := choice arguments .parity .none Parity.ofWord?
           flowControl := choice arguments .flowControl .none FlowControl.ofWord?
           firmwareImage := some (arguments.image.getD "wifi_firmware.bin")
           stubImage := some ((arguments.valueOf? .stub).getD "esp_stub.bin")
           showProgress := true }

def config (arguments : Arguments) : Except Complaint Config := do
  let joined ← (Config.fillStations {} 0 (stations arguments)).mapError .credentialsTooLong
  let accessPoint ←
    match arguments.valueOf? .apSsid with
    | some ssid => credentials ssid ((arguments.valueOf? .apPassword).getD "")
    | none => .ok .blank
  let length ← valueWith arguments .fwLen 0 uint32?
  let md5 ← valueWith arguments .fwMd5 (Octets.zero 16) digest?
  return { joined with
           accessPoint
           accessPointEnabled := arguments.flags.contains .enableAp
           firmware := { length, md5 } }

/-- The plan of a command line. The baud rate is looked at before the configuration. -/
def plan (arguments : Arguments) : Except Complaint Plan := do
  let settings ← settings arguments
  let config ← config arguments
  return { settings, config }

/-- What the system does about serial ports, and how a session on an open port ends. -/
structure Ports where
  /-- The port that a user selects when none is given. -/
  selected : Option String
  /-- Whether a port appears before the wait for it is given up. -/
  appears : Bool
  /-- How opening a port goes. -/
  opened : Except Fault Unit
  /-- The exit status of a session. -/
  status : Nat

/-- One run of the program. -/
structure Run where
  status : Nat
  /-- What was printed. -/
  output : String
  /-- The session that was started, if one was. -/
  started : Option Plan
  deriving DecidableEq, Repr

def banner : String := "[WC] wificom v0.1.0\n"

def version : String := "wificom v0.1.0\n"

/-- The level that the log is kept at. -/
def logLevel : (verbosity : Nat) → Level
  | 0 => .warn
  | 1 => .info
  | 2 => .debug
  | _ => .trace

/-- A record of the log as it is printed. -/
def recordLine (threshold : Level) (notice : Notice) : String :=
  if notice.level.keptAt threshold then
    "[" ++ notice.level.name.toUpper ++ "] " ++ notice.text ++ "\n"
  else ""

/-- The exit status after a complaint. -/
def complaintStatus : Nat := 255

/-- Finds a port for a session and starts it. -/
def startSession (plan : Plan) (level : Level) (ports : Ports) : Run :=
  match plan.settings.path.or ports.selected with
  | none => ⟨0, banner, none⟩
  | some path =>
    if !ports.appears then ⟨0, banner, none⟩
    else
      match ports.opened with
      | .error fault => ⟨complaintStatus, banner ++ (Complaint.portRefused fault).text, none⟩
      | .ok () =>
        ⟨ports.status, banner ++ recordLine level (.exitStatus ports.status),
          some { plan with settings := { plan.settings with path := some path } }⟩

/-- A whole run: read the arguments, plan the session, start it. -/
def run (texts : List String) (ports : Ports) : Run :=
  match Arguments.parse texts with
  | .error .usage => ⟨1, banner, none⟩
  | .error .help => ⟨0, banner, none⟩
  | .error .version => ⟨0, banner ++ version, none⟩
  | .ok arguments =>
    match plan arguments with
    | .error complaint => ⟨complaintStatus, banner ++ complaint.text, none⟩
    | .ok plan => startSession plan (logLevel arguments.verbosity) ports

end RadioLink.CommandLine
