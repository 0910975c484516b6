import RadioLink.Time

/-!
Settings of the serial line and of the protocol on it.
-/

namespace RadioLink

inductive DataBits where
  | five | six | seven | eight
  deriving DecidableEq, Repr

inductive FlowControl where
  | none | software | hardware
  deriving DecidableEq, Repr

inductive Parity where
  | none | odd | even
  deriving DecidableEq, Repr

inductive StopBits where
  | one | two
  deriving DecidableEq, Repr

def DataBits.ofNat? : Nat → Option DataBits
  | 5 => some five
  | 6 => some six
  | 7 => some seven
  | 8 => some eight
  | _ => Option.none

def StopBits.ofNat? : Nat → Option StopBits
  | 1 => some one
  | 2 => some two
  | _ => Option.none

/-- Reads the word that a user writes. -/
def FlowControl.ofWord? : String → Option FlowControl
  | "none" => some none
  | "soft" => some software
  | "hard" => some hardware
  | _ => Option.none

/-- Reads the word that a user writes. -/
def Parity.ofWord? : String → Option Parity
  | "none" => some none
  | "odd" => some odd
  | "even" => some even
  | _ => Option.none

def DataBits.name : DataBits → String
  | five => "Five"
  | six => "Six"
  | seven => "Seven"
  | eight => "Eight"

def FlowControl.name : FlowControl → String
  | none => "None"
  | software => "Software"
  | hardware => "Hardware"

def Parity.name : Parity → String
  | none => "None"
  | odd => "Odd"
  | even => "Even"

def StopBits.name : StopBits → String
  | one => "One"
  | two => "Two"

/-- Everything a user may set. The defaults are those of a session without options. -/
structure Settings where
  /-- Device path of the serial port. -/
  path : Option String := none
  /-- Baud rate once the application firmware runs. -/
  baudRate : UInt32 := 2000000
  /-- Baud rate of the boot loader in the mask ROM. -/
  romBaudRate : UInt32 := 115200
  /-- Baud rate the flasher stub switches to; it is handed to the stub at launch. -/
  stubBaudRate : UInt32 := 2000000
  dataBits : DataBits := .eight
  flowControl : FlowControl := .none
  parity : Parity := .none
  stopBits : StopBits := .one
  /-- Path of the firmware image, which ends with its digest. Without one nothing is flashed. -/
  firmwareImage : Option String := none
  /-- Path of the flasher stub container. -/
  stubImage : Option String := none
  /-- Bound on every wait for readiness or for an answer. -/
  transportTimeout : Micros := 20000
  /-- How long one attempt to join a network may take, in milliseconds. -/
  connectTimeoutMs : Nat := 10000
  /-- How many provisioning cycles are tried before falling back. -/
  maxLoaderTries : Nat := 8
  /-- Draw a progress bar while the image is flashed. -/
  showProgress : Bool := false
  deriving DecidableEq, Repr, Inhabited

def Settings.connectTimeout (settings : Settings) : Micros :=
  Micros.ofMillis settings.connectTimeoutMs

end RadioLink
