/-!
The grammar of the command line. Most options take their value after an equals sign only, as in
`--tty=/dev/ttyUSB0` or `-t=/dev/ttyUSB0`; the network options also take it as the next argument
and may be repeated. Equals signs in front of a value are not part of it, and dashes in front of a
long name count as two. What is wrong about single arguments is found in their order; counts and
allowed values are checked at the end.
-/

namespace RadioLink.CommandLine

inductive OptionName where
  | tty | baudRate | dataBits | stopBits | parity | flowControl | stub | ssid | password | apSsid
  | apPassword | fwMd5 | fwLen
  deriving DecidableEq, Repr

namespace OptionName

def all : List OptionName :=
  [tty, baudRate, dataBits, stopBits, parity, flowControl, stub, ssid, password, apSsid, apPassword,
    fwMd5, fwLen]

def long : OptionName → String
  | tty => "tty"
  | baudRate => "baud-rate"
  | dataBits => "data-bits"
  | stopBits => "stop-bits"
  | parity => "parity"
  | flowControl => "flow-control"
  | stub => "stub"
  | ssid => "ssid"
  | password => "password"
  | apSsid => "ap-ssid"
  | apPassword => "ap-password"
  | fwMd5 => "fw-md5"
  | fwLen => "fw-len"

def short : OptionName → Option Char
  | tty => some 't'
  | baudRate => some 'b'
  | dataBits => some 'd'
  | stopBits => some 's'
  | parity => some 'p'
  | flowControl => some 'f'
  | _ => none

/-- The values that an option is limited to. -/
def allowed : OptionName → Option (List String)
  | dataBits => some ["5", "6", "7", "8"]
  | stopBits => some ["1", "2"]
  | parity => some ["none", "odd", "even"]
  | flowControl => some ["none", "soft", "hard"]
  | _ => none

/-- Options that may be repeated; their value may also be the next argument, and may be empty. -/
def repeatable : OptionName → Bool
  | ssid | password => true
  | _ => false

/-- How many values an option takes in all. -/
def maxValues (option : OptionName) : Nat := if option.repeatable then 4 else 1

def ofLong? (name : String) : Option OptionName := all.find? fun option => option.long = name

def ofShort? (c : Char) : Option OptionName := all.find? fun option => option.short = some c

end OptionName

inductive FlagName where
  | enableAp | verbose | help | version
  deriving DecidableEq, Repr

namespace FlagName

def ofLong? (name : String) : Option FlagName :=
  if name = "enable-ap" then some enableAp
  else if name = "help" then some help
  else if name = "version" then some version
  else none

def ofShort? (c : Char) : Option FlagName :=
  if c = 'v' then some verbose
  else if c = 'h' then some help
  else if c = 'V' then some version
  else none

end FlagName

/-- Why reading the arguments ended early. -/
inductive Stop where
  | usage
  | help
  | version
  deriving DecidableEq, Repr

/-- The arguments read so far, in order. -/
structure Arguments where
  occurrences : List OptionName := []
  values : List (OptionName × String) := []
  flags : List FlagName := []
  image : Option String := none
  /-- An option without a value yet, which the next argument may bring. -/
  awaiting : Option OptionName := none
  /-- A double dash was seen: everything else is the image. -/
  trailing : Bool := false
  deriving DecidableEq, Repr, Inhabited

namespace Arguments

def addValue (arguments : Arguments) (option : OptionName) (value : String) : Arguments :=
  { arguments with values := arguments.values ++ [(option, value)], awaiting := none }

def addOccurrence (arguments : Arguments) (option : OptionName) : Arguments :=
  { arguments with occurrences := arguments.occurrences ++ [option] }

/-- The only argument that is no option is the path of the image. -/
def addImage (arguments : Arguments) (value : String) : Except Stop Arguments :=
  if arguments.image.isSome then .error .usage else .ok { arguments with image := some value }

def addFlag (arguments : Arguments) : FlagName → Except Stop Arguments
  | .help => .error .help
  | .version => .error .version
  | flag => .ok { arguments with flags := arguments.flags ++ [flag], awaiting := none }

/-- An option with the text attached to it, if any. `equals` tells whether that text followed an
equals sign that is no longer part of it. -/
def addOption (arguments : Arguments) (option : OptionName) (attached : Option (List Char))
    (equals : Bool) : Except Stop Arguments :=
  let arguments := arguments.addOccurrence option
  match attached with
  | some text =>
    let value := text.dropWhile (· = '=')
    let marked := equals || text.head? = some '='
    if !option.repeatable && (value.isEmpty || !marked) then .error .usage
    else .ok (arguments.addValue option (String.ofList value))
  | none =>
    if option.repeatable then .ok { arguments with awaiting := some option } else .error .usage

/-- An argument with two dashes in front. -/
def addLong (arguments : Arguments) (text : List Char) : Except Stop Arguments :=
  let name := String.ofList (text.takeWhile (· ≠ '='))
  let attached := (text.dropWhile (· ≠ '=')).tail?
  match OptionName.ofLong? name with
  | some option => arguments.addOption option attached attached.isSome
  | none =>
    match FlagName.ofLong? name with
    | some flag => arguments.addFlag flag
    | none => .error .usage

/-- An argument with one dash in front: any number of flags, and then possibly an option with the
rest attached. -/
def addShort (arguments : Arguments) : List Char → Except Stop Arguments
  | [] => .ok arguments
  | c :: rest =>
    match OptionName.ofShort? c with
    | some option => arguments.addOption option (if rest.isEmpty then none else some rest) false
    | none =>
      match FlagName.ofShort? c with
      | some flag =>
        match arguments.addFlag flag with
        | .ok next => next.addShort rest
        | .error stop => .error stop
      | none => .error .usage

def add (arguments : Arguments) (argument : String) : Except Stop Arguments :=
  if arguments.trailing then arguments.addImage argument
  else
    match argument.toList with
    | ['-', '-'] => .ok { arguments with trailing := true }
    | '-' :: '-' :: rest => arguments.addLong (rest.dropWhile (· = '-'))
    | '-' :: c :: rest => arguments.addShort (c :: rest)
    | _ =>
      match arguments.awaiting with
      | some option => .ok (arguments.addValue option argument)
      | none => arguments.addImage argument

def valuesOf (arguments : Arguments) (option : OptionName) : List String :=
  (arguments.values.filter fun entry => entry.1 = option).map Prod.snd

def valueOf? (arguments : Arguments) (option : OptionName) : Option String :=
  (arguments.valuesOf option).head?

/-- An option was used as often as it may be, with values it may have. An option that was used at
all has a value; one without a value of its own may stand beside one that has. -/
def optionValid (arguments : Arguments) (option : OptionName) : Bool :=
  let values := arguments.valuesOf option
  let count := arguments.occurrences.count option
  values.length ≤ option.maxValues && (option.repeatable || count ≤ 1) &&
    (count = 0 || !values.isEmpty) &&
    values.all fun value => (option.allowed.map fun known => known.contains value).getD true

def valid (arguments : Arguments) : Bool :=
  OptionName.all.all arguments.optionValid && arguments.flags.count .enableAp ≤ 1

/-- Reads all arguments. -/
def parse (texts : List String) : Except Stop Arguments := do
  let arguments ← texts.foldlM add {}
  if arguments.valid then pure arguments else throw .usage

/-- How often more output was asked for. -/
def verbosity (arguments : Arguments) : Nat := arguments.flags.count .verbose

end Arguments

end RadioLink.CommandLine
