import Peripherals.Cli.Arguments
import Peripherals.Cli.Header
import Peripherals.Coprocessor.Frame
import Peripherals.Coprocessor.Payload
import Peripherals.Device

/-!
# `Peripherals.Cli.Run` — what the commands do

Every command works on the header's pins and the simulated driver. It prints a result, or tells one to the log,
or fails with a message and the causes behind it.

* `execute` — one command under given settings;
* `run` — a whole command line, given the content of the files that it may name.
-/

namespace Peripherals.Cli

/-! ## Results -/

/-- Why a command fails: what went wrong, and what was behind it. -/
structure Failure where
  message : String
  causes : List String := []

/-- A failure as it is shown: several causes are numbered. -/
def Failure.text (f : Failure) : String :=
  "Error: " ++ f.message ++
    match f.causes with
    | [] => ""
    | [cause] => s!"\n\nCaused by:\n    {cause}"
    | causes => "\n\nCaused by:" ++
        String.join (causes.zipIdx.map fun (cause, i) => "\n" ++ Text.padLeft 5 ' ' (toString i) ++ ": " ++ cause)

/-- What a command leaves behind. -/
structure Result where
  printed : String := ""
  /-- The messages told to the log, in order. -/
  told : List String := []
  failure : Option Failure := none

/-- A result that is printed. -/
def Result.print (text : String) : Result := { printed := text }

/-- A failure after some messages. -/
def Result.fail (f : Failure) (told : List String) : Result := { told, failure := some f }

/-! ## Commands -/

/-- A line about a pin. -/
def pinLine (p : Pin) : String :=
  Text.padRight 8 p.name ++ " key " ++ Text.padLeft 3 ' ' (toString p.key) ++ s!"  {p.describeChannels}\n"

/-- A line about an access point. -/
def accessPointLine (a : Coprocessor.AccessPoint) : String :=
  let channel := Text.padLeft 2 ' ' (toString a.primaryChannel)
  let strength := Text.padLeft 4 ' ' (toString a.rssi.toInt)
  s!"{Text.padRight 32 a.ssid} {a.bssid.render} ch {channel} {strength} dBm {a.authentication.name}\n"

/-- The report of a scan. -/
def scanReport (points : List Coprocessor.AccessPoint) : String :=
  s!"{points.length} access points\n" ++ String.join (points.map accessPointLine)

/-- A line about an event. -/
def eventLine (e : Coprocessor.Event) : String :=
  s!"{e.function.name} status={e.status.name} payload={Hex.spaced e.payload}\n"

/-- Prints what can be read from the bytes that a text spells. -/
def decoded {α : Type} (hex : String) (read : Bytes → Except Coprocessor.DecodeError α) (report : α → String) :
    Result :=
  match Hex.decode hex with
  | .error e => .fail ⟨e.message, []⟩ []
  | .ok bytes =>
    match read bytes with
    | .error e => .fail ⟨e.message, []⟩ []
    | .ok value => .print (report value)

/-- The word for a level. -/
def levelWord (level : Bool) : String := if level then "high" else "low"

/-- The board of the header. -/
def board (config : Config) : Device := ⟨headerPins, config, .new config.analog.maxRawValue⟩

/-- Tells a message, or fails. -/
def telling (outcome : Except Device.Error String) : Result :=
  match outcome with
  | .ok message => { told := [message] }
  | .error e => .fail ⟨e.message, []⟩ []

/-- Reads from a peripheral. -/
def readBus (config : Config) (address : UInt8) (length : Nat) (register : Option UInt8) :
    Attempt Device.Error String := do
  let bus ← (board config).twoWireBus clockPin dataPin none
  let received ← (bus.transfer address register.toList (Bytes.zeros length)).adapt .bus
  pure s!"0x{Hex.ofNat .upper 2 address.toNat}: {Hex.encode received}"

/-- Reads a digital input, which is closed again. -/
def readPin (config : Config) (pin : String) : Attempt Device.Error String := do
  let port ← (board config).inputPort pin .disabled
  let outcome ← port.read.run
  port.close
  match outcome with
  | .ok level => pure s!"{pin}: {levelWord level}"
  | .error e => throw (.bus e)

/-- Drives a digital output, which is closed again. -/
def writePin (config : Config) (pin : String) (high : Bool) : Attempt Device.Error String := do
  let port ← (board config).outputPort pin high .pushPull
  let (outcome, port) ← port.write high
  port.close
  match outcome with
  | .ok () => pure s!"{pin} driven {levelWord high}"
  | .error e => throw (.bus e)

/-- The addresses that a scan probes. -/
def probed : List UInt8 := (List.range' 0x08 0x70).map UInt8.ofNat

/-- Probes addresses in turn. An address at which nothing answers is passed over; any other error ends the scan. -/
def probe (bus : TwoWireBus) (found : List UInt8) : List UInt8 → Action (List UInt8 × Option Failure)
  | [] => pure (found, none)
  | address :: rest => do
    match ← (bus.read address [0]).run with
    | .ok _ => probe bus (found ++ [address]) rest
    | .error (.noDevice _) | .error (.noAcknowledge _) => probe bus found rest
    | .error e => pure (found, some ⟨s!"probe of 0x{Hex.ofNat .upper 2 address.toNat} failed", [e.message]⟩)

/-- Tells every address at which something answers. -/
def scanBus (config : Config) : Action Result := do
  match ← ((board config).twoWireBus clockPin dataPin none).run with
  | .error e => pure (.fail ⟨e.message, []⟩ [])
  | .ok bus =>
    let (found, failure) ← probe bus [] probed
    let told := found.map fun address => s!"Device: 0x{Hex.ofNat .upper 2 address.toNat}"
    match failure with
    | some f => pure (.fail f told)
    | none => pure { told := told ++ [s!"{found.length} devices found"] }

/-- Carries out a command on fresh hardware. -/
def execute (config : Config) (command : Command) : Result :=
  let onBoard (attempt : Attempt Device.Error String) : Result := telling (attempt.run Hardware.empty).1
  match command with
  | .pins => .print (String.join (headerPins.map pinLine))
  | .showConfig => .print (config.render ++ "\n")
  | .readBus address length register => onBoard (readBus config address length register)
  | .scanBus => ((scanBus config).run Hardware.empty).1
  | .readPin pin => onBoard (readPin config pin)
  | .writePin pin high => onBoard (writePin config pin high)
  | .decodeEvent hex => decoded hex Coprocessor.Event.decode eventLine
  | .decodeScan hex => decoded hex Coprocessor.AccessPoint.decodeList scanReport

/-! ## Command lines -/

/-- What a failure to load settings is called. -/
def loadFailure (path : String) (e : Config.Error) : Failure :=
  let system := match e with
    | .missingFile => ["No such file or directory (os error 2)"]
    | .notText => ["stream did not contain valid UTF-8"]
    | _ => []
  ⟨s!"failed to load {path}", e.message :: system⟩

/-- Carries out a request, given the content of each file that exists. -/
def Request.perform (files : String → Option Bytes) : Request → Result
  | .help => .print helpText
  | .run none command => execute .standard command
  | .run (some path) command =>
    match Config.parseFile (files path) with
    | .ok config => execute config command
    | .error e => .fail (loadFailure path e) []

/-- **Carries out a command line.** -/
def run (files : String → Option Bytes) (line : List String) : Except UsageError Result :=
  (Request.ofWords line).map (Request.perform files)

/-- The exit code of a command line: two if it is refused, one if it fails. -/
def exitCode : Except UsageError Result → UInt32
  | .error _ => 2
  | .ok result => if result.failure.isSome then 1 else 0

end Peripherals.Cli
