import Peripherals.Config.Basic
import Peripherals.Json.Reader
import Peripherals.Json.Writer

/-!
# `Peripherals.Config.Document` — settings as JSON

* `Config.parse` — settings read from a text and checked;
* `Config.render` — settings as a text;
* `Config.Error` — why a text or a file is refused.
-/

namespace Peripherals.Config

open Json

/-! ## Reading -/

/-- A 32-bit number. -/
def readWord (o : Outline) : Except Fault UInt32 := (readNatural (UInt32.size - 1) o).map UInt32.ofNat

/-- A 64-bit number. -/
def readLong (o : Outline) : Except Fault UInt64 := (readNatural (UInt64.size - 1) o).map UInt64.ofNat

/-- A member of a record: how its value is read, and where it goes. -/
def field {α β : Type} (name : String) (read : Outline → Except Fault β) (put : α → β → α) : Member α :=
  ⟨name, fun o a => (read o).map (put a)⟩

/-- The members of the analog section. -/
def analogFields : List (Member AnalogConfig) :=
  [field "sample_count" readLong fun c v => { c with sampleCount := v },
    field "sample_interval_ms" readLong fun c v => { c with sampleIntervalMs := v },
    field "update_interval_ms" readLong fun c v => { c with updateIntervalMs := v },
    field "reference_voltage" readReal fun c v => { c with referenceVoltage := v },
    field "max_raw_value" readWord fun c v => { c with maxRawValue := v }]

/-- The members of a section about a bus. -/
def busFields : List (Member BusConfig) :=
  [field "default_frequency_hz" readWord fun c v => { c with defaultHz := v },
    field "supported_frequencies_hz" (readList readWord) fun c v => { c with supportedHz := v }]

/-- The members of the section about the wireless adapter. -/
def wirelessFields : List (Member WirelessConfig) :=
  [field "auto_connect" readBool fun c v => { c with autoConnect := v },
    field "auto_reconnect" readBool fun c v => { c with autoReconnect := v },
    field "default_ssid" (readOptional readText) fun c v => { c with defaultSsid := v },
    field "maximum_retry_count" readWord fun c v => { c with maximumRetryCount := v },
    field "scan_period_ms" readLong fun c v => { c with scanPeriodMs := v },
    field "connect_poll_interval_ms" readLong fun c v => { c with connectPollIntervalMs := v },
    field "mac_address" (readOptional readText) fun c v => { c with macAddress := v },
    field "soft_ap_mac_address" (readOptional readText) fun c v => { c with softApMacAddress := v }]

/-- The sections. -/
def fields : List (Member Config) :=
  [field "analog" (readRecord analogFields {}) fun c v => { c with analog := v },
    field "i2c" (readRecord busFields .twoWire) fun c v => { c with twoWire := v },
    field "spi" (readRecord busFields .fourWire) fun c v => { c with fourWire := v },
    field "wifi" (readRecord wirelessFields {}) fun c v => { c with wireless := v }]

/-- Why a text or a file is refused. -/
inductive Error where
  /-- There is no such file. -/
  | missingFile
  /-- The bytes of a file are no text. -/
  | notText
  | parse (fault : Fault)
  | invalid (defect : Defect)
  deriving DecidableEq, Repr

/-- The wording of an error. A text that is refused is not quoted. -/
def Error.message : Error → String
  | .missingFile => "Failed to read configuration: No such file or directory (os error 2)"
  | .notText => "Failed to read configuration: stream did not contain valid UTF-8"
  | .parse .ended => "Failed to parse configuration: the text ends too early"
  | .parse .malformed => "Failed to parse configuration: the text is not JSON"
  | .parse .mismatch => "Failed to parse configuration: a value does not belong"
  | .invalid defect => s!"Invalid configuration: {defect.message}"

/-- Settings from a text, not checked. -/
def read (text : String) : Except Fault Config := readDocument (readRecord fields standard) text

/-- **Settings from a text.** What the text does not mention stays at its default. -/
def parse (text : String) : Except Error Config := do
  let c ← (read text).mapError .parse
  c.check.mapError .invalid
  pure c

/-- Settings from the content of a file, if there is one. -/
def parseFile : Option Bytes → Except Error Config
  | none => .error .missingFile
  | some bs =>
    match Bytes.text? bs with
    | some text => parse text
    | none => .error .notText

/-! ## Writing -/

/-- A text, or `null`. -/
def optionalText : Option String → Value
  | none => .null
  | some s => .text s

/-- The analog section. -/
def analogValue (c : AnalogConfig) : Value :=
  .object
    [("sample_count", .natural c.sampleCount.toNat), ("sample_interval_ms", .natural c.sampleIntervalMs.toNat),
      ("update_interval_ms", .natural c.updateIntervalMs.toNat), ("reference_voltage", .real c.referenceVoltage),
      ("max_raw_value", .natural c.maxRawValue.toNat)]

/-- A section about a bus. -/
def busValue (c : BusConfig) : Value :=
  .object
    [("default_frequency_hz", .natural c.defaultHz.toNat),
      ("supported_frequencies_hz", .array (c.supportedHz.map fun hz => .natural hz.toNat))]

/-- The section about the wireless adapter. -/
def wirelessValue (c : WirelessConfig) : Value :=
  .object
    [("auto_connect", .bool c.autoConnect), ("auto_reconnect", .bool c.autoReconnect),
      ("default_ssid", optionalText c.defaultSsid), ("maximum_retry_count", .natural c.maximumRetryCount.toNat),
      ("scan_period_ms", .natural c.scanPeriodMs.toNat),
      ("connect_poll_interval_ms", .natural c.connectPollIntervalMs.toNat),
      ("mac_address", optionalText c.macAddress), ("soft_ap_mac_address", optionalText c.softApMacAddress)]

/-- All settings. -/
def value (c : Config) : Value :=
  .object
    [("analog", analogValue c.analog), ("i2c", busValue c.twoWire), ("spi", busValue c.fourWire),
      ("wifi", wirelessValue c.wireless)]

/-- Settings as a text. -/
def render (c : Config) : String := c.value.pretty 0

end Peripherals.Config
