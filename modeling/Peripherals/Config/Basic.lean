import Peripherals.Duration
import Peripherals.Mac
import Peripherals.Port.Analog

/-!
# `Peripherals.Config.Basic` — the settings of a board

* `Config` — four sections, each with defaults;
* `Config.check` — the ranges that settings have to keep, in a fixed order;
* `Config.Error` — why settings are refused.
-/

namespace Peripherals

/-! ## Sections -/

/-- How analog ports sample unless they are told otherwise. -/
structure AnalogConfig where
  sampleCount : UInt64 := 5
  sampleIntervalMs : UInt64 := 40
  updateIntervalMs : UInt64 := 1000
  /-- The reference of the converter in volts. -/
  referenceVoltage : Float := 3.3
  maxRawValue : UInt32 := 4095

/-- The clock of a bus. -/
structure BusConfig where
  defaultHz : UInt32
  supportedHz : List UInt32
  deriving DecidableEq, Repr

/-- The clock of two-wire buses unless they are told otherwise. -/
def BusConfig.twoWire : BusConfig := ⟨100000, [100000, 400000, 1000000]⟩

/-- The clock of four-wire buses unless they are told otherwise. -/
def BusConfig.fourWire : BusConfig :=
  ⟨375000, [375000, 750000, 1500000, 3000000, 6000000, 12000000, 24000000, 48000000]⟩

/-- The settings of a wireless adapter. -/
structure WirelessConfig where
  autoConnect : Bool := false
  autoReconnect : Bool := true
  defaultSsid : Option String := none
  maximumRetryCount : UInt32 := 7
  scanPeriodMs : UInt64 := 5000
  connectPollIntervalMs : UInt64 := 500
  macAddress : Option String := none
  softApMacAddress : Option String := none
  deriving DecidableEq, Repr

/-- The settings of a board. -/
structure Config where
  analog : AnalogConfig := {}
  twoWire : BusConfig := .twoWire
  fourWire : BusConfig := .fourWire
  wireless : WirelessConfig := {}

namespace Config

/-- The settings that hold where nothing is said. -/
def standard : Config := {}

instance : Inhabited Config := ⟨standard⟩

/-- How analog ports sample under these settings. -/
def analogOptions (c : AnalogConfig) : AnalogOptions where
  count := c.sampleCount.toNat
  sampleInterval := .ofMillis c.sampleIntervalMs.toNat
  updateInterval := .ofMillis c.updateIntervalMs.toNat
  reference := ⟨c.referenceVoltage⟩

/-- The time between two scans. -/
def scanPeriod (c : WirelessConfig) : Duration := .ofMillis c.scanPeriodMs.toNat

/-! ## Ranges -/

/-- The shortest time between two scans. -/
def minScanPeriod : Duration := .ofMillis 1000

/-- The longest time between two scans. -/
def maxScanPeriod : Duration := .ofMillis 60000

/-- A setting out of its range. -/
inductive Defect where
  | sampleCount
  | referenceVoltage
  | maxRawValue
  | noTwoWireSpeeds
  | noFourWireSpeeds
  | scanPeriod (ms : UInt64)
  | connectPollInterval
  | macAddress (cause : Hex.Error)
  | softApMacAddress (cause : Hex.Error)
  deriving DecidableEq, Repr

/-- The wording of a defect. -/
def Defect.message : Defect → String
  | .sampleCount => "analog.sample_count must be at least 1"
  | .referenceVoltage => "analog.reference_voltage must be positive"
  | .maxRawValue => "analog.max_raw_value must be positive"
  | .noTwoWireSpeeds => "i2c.supported_frequencies_hz must not be empty"
  | .noFourWireSpeeds => "spi.supported_frequencies_hz must not be empty"
  | .scanPeriod ms => s!"wifi.scan_period_ms must be between 1000 and 60000, got {ms}"
  | .connectPollInterval => "wifi.connect_poll_interval_ms must be positive"
  | .macAddress cause => s!"wifi.mac_address: {cause.message}"
  | .softApMacAddress cause => s!"wifi.soft_ap_mac_address: {cause.message}"

/-- Refuses a text that is no hardware address, if there is one. -/
def checkMac (text : Option String) (defect : Hex.Error → Defect) : Except Defect Unit :=
  match text.map Mac.parse with
  | some (.error e) => .error (defect e)
  | _ => .ok ()

/-- Refuses settings that hold a defect `d` whenever `bad`. -/
def refuseIf (bad : Bool) (d : Defect) : Except Defect Unit := if bad then .error d else .ok ()

/-- **The ranges of all settings**, in the order in which they are checked. -/
def check (c : Config) : Except Defect Unit := do
  refuseIf (c.analog.sampleCount == 0) .sampleCount
  refuseIf (!(0.0 < c.analog.referenceVoltage : Bool)) .referenceVoltage
  refuseIf (c.analog.maxRawValue == 0) .maxRawValue
  refuseIf c.twoWire.supportedHz.isEmpty .noTwoWireSpeeds
  refuseIf c.fourWire.supportedHz.isEmpty .noFourWireSpeeds
  refuseIf (c.wireless.scanPeriodMs < 1000 || 60000 < c.wireless.scanPeriodMs)
    (.scanPeriod c.wireless.scanPeriodMs)
  refuseIf (c.wireless.connectPollIntervalMs == 0) .connectPollInterval
  checkMac c.wireless.macAddress .macAddress
  checkMac c.wireless.softApMacAddress .softApMacAddress

end Config

end Peripherals
