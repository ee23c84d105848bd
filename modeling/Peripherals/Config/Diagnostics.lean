import Peripherals.Config.Basic
import Peripherals.Decimal.Shortest
import Peripherals.Text.Quoted

/-!
# `Peripherals.Config.Diagnostics` — settings as diagnostics show them

A record is shown by its name and its members, on one line.
-/

namespace Peripherals.Config

/-- Doubles in diagnostics are positional from `10 ^ (-4)` up to below `10 ^ 16`. Of two equally near texts the
greater one is taken. -/
def diagnosticLayout : Decimal.Layout := ⟨.up, -4, 15, false⟩

/-- A record by its name and its members. -/
def describeRecord (name : String) (members : List (String × String)) : String :=
  s!"{name} \x7b " ++ ", ".intercalate (members.map fun m => s!"{m.1}: {m.2}") ++ " \x7d"

/-- A text that may be missing. -/
def describeOptional : Option String → String
  | none => "None"
  | some s => s!"Some({Text.quoted s})"

/-- The analog section. -/
def describeAnalog (c : AnalogConfig) : String :=
  describeRecord "AnalogConfig"
    [("sample_count", toString c.sampleCount), ("sample_interval_ms", toString c.sampleIntervalMs),
      ("update_interval_ms", toString c.updateIntervalMs),
      ("reference_voltage", (Decimal.shortest? diagnosticLayout c.referenceVoltage).getD "inf"),
      ("max_raw_value", toString c.maxRawValue)]

/-- A section about a bus. -/
def describeBus (name : String) (c : BusConfig) : String :=
  describeRecord name
    [("default_frequency_hz", toString c.defaultHz), ("supported_frequencies_hz", toString c.supportedHz)]

/-- The section about the wireless adapter. -/
def describeWireless (c : WirelessConfig) : String :=
  describeRecord "WiFiConfig"
    [("auto_connect", toString c.autoConnect), ("auto_reconnect", toString c.autoReconnect),
      ("default_ssid", describeOptional c.defaultSsid), ("maximum_retry_count", toString c.maximumRetryCount),
      ("scan_period_ms", toString c.scanPeriodMs),
      ("connect_poll_interval_ms", toString c.connectPollIntervalMs),
      ("mac_address", describeOptional c.macAddress),
      ("soft_ap_mac_address", describeOptional c.softApMacAddress)]

/-- **All settings on one line.** -/
def describe (c : Config) : String :=
  describeRecord "HalConfig"
    [("analog", describeAnalog c.analog), ("i2c", describeBus "I2cConfig" c.twoWire),
      ("spi", describeBus "SpiConfig" c.fourWire), ("wifi", describeWireless c.wireless)]

end Peripherals.Config
