import Peripherals.Bus.FourWire
import Peripherals.Bus.TwoWire
import Peripherals.Config.Diagnostics
import Peripherals.Config.Document
import Peripherals.Coprocessor.Error
import Peripherals.Port.Analog
import Peripherals.Port.Bidirectional

/-!
# `Peripherals.Device` — a board

A board has a table of pins, settings and a converter. Its buses and ports are made by the names of their pins.
-/

namespace Peripherals

/-- A board. -/
structure Device where
  pins : List Pin
  config : Config
  converter : Converter

namespace Device

/-- Why a board cannot make something. -/
inductive Error where
  | bus (cause : Bus.Error)
  | port (cause : Port.Error)
  | coprocessor (cause : Coprocessor.Error)
  | unknownPin (name : String)
  deriving DecidableEq, Repr

/-- The wording of an error. -/
def Error.message : Error → String
  | .bus cause => cause.message
  | .port cause => cause.message
  | .coprocessor cause => cause.message
  | .unknownPin name => s!"Unknown pin: {name}"

/-- A board with checked settings. -/
def create (pins : List Pin) (config : Config) : Except Config.Defect (Device × List Log.Line) := do
  config.check
  pure (⟨pins, config, .new config.analog.maxRawValue⟩, [⟨.info, s!"Device ready with {pins.length} pins"⟩])

/-- The pin of that name. -/
def pin (d : Device) (name : String) : Except Error Pin :=
  match Pin.find? d.pins name with
  | some p => .ok p
  | none => .error (.unknownPin name)

/-- The pin of that name, for something that needs hardware. -/
def findPin (d : Device) (name : String) : Attempt Error Pin := ExceptT.mk (pure (d.pin name))

/-- A board as diagnostics show it, with so many pins reserved. -/
def describe (d : Device) (reserved : Nat) : String :=
  s!"Device \x7b pins: {d.pins.length}, reserved: {reserved}, config: {d.config.describe}, .. \x7d"

/-! ## Buses -/

/-- A two-wire bus on the named pins, at the default speed unless another one is asked for. -/
def twoWireBus (d : Device) (clock data : String) (requested : Option UInt32) : Attempt Error TwoWireBus := do
  let clock ← d.findPin clock
  let data ← d.findPin data
  let settings := d.config.twoWire
  (TwoWireBus.create clock data (requested.getD settings.defaultHz) settings.supportedHz).adapt .bus

/-- A four-wire bus on the named pins, with the default settings unless others are asked for. -/
def fourWireBus (d : Device) (clock dataOut dataIn : String) (requested : Option ClockSettings) :
    Attempt Error FourWireBus := do
  let clock ← d.findPin clock
  let dataOut ← d.findPin dataOut
  let dataIn ← d.findPin dataIn
  let settings := d.config.fourWire
  (FourWireBus.create clock dataOut dataIn (requested.getD ⟨settings.defaultHz, .mode0⟩)
    settings.supportedHz).adapt .bus

/-! ## Ports -/

/-- An output on the named pin. -/
def outputPort (d : Device) (name : String) (initial : Bool) (kind : OutputKind) : Attempt Error OutputPort := do
  let pin ← d.findPin name
  (OutputPort.create pin initial kind).adapt .port

/-- An input on the named pin. -/
def inputPort (d : Device) (name : String) (resistor : Resistor) : Attempt Error InputPort := do
  let pin ← d.findPin name
  (InputPort.create pin resistor).adapt .port

/-- A bidirectional port on the named pin. -/
def bidirectionalPort (d : Device) (name : String) (options : BidirectionalOptions) :
    Attempt Error BidirectionalPort := do
  let pin ← d.findPin name
  (BidirectionalPort.create pin options).adapt .port

/-- An analog port on the named pin, sampling as the settings say unless it is told otherwise. -/
def analogPort (d : Device) (name : String) (options : Option AnalogOptions) : Attempt Error AnalogPort := do
  let pin ← d.findPin name
  (AnalogPort.create d.converter pin (options.getD (Config.analogOptions d.config.analog))).adapt .port

end Device

end Peripherals
