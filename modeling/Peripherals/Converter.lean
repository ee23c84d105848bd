import Peripherals.Hardware
import Peripherals.Voltage

/-!
# `Peripherals.Converter` — the analog converter

One converter serves every analog pin. Its raw readings are scaled against a reference.
-/

namespace Peripherals

/-- The analog converter of a board. -/
structure Converter where
  /-- The reading that stands for the reference voltage; at least one. -/
  maxRaw : UInt32
  deriving DecidableEq, Repr

namespace Converter

/-- A converter whose largest reading is `maxRaw`, or one if that is zero. -/
def new (maxRaw : UInt32) : Converter := ⟨if maxRaw = 0 then 1 else maxRaw⟩

/-- A converter as diagnostics show it. -/
def describe (c : Converter) : String := s!"AnalogConverter \x7b max_raw: {c.maxRaw}, .. \x7d"

/-- One conversion on a pin. -/
def readRaw (pin : Pin) : Attempt Bus.Error UInt32 := do
  let rx ← Hardware.issue { opcode := .convert, target := pin.key, rx := Bytes.zeros 4 }
  pure (((Bytes.takeWord32? rx).map (·.1)).getD 0)

/-- A raw reading against a reference. -/
def toVoltage (c : Converter) (raw : UInt32) (reference : Voltage) : Voltage :=
  ⟨raw.toFloat * reference.volts / c.maxRaw.toFloat⟩

/-- One conversion on a pin against a reference. -/
def readVoltage (c : Converter) (pin : Pin) (reference : Voltage) : Attempt Bus.Error Voltage := do
  let raw ← readRaw pin
  pure (c.toVoltage raw reference)

end Converter

end Peripherals
