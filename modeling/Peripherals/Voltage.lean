import Peripherals.Decimal.Fixed

/-!
# `Peripherals.Voltage` — electrical potentials
-/

namespace Peripherals

/-- An electrical potential. -/
structure Voltage where
  volts : Float

namespace Voltage

/-- A potential given in millivolts. -/
def ofMillivolts (mv : Float) : Voltage := ⟨mv / 1000.0⟩

/-- A potential in millivolts. -/
def millivolts (v : Voltage) : Float := v.volts * 1000.0

/-- The sum of readings, added up from the left. The empty sum is the negative zero, which changes nothing that
is added to it. -/
def total (vs : List Voltage) : Float := vs.foldl (fun sum v => sum + v.volts) (-0.0)

/-- The arithmetic mean of readings; there is none of no readings. -/
def mean? (vs : List Voltage) : Option Voltage :=
  if vs.isEmpty then none else some ⟨total vs / Float.ofNat vs.length⟩

/-- A potential with three decimal places. -/
def text (v : Voltage) : String := Decimal.fixed 3 v.volts ++ " V"

theorem mean?_eq_none_iff {vs : List Voltage} : mean? vs = none ↔ vs = [] := by
  cases vs <;> simp [mean?]

end Voltage

end Peripherals
