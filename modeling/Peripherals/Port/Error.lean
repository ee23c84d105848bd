import Peripherals.Duration
import Peripherals.Hardware

/-!
# `Peripherals.Port.Error` — why a port cannot be made or used
-/

namespace Peripherals.Port

/-- The two filters of an input line. -/
inductive Filter where
  | debounce
  | glitch
  deriving DecidableEq, Repr

/-- How messages call a filter. -/
def Filter.name : Filter → String
  | .debounce => "debounce duration"
  | .glitch => "glitch duration"

/-- Why a port fails. -/
inductive Error where
  /-- The pin cannot be claimed. -/
  | reservation (cause : ReservationError)
  /-- A driver call failed. -/
  | native (cause : Bus.Error)
  /-- The pin cannot raise interrupts. -/
  | noInterrupts (pin : String)
  /-- A filter is set to more than a second. -/
  | durationOutOfRange (filter : Filter) (value : Duration)
  /-- An analog port that is to take no samples. -/
  | noSamples
  /-- Nothing can run tasks in the background. -/
  | noRuntime
  deriving DecidableEq, Repr

/-- The wording of an error. -/
def Error.message : Error → String
  | .reservation cause => cause.message
  | .native cause => cause.message
  | .noInterrupts pin => s!"Pin {pin} is not capable of interrupts"
  | .durationOutOfRange filter value => s!"{filter.name} is out of range (0-1000 ms): {value.text}"
  | .noSamples => "Invalid port configuration: sample count must be at least 1"
  | .noRuntime => "No async runtime available to run the sampling task"

end Peripherals.Port
