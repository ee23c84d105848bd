import Peripherals.Pin.Basic

/-!
# `Peripherals.Cli.Header` — the pins of the forty-pin header

The keys are the numbers that the processor gives its lines.
-/

namespace Peripherals.Cli

/-- A line that goes both ways. -/
def line (interrupt : Bool) : Channel := .digital true true interrupt

/-- A pin named after its number. -/
def numbered (key : UInt16) (channels : List Channel) : Pin := ⟨s!"GPIO{key}", key, channels⟩

/-- The pins of the header: first those with a duty of their own, then the plain lines. -/
def headerPins : List Pin :=
  [numbered 2 [.twoWire 1 .data, line false], numbered 3 [.twoWire 1 .clock, line false],
    numbered 11 [.fourWire 0 .clock], numbered 10 [.fourWire 0 .dataOut], numbered 9 [.fourWire 0 .dataIn],
    numbered 18 [.pwm 0 0, line true]] ++
  [4, 5, 6, 8, 12, 13, 16, 17, 22, 23, 24, 25, 26, 27].map fun key => numbered key [line true]

/-- The pin of the two-wire clock. -/
def clockPin : String := "GPIO3"

/-- The pin of the two-wire data. -/
def dataPin : String := "GPIO2"

end Peripherals.Cli
