import Peripherals.Port.Claim

/-!
# `Peripherals.Port.Digital` — output and input ports

* `OutputPort` — a line that is driven high or low; the port knows the last level written;
* `InputPort` — a line that is read as high or low.
-/

namespace Peripherals

/-- How an output drives its line. -/
inductive OutputKind where
  | pushPull
  | openDrain
  deriving DecidableEq, Repr

/-- The resistor on an input line. -/
inductive Resistor where
  | disabled
  | pullUp
  | pullDown
  deriving DecidableEq, Repr

/-- The edges that raise an interrupt. -/
inductive Interrupt where
  | none
  | rising
  | falling
  | both
  deriving DecidableEq, Repr

namespace Port

/-- The configuration of an input line. -/
def inputFlags (resistor : Resistor) (interrupt : Interrupt) : Driver.PinFlags where
  pullUp := resistor == .pullUp
  pullDown := resistor == .pullDown
  risingInterrupt := interrupt == .rising || interrupt == .both
  fallingInterrupt := interrupt == .falling || interrupt == .both

/-- The configuration of an output line. -/
def outputFlags (initial : Bool) (kind : OutputKind) : Driver.PinFlags where
  output := true
  initialHigh := initial
  openDrain := kind == .openDrain

end Port

/-! ## Outputs -/

/-- A line that is driven. -/
structure OutputPort where
  claim : Port.Claim
  /-- The last level written. -/
  level : Bool
  kind : OutputKind
  deriving Repr

namespace OutputPort

/-- The pin of the port. -/
def pin (p : OutputPort) : Pin := p.claim.pin

/-- Claims a pin as an output and drives it to `initial`. -/
def create (pin : Pin) (initial : Bool) (kind : OutputKind) : Attempt Port.Error OutputPort := do
  let claim ← Port.Claim.acquire pin .digitalOutput
  claim.orRelease (Port.configure pin (Port.outputFlags initial kind) [])
  Hardware.tell [⟨.debug, s!"Digital output on {pin.name}, initial state {initial}"⟩]
  pure ⟨claim, initial, kind⟩

/-- Drives the line. The level is remembered once the driver has taken it. -/
def write (p : OutputPort) (level : Bool) : Action (Except Bus.Error Unit × OutputPort) := do
  match ← (Port.drive p.pin level).run with
  | .ok () => pure (.ok (), { p with level })
  | .error e => pure (.error e, p)

/-- Drives the line to the other level; the answer is the new level. -/
def toggle (p : OutputPort) : Action (Except Bus.Error Bool × OutputPort) := do
  let next := !p.level
  let (result, p) ← p.write next
  pure (result.map fun () => next, p)

/-- Ends the port. -/
def close (p : OutputPort) : Action Unit := Port.close p.claim

end OutputPort

/-! ## Inputs -/

/-- A line that is read. -/
structure InputPort where
  claim : Port.Claim
  resistor : Resistor
  deriving Repr

namespace InputPort

/-- The pin of the port. -/
def pin (p : InputPort) : Pin := p.claim.pin

/-- Claims a pin as an input. -/
def create (pin : Pin) (resistor : Resistor) : Attempt Port.Error InputPort := do
  let claim ← Port.Claim.acquire pin .digitalInput
  claim.orRelease (Port.configure pin (Port.inputFlags resistor .none) [])
  pure ⟨claim, resistor⟩

/-- Reads the line. -/
def read (p : InputPort) : Attempt Bus.Error Bool := Port.sense p.pin

/-- Ends the port. -/
def close (p : InputPort) : Action Unit := Port.close p.claim

end InputPort

end Peripherals
