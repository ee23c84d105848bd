import Peripherals.Broadcast
import Peripherals.Port.Digital

/-!
# `Peripherals.Port.Bidirectional` — a line that changes direction

The pin is held as a digital input whatever its direction. Reading turns the port into an input and writing turns
it into an output. Inputs may raise interrupts and pass two filters of at most a second each.

* `BidirectionalPort.create` — checks, claims and configures;
* `BidirectionalPort.setDirection`, `setFilter` — reprogram the pin;
* `BidirectionalPort.interrupt` — tells subscribers of an edge.
-/

namespace Peripherals

/-- Which way a line goes. -/
inductive Direction where
  | input
  | output
  deriving DecidableEq, Repr

/-- The name of a direction. -/
def Direction.name : Direction → String
  | .input => "Input"
  | .output => "Output"

/-- An edge on a line: the level after it, and the level before it. -/
structure Edge where
  level : Bool
  previous : Bool
  deriving DecidableEq, Repr

/-- How a bidirectional port is to be set up. -/
structure BidirectionalOptions where
  initial : Bool
  interrupt : Interrupt
  resistor : Resistor
  direction : Direction
  debounce : Duration
  glitch : Duration
  kind : OutputKind
  deriving Repr

/-- A line that changes direction. -/
structure BidirectionalPort where
  claim : Port.Claim
  options : BidirectionalOptions
  direction : Direction
  debounce : Duration
  glitch : Duration
  edges : Broadcast Edge
  deriving Repr

namespace BidirectionalPort

/-- The pin of the port. -/
def pin (p : BidirectionalPort) : Pin := p.claim.pin

/-! ## Configuration calls -/

/-- The longest filter. -/
def maxFilter : Duration := .ofMillis 1000

/-- Refuses a filter that is too long. -/
def checkFilter (filter : Port.Filter) (value : Duration) : Except Port.Error Unit :=
  if value ≤ maxFilter then .ok () else .error (.durationOutOfRange filter value)

/-- The two filters in whole milliseconds. -/
def filterPayload (debounce glitch : Duration) : Bytes :=
  Bytes.ofWord16 (UInt16.ofNat debounce.millis) ++ Bytes.ofWord16 (UInt16.ofNat glitch.millis)

/-- Programs a pin as an input. -/
def configureInput (pin : Pin) (options : BidirectionalOptions) (debounce glitch : Duration) :
    Attempt Bus.Error Unit :=
  Port.configure pin (Port.inputFlags options.resistor options.interrupt) (filterPayload debounce glitch)

/-- Programs a pin as an output. Interrupts and filters are switched off before the pin starts to drive. -/
def configureOutput (pin : Pin) (options : BidirectionalOptions) : Attempt Bus.Error Unit := do
  Port.configure pin (Port.inputFlags options.resistor .none) (filterPayload .zero .zero)
  Port.configure pin (Port.outputFlags options.initial options.kind) []

/-- Programs a pin for a direction. -/
def program (pin : Pin) (options : BidirectionalOptions) (debounce glitch : Duration) :
    Direction → Attempt Bus.Error Unit
  | .input => configureInput pin options debounce glitch
  | .output => configureOutput pin options

/-! ## Making and ending ports -/

/-- What can be refused before the pin is asked for. A pin without a digital channel does not fit; interrupts need
a first digital channel that goes both ways and raises them. -/
def check (pin : Pin) (options : BidirectionalOptions) : Except Port.Error Unit := do
  match pin.digitalChannel? with
  | none => throw (.reservation (.unsupported pin.name .digitalInput pin.describeChannels))
  | some channel =>
    let needed := (Capabilities.interrupt.union .digitalInput).union .digitalOutput
    if options.interrupt ≠ .none ∧ !channel.capabilities.contains needed then
      throw (.noInterrupts pin.name)
  checkFilter .debounce options.debounce
  checkFilter .glitch options.glitch

/-- Claims a pin and programs it. -/
def create (pin : Pin) (options : BidirectionalOptions) : Attempt Port.Error BidirectionalPort := do
  ExceptT.mk (pure (check pin options))
  let claim ← Port.Claim.acquireUnchecked pin .digitalInput
  claim.orRelease (program pin options options.debounce options.glitch options.direction)
  pure ⟨claim, options, options.direction, options.debounce, options.glitch, .ofNotices⟩

/-- Ends the port. -/
def close (p : BidirectionalPort) : Action Unit := Port.close p.claim

/-! ## Using ports -/

/-- Turns the line. Nothing is called if it goes that way already. -/
def setDirection (p : BidirectionalPort) (direction : Direction) :
    Action (Except Bus.Error Unit × BidirectionalPort) :=
  if p.direction = direction then pure (.ok (), p)
  else do
    match ← (program p.pin p.options p.debounce p.glitch direction).run with
    | .ok () =>
      Hardware.tell [⟨.debug, s!"{p.pin.name} switched to {direction.name}"⟩]
      pure (.ok (), { p with direction })
    | .error e => pure (.error e, p)

/-- Reads the line, which becomes an input. -/
def read (p : BidirectionalPort) : Action (Except Bus.Error Bool × BidirectionalPort) := do
  match ← p.setDirection .input with
  | (.error e, p) => pure (.error e, p)
  | (.ok (), p) => pure (← (Port.sense p.pin).run, p)

/-- Drives the line, which becomes an output. -/
def write (p : BidirectionalPort) (level : Bool) : Action (Except Bus.Error Unit × BidirectionalPort) := do
  match ← p.setDirection .output with
  | (.error e, p) => pure (.error e, p)
  | (.ok (), p) => pure (← (Port.drive p.pin level).run, p)

/-- The port with another filter. -/
def withFilter (p : BidirectionalPort) (filter : Port.Filter) (value : Duration) : BidirectionalPort :=
  match filter with
  | .debounce => { p with debounce := value }
  | .glitch => { p with glitch := value }

/-- Programs an input anew. An output has no filters to program. -/
def reprogram (p : BidirectionalPort) : Attempt Bus.Error Unit :=
  match p.direction with
  | .input => configureInput p.pin p.options p.debounce p.glitch
  | .output => pure ()

/-- Sets a filter. The port keeps the new value whether or not the pin takes it. -/
def setFilter (p : BidirectionalPort) (filter : Port.Filter) (value : Duration) :
    Action (Except Port.Error Unit × BidirectionalPort) := do
  match checkFilter filter value with
  | .error e => pure (.error e, p)
  | .ok () =>
    let p := p.withFilter filter value
    match ← p.reprogram.run with
    | .ok () => pure (.ok (), p)
    | .error e => pure (.error (.native e), p)

/-- Tells subscribers of an edge. The level before it is the other one. -/
def interrupt (p : BidirectionalPort) (level : Bool) : BidirectionalPort :=
  { p with edges := p.edges.send ⟨level, !level⟩ }

end BidirectionalPort

end Peripherals
