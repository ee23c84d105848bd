import Peripherals.Bus.Engine
import Peripherals.Port.Digital

/-!
# `Peripherals.Bus.FourWire` — the four-wire bus

A peripheral on the bus is selected by an output line. The line is made active before the first transfer of a
transaction and inactive after its last one, whatever became of the transfers.

* `FourWireBus.create` — a bus on three pins that share a bus number;
* `FourWireBus.Program` — what a transaction does: transfers, each depending on the outcome of those before it;
* `FourWireBus.transaction` — runs a program under one selection.
-/

namespace Peripherals

/-- The level of a chip-select line that makes the peripheral listen. -/
inductive ChipSelectMode where
  | activeLow
  | activeHigh
  deriving DecidableEq, Repr

/-- The active level. -/
def ChipSelectMode.activeLevel (m : ChipSelectMode) : Bool := m == .activeHigh

/-- The name of a chip-select mode. -/
def ChipSelectMode.name : ChipSelectMode → String
  | .activeLow => "ActiveLow"
  | .activeHigh => "ActiveHigh"

/-- The polarity and the phase of the clock. -/
inductive ClockMode where
  | mode0
  | mode1
  | mode2
  | mode3
  deriving DecidableEq, Repr

/-- The bits of a clock mode. -/
def ClockMode.bits : ClockMode → UInt8
  | .mode0 => 0
  | .mode1 => 1
  | .mode2 => 2
  | .mode3 => 3

/-- The clock mode that bits stand for. All but the lowest two bits are left out. -/
def ClockMode.ofBits (bits : UInt8) : ClockMode :=
  match bits &&& 3 with
  | 0 => .mode0
  | 1 => .mode1
  | 2 => .mode2
  | _ => .mode3

theorem ClockMode.ofBits_bits (m : ClockMode) : ofBits m.bits = m := by cases m <;> rfl

/-- The name of a clock mode. -/
def ClockMode.name : ClockMode → String
  | .mode0 => "Mode0"
  | .mode1 => "Mode1"
  | .mode2 => "Mode2"
  | .mode3 => "Mode3"

/-- The clock settings of a four-wire bus. -/
structure ClockSettings where
  speed : UInt32
  mode : ClockMode
  deriving DecidableEq, Repr

/-- A four-wire bus. -/
structure FourWireBus where
  engine : Bus.Engine
  /-- The bits of the clock mode, as every transfer carries them. -/
  modeBits : UInt8
  deriving DecidableEq, Repr

/-- A chip-select line and its active level. -/
structure Selection where
  port : OutputPort
  mode : ChipSelectMode

namespace FourWireBus

/-! ## Making and setting up buses -/

/-- The number of the bus that three pins carry. Each pin is judged by its first four-wire channel. -/
def number? (clock dataOut dataIn : Pin) : Except Bus.Error UInt8 :=
  match clock.fourWireChannel? with
  | some (bus, .clock) =>
    if dataOut.fourWireChannel? ≠ some (bus, .dataOut) then
      .error (.invalidPin dataOut.name (.noFourWireOut bus))
    else if dataIn.fourWireChannel? ≠ some (bus, .dataIn) then
      .error (.invalidPin dataIn.name (.noFourWireIn bus))
    else .ok bus
  | _ => .error (.invalidPin clock.name .noFourWireClock)

/-- A bus on three pins, at the speed that meets the settings. -/
def create (clock dataOut dataIn : Pin) (settings : ClockSettings) (supported : List UInt32) :
    Attempt Bus.Error FourWireBus := do
  let number ← ExceptT.mk (pure (number? clock dataOut dataIn))
  let (engine, lines) := Bus.Engine.new number settings.speed supported
  Hardware.tell (lines ++
    [⟨.info, s!"SPI{number} ready at {engine.frequency} Hz, {settings.mode.name}"⟩])
  pure ⟨engine, settings.mode.bits⟩

/-- The clock mode in effect. -/
def mode (b : FourWireBus) : ClockMode := .ofBits b.modeBits

/-- The settings in effect. -/
def settings (b : FourWireBus) : ClockSettings := ⟨b.engine.frequency, b.mode⟩

/-- Applies new settings; the answer is the settings in effect, at the speed that meets them. -/
def configure (b : FourWireBus) (settings : ClockSettings) : Action (ClockSettings × FourWireBus) := do
  let (_, engine, lines) := b.engine.setFrequency settings.speed
  Hardware.tell lines
  pure (⟨engine.frequency, settings.mode⟩, ⟨engine, settings.mode.bits⟩)

/-! ## Transactions -/

/-- One transfer, without regard to any selection. -/
def transfer (b : FourWireBus) (tx rx : Bytes) : Attempt Bus.Error Bytes :=
  b.engine.transact .fourWireTransfer 0 b.modeBits tx rx

/-- What a transaction does while the bus is its own: it stops with an outcome, or makes a transfer and goes on
as the outcome of that transfer says. -/
inductive Program (α : Type) where
  | stop (outcome : Except Bus.Error α)
  | transfer (tx rx : Bytes) (next : Except Bus.Error Bytes → Program α)

/-- Makes a transfer and goes on only if it succeeds. -/
def Program.andThen {α : Type} (tx rx : Bytes) (next : Bytes → Program α) : Program α :=
  .transfer tx rx fun
    | .ok received => next received
    | .error e => .stop (.error e)

/-- Runs the transfers of a program. -/
def run {α : Type} (b : FourWireBus) : Program α → Action (Except Bus.Error α)
  | .stop outcome => pure outcome
  | .transfer tx rx next => do
    let outcome ← (b.transfer tx rx).run
    b.run (next outcome)

/-- Makes a selected peripheral stop listening. A failure is told and nothing else. -/
def deselect (selection : Selection) : Action OutputPort := do
  let (result, port) ← selection.port.write (!selection.mode.activeLevel)
  match result with
  | .ok () => pure ()
  | .error e =>
    Hardware.tell [⟨.error, s!"Failed to release chip select {port.pin.name}: {e.message}"⟩]
  pure port

/-- **Runs a program under a selection.** If the line cannot be made active there are no transfers; otherwise it
is made inactive in the end. The answer includes the port of the line as it is then. -/
def selected {α : Type} (b : FourWireBus) (selection : Selection) (program : Program α) :
    Action (Except Bus.Error α × OutputPort) := do
  match ← selection.port.write selection.mode.activeLevel with
  | (.error e, port) => pure (.error (.chipSelect e), port)
  | (.ok (), port) =>
    -- The line is released whatever became of the transfers.
    let outcome ← b.run program
    let port ← deselect { selection with port }
    pure (outcome, port)

/-- Runs a program under a selection, or without one. -/
def transaction {α : Type} (b : FourWireBus) (selection : Option Selection) (program : Program α) :
    Action (Except Bus.Error α × Option OutputPort) := do
  match selection with
  | none => pure (← b.run program, none)
  | some selection =>
    let (outcome, port) ← b.selected selection program
    pure (outcome, some port)

/-- The program of a single transfer. -/
def Program.single (tx rx : Bytes) : Program Bytes := .andThen tx rx fun received => .stop (.ok received)

end FourWireBus

end Peripherals
