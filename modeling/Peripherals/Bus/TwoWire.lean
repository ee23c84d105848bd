import Peripherals.Bus.Engine

/-!
# `Peripherals.Bus.TwoWire` — the addressed two-wire bus

* `TwoWireBus.create` — a bus on two pins that share a bus number;
* `TwoWireBus.transfer` — write and read in one transaction with one address;
* `TwoWireBus.readRegisters`, `TwoWireBus.writeRegisters` and the like — the registers of one device.
-/

namespace Peripherals

/-- A two-wire bus. It does not reserve its pins. -/
structure TwoWireBus where
  engine : Bus.Engine
  clock : Pin
  data : Pin
  deriving Repr

namespace TwoWireBus

/-- The number of the bus that two pins carry. Each pin is judged by its first two-wire channel. -/
def number? (clock data : Pin) : Except Bus.Error UInt8 :=
  match clock.twoWireChannel? with
  | some (bus, .clock) =>
    if data.twoWireChannel? = some (bus, .data) then .ok bus
    else .error (.invalidPin data.name (.noTwoWireData bus))
  | _ => .error (.invalidPin clock.name .noTwoWireClock)

/-- A bus on two pins, at the speed that meets `requested`. -/
def create (clock data : Pin) (requested : UInt32) (supported : List UInt32) : Attempt Bus.Error TwoWireBus := do
  let number ← liftExcept (number? clock data)
  let (engine, lines) := Bus.Engine.new number requested supported
  Hardware.tell (lines ++
    [⟨.info, s!"I2C{number} ready on {clock.name}/{data.name} at {engine.frequency} Hz"⟩])
  pure ⟨engine, clock, data⟩
where
  /-- An outcome that needed no hardware. -/
  liftExcept {α : Type} (r : Except Bus.Error α) : Attempt Bus.Error α := ExceptT.mk (pure r)

/-- Changes the clock; the answer is the speed that meets the request. -/
def setFrequency (b : TwoWireBus) (requested : UInt32) : Action (UInt32 × TwoWireBus) := do
  let (effective, engine, lines) := b.engine.setFrequency requested
  Hardware.tell lines
  pure (effective, { b with engine })

/-- The largest address. -/
def maxAddress : UInt8 := 0x7F

/-- Writes `tx` and then fills `rx` in one transaction with the device at `address`. -/
def transfer (b : TwoWireBus) (address : UInt8) (tx rx : Bytes) : Attempt Bus.Error Bytes :=
  if maxAddress < address then throw (.invalidAddress address.toUInt16)
  else b.engine.transact .twoWireTransfer address.toUInt16 0 tx rx

/-- Fills `rx` from the device at `address`. -/
def read (b : TwoWireBus) (address : UInt8) (rx : Bytes) : Attempt Bus.Error Bytes := b.transfer address [] rx

/-- Writes `tx` to the device at `address`. -/
def write (b : TwoWireBus) (address : UInt8) (tx : Bytes) : Attempt Bus.Error Unit := do
  let _ ← b.transfer address tx []

/-- Stops the controller; transactions fail from then on. -/
def shutdown (b : TwoWireBus) : Attempt Bus.Error Unit := do
  let _ ← b.engine.transact .twoWireShutdown 0 0 [] []
  Hardware.tell [⟨.info, s!"I2C{b.engine.number} shut down"⟩]

/-! ## Device registers -/

/-- The registers of one device from `register` on, into a buffer of zeros. -/
def readRegisters (b : TwoWireBus) (address register : UInt8) (count : Nat) : Attempt Bus.Error Bytes :=
  b.transfer address [register] (Bytes.zeros count)

/-- One register. -/
def readRegister (b : TwoWireBus) (address register : UInt8) : Attempt Bus.Error UInt8 := do
  let values ← b.readRegisters address register 1
  pure (values.headD 0)

/-- Two registers as one number, the first one counting 256. -/
def readRegisterPair (b : TwoWireBus) (address register : UInt8) : Attempt Bus.Error UInt16 := do
  let values ← b.readRegisters address register 2
  pure (Bytes.word16 ((values.drop 1).headD 0) (values.headD 0))

/-- Writes consecutive registers from `register` on. -/
def writeRegisters (b : TwoWireBus) (address register : UInt8) (values : Bytes) : Attempt Bus.Error Unit :=
  b.write address (register :: values)

end TwoWireBus

end Peripherals
