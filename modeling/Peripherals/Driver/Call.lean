import Peripherals.Bytes

/-!
# `Peripherals.Driver.Call` — calls to the native driver

All hardware is reached through one entry point. A call names an operation and carries a fixed set of fields; the
driver answers with a status, zero for success, and with the caller's receive buffer as it left it.

* `Opcode` — the operations;
* `PinFlags` — how a pin is configured, and the byte that says so;
* `Call`, `Reply`, `Record` — what goes in, what comes out, and what is kept of it.
-/

namespace Peripherals.Driver

/-- What the driver is asked to do. -/
inductive Opcode where
  /-- Write, then read, on a two-wire bus. -/
  | twoWireTransfer
  | twoWireShutdown
  /-- Write and read at once on a four-wire bus. -/
  | fourWireTransfer
  | pinConfigure
  | pinUnconfigure
  | pinWrite
  | pinRead
  /-- One analog conversion; the reading comes back as a 32-bit word. -/
  | convert
  deriving DecidableEq, Repr

/-- The name of an operation. -/
def Opcode.name : Opcode → String
  | .twoWireTransfer => "I2cData"
  | .twoWireShutdown => "I2cShutdown"
  | .fourWireTransfer => "SpiData"
  | .pinConfigure => "GpioConfigure"
  | .pinUnconfigure => "GpioUnconfigure"
  | .pinWrite => "GpioWrite"
  | .pinRead => "GpioRead"
  | .convert => "AdcRead"

/-- Every operation. -/
def Opcode.all : List Opcode :=
  [.twoWireTransfer, .twoWireShutdown, .fourWireTransfer, .pinConfigure, .pinUnconfigure, .pinWrite, .pinRead,
    .convert]

/-! ## Pin configuration -/

/-- How a pin is configured. -/
structure PinFlags where
  output : Bool := false
  pullUp : Bool := false
  pullDown : Bool := false
  openDrain : Bool := false
  initialHigh : Bool := false
  risingInterrupt : Bool := false
  fallingInterrupt : Bool := false
  deriving DecidableEq, Repr

namespace PinFlags

/-- The byte of a configuration, one bit a flag. -/
def toByte (f : PinFlags) : UInt8 :=
  (if f.output then 1 else 0) + (if f.pullUp then 2 else 0) + (if f.pullDown then 4 else 0) +
    (if f.openDrain then 8 else 0) + (if f.initialHigh then 16 else 0) +
    (if f.risingInterrupt then 32 else 0) + (if f.fallingInterrupt then 64 else 0)

/-- The configuration that a byte stands for. The highest bit has no meaning. -/
def ofByte (b : UInt8) : PinFlags where
  output := b &&& 1 != 0
  pullUp := b &&& 2 != 0
  pullDown := b &&& 4 != 0
  openDrain := b &&& 8 != 0
  initialHigh := b &&& 16 != 0
  risingInterrupt := b &&& 32 != 0
  fallingInterrupt := b &&& 64 != 0

/-- Whether the pin raises interrupts. -/
def interrupts (f : PinFlags) : Bool := f.risingInterrupt || f.fallingInterrupt

theorem ofByte_toByte (f : PinFlags) : ofByte f.toByte = f := by
  obtain ⟨a, b, c, d, e, g, h⟩ := f
  cases a <;> cases b <;> cases c <;> cases d <;> cases e <;> cases g <;> cases h <;> rfl

end PinFlags

/-! ## Calls -/

/-- One call. -/
structure Call where
  opcode : Opcode
  /-- The number of the bus, for bus operations. -/
  bus : UInt8 := 0
  /-- The address of a peripheral, or the key of a pin. -/
  target : UInt16
  frequency : UInt32 := 0
  /-- The clock mode of a four-wire bus, or the flags of a pin. -/
  flags : UInt8 := 0
  tx : Bytes := []
  /-- The receive buffer as the caller hands it over. -/
  rx : Bytes := []
  deriving DecidableEq, Repr

/-- The answer to a call. -/
structure Reply where
  status : Int32
  /-- The receive buffer as the driver left it. -/
  rx : Bytes
  deriving DecidableEq, Repr

/-- What is kept of a call. -/
structure Record where
  opcode : Opcode
  bus : UInt8
  target : UInt16
  frequency : UInt32
  flags : UInt8
  tx : Bytes
  rxLength : Nat
  status : Int32
  deriving DecidableEq, Repr

/-- The record of a call that was answered with `status`. -/
def Call.record (c : Call) (status : Int32) : Record :=
  ⟨c.opcode, c.bus, c.target, c.frequency, c.flags, c.tx, c.rx.length, status⟩

end Peripherals.Driver
