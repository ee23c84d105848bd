/-!
# `Peripherals.Pin.Channel` — what the silicon can route to a pin

* `Capabilities` — a set of capabilities, one bit each;
* `Channel` — one hardware channel, with its short name and its capabilities;
* `PinUse` — what a pin is used as, and which capabilities make it fit for that.
-/

namespace Peripherals

/-! ## Capabilities -/

/-- A set of capabilities, one bit each. -/
structure Capabilities where
  bits : UInt16
  deriving DecidableEq, Repr

namespace Capabilities

/-- No capability. -/
def none : Capabilities := ⟨0⟩
def digitalInput : Capabilities := ⟨1⟩
def digitalOutput : Capabilities := ⟨2⟩
def interrupt : Capabilities := ⟨4⟩
def analogInput : Capabilities := ⟨8⟩
def analogOutput : Capabilities := ⟨16⟩
def pwm : Capabilities := ⟨32⟩
def twoWireClock : Capabilities := ⟨64⟩
def twoWireData : Capabilities := ⟨128⟩
def fourWireClock : Capabilities := ⟨256⟩
def fourWireOut : Capabilities := ⟨512⟩
def fourWireIn : Capabilities := ⟨1024⟩
def serialTransmit : Capabilities := ⟨2048⟩
def serialReceive : Capabilities := ⟨4096⟩

/-- The capabilities of either set. -/
def union (a b : Capabilities) : Capabilities := ⟨a.bits ||| b.bits⟩

/-- The set if a condition holds, and nothing otherwise. -/
def onlyIf (c : Capabilities) (b : Bool) : Capabilities := if b then c else none

/-- Whether two sets have a capability in common. -/
def intersects (a b : Capabilities) : Bool := a.bits &&& b.bits != 0

/-- Whether every capability of `b` is in `a`. -/
def contains (a b : Capabilities) : Bool := a.bits &&& b.bits == b.bits

end Capabilities

/-! ## Channels -/

/-- The role of a pin on a two-wire bus. -/
inductive TwoWireRole where
  | clock
  | data
  deriving DecidableEq, Repr

/-- The role of a pin on a four-wire bus; `dataOut` leaves the controller and `dataIn` enters it. -/
inductive FourWireRole where
  | clock
  | dataOut
  | dataIn
  deriving DecidableEq, Repr

/-- The role of a pin on a serial line. -/
inductive SerialRole where
  | transmit
  | receive
  deriving DecidableEq, Repr

/-- One hardware channel that can be routed to a pin. -/
inductive Channel where
  | digital (input output interrupt : Bool)
  | analog (bits : UInt8) (input output : Bool)
  | pwm (timer channel : UInt8)
  | twoWire (bus : UInt8) (role : TwoWireRole)
  | fourWire (bus : UInt8) (role : FourWireRole)
  | serial (port : UInt8) (role : SerialRole)
  deriving DecidableEq, Repr

namespace Channel

/-- The short name of a channel. -/
def name : Channel → String
  | .digital .. => "GPIO"
  | .analog .. => "ADC"
  | .pwm timer channel => s!"PWM{timer}_CH{channel}"
  | .twoWire bus .clock => s!"I2C{bus}_SCL"
  | .twoWire bus .data => s!"I2C{bus}_SDA"
  | .fourWire bus .clock => s!"SPI{bus}_SCK"
  | .fourWire bus .dataOut => s!"SPI{bus}_MOSI"
  | .fourWire bus .dataIn => s!"SPI{bus}_MISO"
  | .serial port .transmit => s!"UART{port}_TX"
  | .serial port .receive => s!"UART{port}_RX"

/-- What a channel can do. -/
def capabilities : Channel → Capabilities
  | .digital input output interrupt =>
    ((Capabilities.digitalInput.onlyIf input).union (Capabilities.digitalOutput.onlyIf output)).union
      (Capabilities.interrupt.onlyIf interrupt)
  | .analog _ input output =>
    (Capabilities.analogInput.onlyIf input).union (Capabilities.analogOutput.onlyIf output)
  | .pwm .. => .pwm
  | .twoWire _ .clock => .twoWireClock
  | .twoWire _ .data => .twoWireData
  | .fourWire _ .clock => .fourWireClock
  | .fourWire _ .dataOut => .fourWireOut
  | .fourWire _ .dataIn => .fourWireIn
  | .serial _ .transmit => .serialTransmit
  | .serial _ .receive => .serialReceive

end Channel

/-! ## Uses -/

/-- What a pin is used as. -/
inductive PinUse where
  | digitalInput
  | digitalOutput
  | analogInput
  | analogOutput
  | pwm
  | twoWire
  | fourWire
  | serial
  deriving DecidableEq, Repr

namespace PinUse

/-- Every use. -/
def all : List PinUse :=
  [.digitalInput, .digitalOutput, .analogInput, .analogOutput, .pwm, .twoWire, .fourWire, .serial]

/-- The capabilities of which a pin needs at least one. -/
def required : PinUse → Capabilities
  | .digitalInput => .digitalInput
  | .digitalOutput => .digitalOutput
  | .analogInput => .analogInput
  | .analogOutput => .analogOutput
  | .pwm => .pwm
  | .twoWire => Capabilities.twoWireClock.union .twoWireData
  | .fourWire => (Capabilities.fourWireClock.union .fourWireOut).union .fourWireIn
  | .serial => Capabilities.serialTransmit.union .serialReceive

/-- How messages call a use. -/
def text : PinUse → String
  | .digitalInput => "digital input"
  | .digitalOutput => "digital output"
  | .analogInput => "analog input"
  | .analogOutput => "analog output"
  | .pwm => "PWM"
  | .twoWire => "I2C"
  | .fourWire => "SPI"
  | .serial => "UART"

end PinUse

end Peripherals
