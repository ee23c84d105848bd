import Peripherals.Text.Hex

/-!
# `Peripherals.Bus.Error` — why a bus transaction or another driver call fails

Status codes of the driver become causes here (`Error.ofStatus`) and can be had back (`Error.status?`).
-/

namespace Peripherals.Bus

/-- Why a pin cannot serve a bus. -/
inductive PinDefect where
  | noTwoWireClock
  | noTwoWireData (bus : UInt8)
  | noFourWireClock
  | noFourWireOut (bus : UInt8)
  | noFourWireIn (bus : UInt8)
  deriving DecidableEq, Repr

/-- The wording of a defect. -/
def PinDefect.message : PinDefect → String
  | .noTwoWireClock => "no I2C clock capability"
  | .noTwoWireData bus => s!"no I2C{bus} data capability"
  | .noFourWireClock => "no SPI clock capability"
  | .noFourWireOut bus => s!"no SPI{bus} MOSI capability"
  | .noFourWireIn bus => s!"no SPI{bus} MISO capability"

/-- Why a transaction fails. -/
inductive Error where
  /-- The device does not acknowledge. -/
  | noAcknowledge (address : UInt16)
  /-- The clock line is stuck or loose. -/
  | lineDisconnected
  /-- Nothing answers at the address. -/
  | noDevice (address : UInt16)
  /-- The bus is busy. -/
  | retry
  | shutdown
  /-- A status without a meaning of its own. -/
  | communication (code : Int32)
  /-- A pin cannot serve the bus. -/
  | invalidPin (pin : String) (defect : PinDefect)
  /-- The address has more than seven bits. -/
  | invalidAddress (address : UInt16)
  /-- The chip-select line cannot be driven. -/
  | chipSelect (cause : Error)
  deriving DecidableEq, Repr

namespace Error

/-- An address as messages write it. -/
def addressText (address : UInt16) : String := "0x" ++ Hex.ofNat .upper 2 address.toNat

/-- The wording of an error. -/
def message : Error → String
  | .noAcknowledge address =>
    s!"Device at address {addressText address} did not acknowledge; check the address and that SCL and SDA are not reversed"
  | .lineDisconnected => "Bus line disconnected; check that the device is powered and SCL is connected"
  | .noDevice address => s!"No device found at address {addressText address}"
  | .retry => "Bus busy, retry the transaction; check that SDA is connected"
  | .shutdown => "Bus has been shut down"
  | .communication code => s!"Communication error (native code {code})"
  | .invalidPin pin defect => s!"Invalid pin {pin}: {defect.message}"
  | .invalidAddress address => s!"Invalid peripheral address {addressText address}"
  | .chipSelect cause => s!"Chip select failed: {cause.message}"

/-- The cause behind a status other than zero, for a call to `target`. -/
def ofStatus (status : Int32) (target : UInt16) : Error :=
  if status = 125 then .noAcknowledge target
  else if status = 116 then .lineDisconnected
  else if status = 112 then .noDevice target
  else if status = 11 then .retry
  else if status = 108 then .shutdown
  else .communication status

/-- The status that an error comes from, if it comes from one. -/
def status? : Error → Option Int32
  | .noAcknowledge _ => some 125
  | .lineDisconnected => some 116
  | .noDevice _ => some 112
  | .retry => some 11
  | .shutdown => some 108
  | .communication code => some code
  | _ => none

theorem status?_ofStatus (status : Int32) (target : UInt16) : (ofStatus status target).status? = some status := by
  unfold ofStatus
  by_cases h125 : status = 125
  · rw [if_pos h125, h125]
    rfl
  rw [if_neg h125]
  by_cases h116 : status = 116
  · rw [if_pos h116, h116]
    rfl
  rw [if_neg h116]
  by_cases h112 : status = 112
  · rw [if_pos h112, h112]
    rfl
  rw [if_neg h112]
  by_cases h11 : status = 11
  · rw [if_pos h11, h11]
    rfl
  rw [if_neg h11]
  by_cases h108 : status = 108
  · rw [if_pos h108, h108]
    rfl
  rw [if_neg h108]
  rfl

end Error

end Peripherals.Bus
