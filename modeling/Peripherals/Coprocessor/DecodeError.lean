import Peripherals.Wire
import Peripherals.Text.Hex

/-!
# `Peripherals.Coprocessor.DecodeError` — why bytes from the link are refused
-/

namespace Peripherals.Coprocessor

/-- The thing that was being read. -/
inductive Part where
  | command
  | responseHeader
  | responsePayload
  | event
  | credentials
  | connectionDetails
  | accessPointList
  | accessPoint
  deriving DecidableEq, Repr

/-- The name of a part. -/
def Part.name : Part → String
  | .command => "command"
  | .responseHeader => "response header"
  | .responsePayload => "response payload"
  | .event => "event"
  | .credentials => "credentials"
  | .connectionDetails => "connect event"
  | .accessPointList => "access point list"
  | .accessPoint => "access point"

/-- What makes a field invalid. -/
inductive Defect where
  /-- A text that is not UTF-8. -/
  | badText
  /-- A byte that names no subsystem. -/
  | unknownInterface (code : UInt8)
  deriving DecidableEq, Repr

/-- The wording of a defect. -/
def Defect.message : Defect → String
  | .badText => "MapRes"
  | .unknownInterface code => s!"unknown interface {code}"

/-- The largest payload that the link carries. -/
def maxPayload : Nat := 4000

/-- Why bytes are refused. -/
inductive DecodeError where
  /-- The bytes end before the part does. -/
  | truncated (part : Part) (available : Nat)
  /-- A field of the part has no meaning. -/
  | invalid (part : Part) (defect : Defect)
  /-- The number of an event names no event. -/
  | unknownEvent (code : UInt32)
  /-- A payload is longer than the link carries. -/
  | payloadTooLarge (length : Nat)
  deriving DecidableEq, Repr

/-- The wording of an error. -/
def DecodeError.message : DecodeError → String
  | .truncated part available => s!"Truncated {part.name}: {available} bytes available"
  | .invalid part defect => s!"Invalid {part.name}: {defect.message}"
  | .unknownEvent code => s!"Unknown event function 0x{Hex.ofNat .upper 8 code.toNat}"
  | .payloadTooLarge length => s!"Payload of {length} bytes exceeds the {maxPayload} byte limit"

/-- Refuses a payload longer than the link carries. -/
def checkLength (length : Nat) : Except DecodeError Unit :=
  if maxPayload < length then .error (.payloadTooLarge length) else .ok ()

/-- **Reads one part** off the front of `bs`. A part that ends too early reports how many bytes there were. -/
def readPart {α : Type} (part : Part) (fields : Wire.Reader α) (bs : Bytes) : Except DecodeError (α × Bytes) :=
  match fields bs with
  | .ok result => .ok result
  | .error .short => .error (.truncated part bs.length)
  | .error .badText => .error (.invalid part .badText)

end Peripherals.Coprocessor
