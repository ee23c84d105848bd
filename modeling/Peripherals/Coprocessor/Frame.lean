import Peripherals.Coprocessor.Code
import Peripherals.Coprocessor.DecodeError

/-!
# `Peripherals.Coprocessor.Frame` — the three frames of the link

* `Command` — interface byte, function, counted payload; sent to the coprocessor;
* `Response` — status, counted payload; the answer to one command;
* `Event` — function, status, counted payload; fetched with `Command.pollEvent`.

Every number is 32 bits wide, least significant byte first. Reading looks at the front of a byte sequence and
ignores what follows the frame.
-/

namespace Peripherals.Coprocessor

/-! ## Commands -/

/-- A command to the coprocessor. -/
structure Command where
  interface : Interface
  function : UInt32
  payload : Bytes
  deriving DecidableEq

namespace Command

/-- The number of bytes before the payload. -/
def headerLength : Nat := 9

/-- A wireless command. -/
def wireless (function : Function) (payload : Bytes) : Command := ⟨.wireless, function.toWord, payload⟩

/-- The command that fetches the oldest pending event. -/
def pollEvent : Command := ⟨.system, 1, []⟩

/-- The wireless function that a command asks for, if it is a wireless command. -/
def wirelessFunction? (c : Command) : Option Function :=
  match c.interface with
  | .wireless => Function.ofWord? c.function
  | .system => none

/-- The frame of a command. -/
def encode (c : Command) : Bytes :=
  c.interface.toByte :: (Bytes.ofWord32 c.function ++ Wire.putCounted c.payload)

/-- The three fields of a command, as numbers. -/
def fields : Wire.Reader (UInt8 × UInt32 × Bytes) := do
  let interface ← Wire.byte
  let function ← Wire.word
  let payload ← Wire.counted
  pure (interface, function, payload)

/-- Reads a command. The interface is looked at once all fields are there. -/
def decode (frame : Bytes) : Except DecodeError Command :=
  match readPart .command fields frame with
  | .error e => .error e
  | .ok ((code, function, payload), _) =>
    match Interface.ofByte? code with
    | some interface => .ok ⟨interface, function, payload⟩
    | none => .error (.invalid .command (.unknownInterface code))

/-- **A command as diagnostics show it.** The payload may hold credentials, so only its length is told. -/
def describe (c : Command) : String :=
  s!"Command \x7b interface: {c.interface.name}, function: {c.function}, payload_len: {c.payload.length} \x7d"

end Command

/-! ## Responses -/

/-- What stands before the payload of a response. -/
structure ResponseHeader where
  status : Status
  length : Nat
  deriving DecidableEq

namespace ResponseHeader

/-- The number of bytes in a header. -/
def size : Nat := 8

/-- The two numbers of a header. -/
def fields : Wire.Reader (UInt32 × UInt32) := do
  let status ← Wire.word
  let length ← Wire.word
  pure (status, length)

/-- Reads a header and refuses one that announces too much. -/
def decode (bs : Bytes) : Except DecodeError ResponseHeader := do
  let ((status, length), _) ← readPart .responseHeader fields bs
  checkLength length.toNat
  pure ⟨.ofWord status, length.toNat⟩

end ResponseHeader

/-- The answer to one command. -/
structure Response where
  status : Status
  payload : Bytes
  deriving DecidableEq

namespace Response

/-- A successful answer. -/
def ok (payload : Bytes) : Response := ⟨.completed, payload⟩

/-- The frame of a response. -/
def encode (r : Response) : Bytes := Bytes.ofWord32 r.status.toWord ++ Wire.putCounted r.payload

/-- Reads a response: the header is judged before the payload is looked for. -/
def decode (frame : Bytes) : Except DecodeError Response := do
  let header ← ResponseHeader.decode frame
  let body := frame.drop ResponseHeader.size
  if body.length < header.length then throw (.truncated .responsePayload body.length)
  pure ⟨header.status, body.take header.length⟩

end Response

/-! ## Events -/

/-- A notification from the coprocessor. -/
structure Event where
  function : Function
  status : Status
  payload : Bytes
  deriving DecidableEq

namespace Event

/-- The frame of an event. -/
def encode (e : Event) : Bytes :=
  Bytes.ofWord32 e.function.toWord ++ Bytes.ofWord32 e.status.toWord ++ Wire.putCounted e.payload

/-- The three fields of an event, as numbers. -/
def fields : Wire.Reader (UInt32 × UInt32 × Bytes) := do
  let function ← Wire.word
  let status ← Wire.word
  let payload ← Wire.counted
  pure (function, status, payload)

/-- The event function with this number. -/
def function? (code : UInt32) : Option Function := (Function.ofWord? code).filter Function.isEvent

/-- Reads an event: all fields have to be there, then the payload has to be short enough, then the function has
to be an event. -/
def decode (frame : Bytes) : Except DecodeError Event := do
  let ((code, status, payload), _) ← readPart .event fields frame
  checkLength payload.length
  match function? code with
  | some function => pure ⟨function, .ofWord status, payload⟩
  | none => throw (.unknownEvent code)

end Event

end Peripherals.Coprocessor
