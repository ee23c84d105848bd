import Peripherals.Bus.FourWire
import Peripherals.Coprocessor.Error
import Peripherals.Coprocessor.Frame

/-!
# `Peripherals.Coprocessor.Link` — the coprocessor on a four-wire bus

A command is written and its response read under one selection: first the header, then as much payload as the
header announces. A length beyond the limit is not read; the header is refused afterwards.

* `Link.program` — the transfers of one exchange;
* `Link.send` — a command and its response.
-/

namespace Peripherals.Coprocessor.Link

/-- The length that a response header announces. -/
def announced (header : Bytes) : Nat :=
  match Bytes.takeWord32? (header.drop 4) with
  | some (length, _) => length.toNat
  | none => 0

/-- **The transfers of one exchange.** The outcome is the header and the payload as they were read. -/
def program (frame : Bytes) : FourWireBus.Program (Bytes × Bytes) :=
  .andThen frame [] fun _ =>
    .andThen [] (Bytes.zeros ResponseHeader.size) fun header =>
      let length := announced header
      if 0 < length ∧ length ≤ maxPayload then
        .andThen [] (Bytes.zeros length) fun payload => .stop (.ok (header, payload))
      else .stop (.ok (header, []))

/-- The response that was read. -/
def response (header payload : Bytes) : Except Error Response :=
  match ResponseHeader.decode header with
  | .ok h => .ok ⟨h.status, payload⟩
  | .error e => .error (.decode e)

/-- One exchange. The answer includes the chip-select port as it is then. -/
def exchange (bus : FourWireBus) (selection : Selection) (frame : Bytes) :
    Action (Except Error Response × OutputPort) := do
  let (outcome, port) ← bus.selected selection (program frame)
  pure (match outcome with
    | .ok (header, payload) => response header payload
    | .error e => .error (.transport e), port)

/-- **Sends a command** and tells the log of it: the header of the frame, which holds no credentials, and the
payload of the response. -/
def send (bus : FourWireBus) (selection : Selection) (c : Command) :
    Action (Except Error Response × OutputPort) := do
  let frame := c.encode
  Hardware.tell [Log.frameDump "coprocessor tx" (frame.take Command.headerLength)]
  let (reply, port) ← exchange bus selection frame
  match reply with
  | .ok r => Hardware.tell [Log.frameDump "coprocessor rx" r.payload]
  | .error _ => pure ()
  pure (reply, port)

/-- A link as diagnostics show it. -/
def describe (pin : String) (mode : ChipSelectMode) : String :=
  s!"SpiCoprocessorTransport \x7b chip_select: {Text.quoted pin}, mode: {mode.name}, .. \x7d"

end Peripherals.Coprocessor.Link
