import Peripherals.Port.Error

/-!
# `Peripherals.Port.Claim` — a pin held by a port

* `Claim.acquire`, `Claim.acquireUnchecked`, `Claim.release` — a port's hold on its pin;
* `Claim.configure`, `Claim.drive`, `Claim.sense`, `Claim.unconfigure` — the calls about that pin.
-/

namespace Peripherals.Port

/-- A pin and the token for it. -/
structure Claim where
  pin : Pin
  token : Token
  deriving Repr

namespace Claim

/-- Claims a pin through a request to the arbiter. -/
def acquireBy (pin : Pin) (request : Arbiter → Arbiter.Outcome Token) : Attempt Error Claim := do
  match ← Hardware.arbitrate request with
  | .ok token => pure ⟨pin, token⟩
  | .error e => throw (.reservation e)

/-- Claims a pin for a use that it supports. -/
def acquire (pin : Pin) (use : PinUse) : Attempt Error Claim := acquireBy pin (·.reserveChecked pin use)

/-- Claims a pin whatever its channels. -/
def acquireUnchecked (pin : Pin) (use : PinUse) : Attempt Error Claim := acquireBy pin (·.reserve pin use)

/-- Gives the pin back. -/
def release (c : Claim) : Action Unit := do
  match ← Hardware.arbitrate (·.release c.token) with
  | .ok () => pure ()
  | .error e => Hardware.tell [⟨.error, s!"Failed to release pin {c.pin.name}: {e.message}"⟩]

/-- Tries to finish a port; the pin is given back if that fails. -/
def orRelease {α : Type} (c : Claim) (finish : Attempt Bus.Error α) : Attempt Error α := do
  match ← finish.run with
  | .ok a => pure a
  | .error e =>
    c.release
    throw (.native e)

end Claim

/-! ## Calls about a pin -/

/-- Configures a pin. -/
def configure (pin : Pin) (flags : Driver.PinFlags) (payload : Bytes) : Attempt Bus.Error Unit := do
  let _ ← Hardware.issue
    { opcode := .pinConfigure, target := pin.key, flags := flags.toByte, tx := payload }

/-- Drives a line high or low. -/
def drive (pin : Pin) (level : Bool) : Attempt Bus.Error Unit := do
  let _ ← Hardware.issue { opcode := .pinWrite, target := pin.key, tx := [if level then 1 else 0] }

/-- Reads a line. -/
def sense (pin : Pin) : Attempt Bus.Error Bool := do
  let rx ← Hardware.issue { opcode := .pinRead, target := pin.key, rx := [0] }
  pure (rx.headD 0 != 0)

/-- Undoes the configuration of a pin. A failure is only worth a warning. -/
def unconfigure (pin : Pin) : Action Unit := do
  match ← (Hardware.issue { opcode := .pinUnconfigure, target := pin.key }).run with
  | .ok _ => pure ()
  | .error e => Hardware.tell [⟨.warn, s!"Failed to unconfigure {pin.name}: {e.message}"⟩]

/-- What ends a digital port: its pin is unconfigured, then given back. -/
def close (c : Claim) : Action Unit := do
  unconfigure c.pin
  c.release

end Peripherals.Port
