import Peripherals.Arbiter
import Peripherals.Bus.Error
import Peripherals.Driver.Simulated

/-!
# `Peripherals.Hardware` — what every part of a board shares

Ports and buses act on one driver, one arbiter and one log. An `Action` changes them; an `Attempt` changes them
and may fail, keeping the changes made so far.

* `Hardware.tell`, `Hardware.call`, `Hardware.arbitrate` — the log, the driver and the arbiter;
* `Hardware.issue` — a driver call whose status decides about success.
-/

namespace Peripherals

/-- The shared parts of a board. -/
structure Hardware where
  driver : Driver.Simulated
  arbiter : Arbiter
  log : Array Log.Line
  deriving Inhabited

/-- Something done to the shared parts. -/
abbrev Action := StateM Hardware

/-- Something done to the shared parts that may fail; what was done before a failure stays done. -/
abbrev Attempt (ε : Type) := ExceptT ε Action

namespace Hardware

/-- Fresh hardware on which nothing has happened. -/
def empty : Hardware := ⟨.empty, .empty, #[]⟩

/-- Writes lines to the log. -/
def tell (lines : List Log.Line) : Action Unit :=
  modify fun h => { h with log := h.log ++ lines.toArray }

/-- Makes a driver call. -/
def call (c : Driver.Call) : Action Driver.Reply := do
  let h ← get
  let (reply, driver) := h.driver.call c
  set { h with driver }
  pure reply

/-- Asks the arbiter. -/
def arbitrate {α : Type} (request : Arbiter → Arbiter.Outcome α) : Action (Except ReservationError α) := do
  let h ← get
  let outcome := request h.arbiter
  set { h with arbiter := outcome.arbiter }
  tell outcome.lines
  pure outcome.result

/-- What the log says of a call that failed. -/
def failureLine (c : Driver.Call) (status : Int32) : Log.Line :=
  ⟨.debug, s!"{c.opcode.name} on target {Bus.Error.addressText c.target} failed with native code {status}"⟩

/-- **Issues a call** and gives the receive buffer back; any status but zero is an error. -/
def issue (c : Driver.Call) : Attempt Bus.Error Bytes := do
  let reply ← call c
  if reply.status = 0 then pure reply.rx
  else
    tell [failureLine c reply.status]
    throw (.ofStatus reply.status c.target)

end Hardware

end Peripherals
