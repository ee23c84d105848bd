import Peripherals.Bench.World

/-!
# `Peripherals.Bench.Answer` — what a step answers
-/

namespace Peripherals.Bench

open Coprocessor

/-- Why a step fails, by the layer that refuses it. -/
inductive Failure where
  | bus (cause : Bus.Error)
  | port (cause : Port.Error)
  | coprocessor (cause : Coprocessor.Error)
  | device (cause : Device.Error)
  | network (cause : Network.Error)

/-- The adapters of a registry, as a look at them shows them. -/
structure RegistryView where
  names : List String
  connected : List Bool
  addresses : List (Option Mac)
  /-- The name of the first connected adapter. -/
  primary : Option String
  /-- The name of the adapter that was asked for. -/
  asked : Option String

/-- What a step answers. -/
inductive Answer where
  | ok
  | created
  | dropped
  | stopped
  | cancelled
  | timedOut
  /-- There is nothing in the slot that the step could be done with. -/
  | noSlot
  /-- The step has panicked. -/
  | panicked
  | failed (f : Failure)
  | flag (b : Bool)
  | number (n : Nat)
  | bytes (bs : Bytes)
  | voltage (v : Voltage)
  | reply (r : Driver.Reply)
  | line (level : Option Bool) (flags : Option Driver.PinFlags)
  | calls (count : Nat) (ever : Bool)
  | pin (p : Pin)
  | device (text : String) (pins : Nat)
  | reservation (use : Option PinUse)
  | info (t : Thing)
  | peripheral (address : UInt8) (frequency : UInt32)
  | diagnostic (text : String)
  /-- The speed that was answered, and the speed in use. -/
  | frequency (answered current : UInt32)
  | clock (settings : ClockSettings)
  /-- How a transaction ended, and what the transfers before its end received. -/
  | transaction (outcome : Except Bus.Error Unit) (received : List Bytes)
  | response (r : Response)
  | event (e : Option Event)
  | disconnected (outcome : DisconnectOutcome)
  | found (points : List AccessPoint)
  | antenna (outcome : Except Failure Unit) (current : Antenna)
  | scanPeriod (outcome : Except Failure Unit) (current : Duration)
  | settings (adapter : Adapter) (station softAp : Option Mac)
  | registry (view : RegistryView)

namespace Answer

/-- The answer for a result. -/
def ofResult {ε α : Type} (bad : ε → Failure) (good : α → Answer) : Except ε α → Answer
  | .ok a => good a
  | .error e => .failed (bad e)

/-- The answer for the result of a bus. -/
def ofBus {α : Type} (good : α → Answer) (result : Except Bus.Error α) : Answer := ofResult .bus good result

/-- The answer for the result of a port that has no failures of its own. -/
def ofDriven {α : Type} (good : α → Answer) (result : Except Bus.Error α) : Answer :=
  ofResult (fun e => .port (.native e)) good result

/-- The answer for the result of a port. -/
def ofPort {α : Type} (good : α → Answer) (result : Except Port.Error α) : Answer := ofResult .port good result

/-- The answer for the result of a board. -/
def ofDevice {α : Type} (good : α → Answer) (result : Except Device.Error α) : Answer :=
  ofResult .device good result

end Answer

end Peripherals.Bench
