import Peripherals.Log
import Peripherals.Pin.Basic
import Peripherals.Table

/-!
# `Peripherals.Arbiter` — who owns which pin

An arbiter records what each pin is reserved as. Reserving is all or nothing: a pin that is held stays as it is.
Whoever reserves a pin gets a token, and giving the token back ends the reservation.

A name has a slot from the first time that it is claimed on. The slot is never taken away: giving the token back
empties it.

* `Arbiter.reserve`, `Arbiter.reserveChecked` — claim a pin, the latter only for a use that it supports;
* `Arbiter.release` — end the reservation that a token stands for;
* `Arbiter.reservation?`, `Arbiter.isReserved`, `Arbiter.reservedCount` — what is held.
-/

namespace Peripherals

/-- What a pin is held as, and which reservation of this arbiter it was. -/
structure Reservation where
  id : UInt64
  use : PinUse
  deriving DecidableEq, Repr

/-- What stands for a reservation. -/
structure Token where
  pin : String
  use : PinUse
  id : UInt64
  deriving DecidableEq, Repr

/-- Why a pin cannot be claimed or released. -/
inductive ReservationError where
  /-- The pin is held. -/
  | alreadyInUse (pin : String) (current : PinUse)
  /-- The pin has no channel for the use. -/
  | unsupported (pin : String) (required : PinUse) (supported : String)
  /-- The pin is not held. -/
  | notReserved (pin : String)
  /-- The pin is held under another reservation. -/
  | staleToken (pin : String)
  deriving DecidableEq, Repr

/-- The wording of an error. -/
def ReservationError.message : ReservationError → String
  | .alreadyInUse pin current => s!"Pin {pin} is already in use as {current.text}"
  | .unsupported pin required supported =>
    s!"Pin {pin} does not support {required.text}. It supports: {supported}"
  | .notReserved pin => s!"Pin {pin} is not reserved"
  | .staleToken pin => s!"Reservation token does not match the active reservation of pin {pin}"

/-- The reservations of a board. They are numbered in the order in which they are granted, on a counter that wraps. -/
structure Arbiter where
  /-- The slots of the names that were claimed; one without a reservation is empty. -/
  slots : Table String (Option Reservation)
  nextId : UInt64
  deriving Repr

namespace Arbiter

/-- The arbiter that holds nothing. -/
def empty : Arbiter := ⟨.empty, 0⟩

instance : Inhabited Arbiter := ⟨empty⟩

/-- The reservation of the pin of that name. -/
def current? (a : Arbiter) (pin : String) : Option Reservation := (a.slots.get? pin).join

/-- What the pin of that name is held as. -/
def reservation? (a : Arbiter) (pin : String) : Option PinUse := (a.current? pin).map (·.use)

/-- Whether the pin of that name is held. -/
def isReserved (a : Arbiter) (pin : String) : Bool := (a.reservation? pin).isSome

/-- The number of pins that are held. -/
def reservedCount (a : Arbiter) : Nat := a.slots.entries.countP (·.2.isSome)

/-- The outcome of an operation on an arbiter, with the arbiter after it and what there is to tell. -/
structure Outcome (α : Type) where
  result : Except ReservationError α
  arbiter : Arbiter
  lines : List Log.Line

/-- Claims a pin, whatever its channels. -/
def reserve (a : Arbiter) (pin : Pin) (use : PinUse) : Outcome Token :=
  match a.current? pin.name with
  | some current =>
    { result := .error (.alreadyInUse pin.name current.use)
      arbiter := a
      lines := [⟨.debug, s!"Reservation of {pin.name} as {use.text} denied, held as {current.use.text}"⟩] }
  | none =>
    { result := .ok ⟨pin.name, use, a.nextId⟩
      arbiter := ⟨a.slots.set pin.name (some ⟨a.nextId, use⟩), a.nextId + 1⟩
      lines := [⟨.debug, s!"Pin {pin.name} reserved as {use.text}"⟩] }

/-- Claims a pin for a use that it supports. -/
def reserveChecked (a : Arbiter) (pin : Pin) (use : PinUse) : Outcome Token :=
  if pin.supports use then a.reserve pin use
  else { result := .error (.unsupported pin.name use pin.describeChannels), arbiter := a, lines := [] }

/-- Ends the reservation that a token stands for. -/
def release (a : Arbiter) (token : Token) : Outcome Unit :=
  match a.slots.get? token.pin with
  | none | some none => { result := .error (.notReserved token.pin), arbiter := a, lines := [] }
  | some (some current) =>
    if current.id ≠ token.id then { result := .error (.staleToken token.pin), arbiter := a, lines := [] }
    else
      { result := .ok ()
        arbiter := { a with slots := a.slots.set token.pin none }
        lines := [⟨.debug, s!"Pin {token.pin} released"⟩] }

end Arbiter

end Peripherals
