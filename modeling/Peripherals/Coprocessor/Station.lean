import Peripherals.Coprocessor.Adapter
import Peripherals.Coprocessor.Pump

/-!
# `Peripherals.Coprocessor.Station` — an adapter and the events on their way to it

Events wait in an inbox of limited size until the adapter handles them, one at a time and in order. They are put
there by a pump, or delivered from outside.

* `Station.deliver`, `Station.close` — events from outside, and their end;
* `Station.oldest?` — the event to handle next;
* `Station.wish`, `Station.accept`, `Station.takeReply` — the turns of the pump.
-/

namespace Peripherals.Coprocessor

/-- An adapter and the events on their way to it. -/
structure Station where
  adapter : Adapter
  /-- The events that wait to be handled, oldest first. -/
  inbox : List Event
  pump : Option Pump
  /-- Whether no more events will come. -/
  closed : Bool

namespace Station

/-- How many events an inbox holds. -/
def inboxCapacity : Nat := 64

/-- A station at which nothing has happened. -/
def new (adapter : Adapter) (polls : Bool) (wall : Nat) : Station :=
  ⟨adapter, [], if polls then some (.new wall) else none, false⟩

/-- The room that is left in the inbox. -/
def room (s : Station) : Nat := inboxCapacity - s.inbox.length

/-- Whether events come from outside. A pump leaves no way in. -/
def isOpen (s : Station) : Bool := s.pump.isNone && !s.closed

/-- Delivers an event several times; those for which there is no room are lost. The answer is how many there was
room for. -/
def deliver (s : Station) (event : Event) (count : Nat) : Nat × Station :=
  let accepted := if s.isOpen then min count s.room else 0
  (accepted, { s with inbox := s.inbox ++ List.replicate accepted event })

/-- Nothing more comes from outside. Events that a pump fetches are not concerned. -/
def close (s : Station) : Station := { s with closed := s.pump.isNone }

/-- **The event to handle next**, and the station without it. -/
def oldest? (s : Station) : Option (Event × Station) :=
  match s.inbox with
  | [] => none
  | event :: inbox => some (event, { s with inbox })

/-- Whether there is something to do for who handles the events: an event, or to leave as no more will come. -/
def hasWork (s : Station) : Bool := !s.inbox.isEmpty || s.closed

/-- What is told once no more events will come. -/
def farewell : List Log.Line := [⟨.debug, "Coprocessor event dispatch stopped"⟩]

/-! ## The pump -/

/-- What the pump wants to do and can do. It holds on to its event while the inbox is full. -/
def wish (s : Station) (now : Nat) : Pump.Wish :=
  match s.pump with
  | none => .nothing
  | some p =>
    match p.wish now with
    | .offer event => if s.room = 0 then .nothing else .offer event
    | w => w

/-- Whether there is something for the pump to do. -/
def pumps (s : Station) (now : Nat) : Bool :=
  match s.wish now with
  | .nothing => false
  | .poll | .offer _ => true

/-- The event of the pump goes into the inbox. -/
def accept (s : Station) (event : Event) : Station :=
  { s with inbox := s.inbox ++ [event], pump := s.pump.map Pump.delivered }

/-- What the pump tells before it polls. -/
def greeting (s : Station) : List Log.Line := (s.pump.map Pump.greeting).getD []

/-- **The pump takes the answer to a poll.** -/
def takeReply (s : Station) (now wall : Nat) (reply : Except Error Response) : Station × List Log.Line :=
  match s.pump with
  | none => (s, [])
  | some p =>
    let (p, lines) := p.receive now wall reply
    ({ s with pump := some p }, lines)

/-- The time until which the pump rests. -/
def wake? (s : Station) : Option Nat := s.pump.bind Pump.wake?

end Station

end Peripherals.Coprocessor
