import Peripherals.Coprocessor.Error
import Peripherals.Coprocessor.Frame
import Peripherals.Throttle

/-!
# `Peripherals.Coprocessor.Pump` — fetching events

The coprocessor cannot send of its own accord, so its events are polled for. A pump polls as long as there are
events and offers each to an inbox; when there are none, or a poll fails, it rests.

* `polled` — what the answer to a poll means;
* `Pump.wish` — what a pump wants to do now, and `Pump.receive`, what it does with an answer.
-/

namespace Peripherals.Coprocessor

/-- The event in the answer to a poll. An answer without payload means that there is none. -/
def polled : Except Error Response → Except Error (Option Event)
  | .error e => .error e
  | .ok response =>
    if !response.status.isOk then .error (.refused .eventPoll response.status)
    else if response.payload.isEmpty then .ok none
    else match Event.decode response.payload with
      | .ok event => .ok (some event)
      | .error e => .error (.decode e)

/-- Where a pump stands. -/
inductive Pump.Stage where
  /-- It has not run yet. -/
  | fresh
  | polling
  /-- It has an event that is not in the inbox yet. -/
  | offering (event : Event)
  /-- It rests until a time in milliseconds. -/
  | resting (wake : Nat)
  deriving DecidableEq

/-- A pump. -/
structure Pump where
  stage : Pump.Stage
  throttle : Throttle
  deriving DecidableEq

namespace Pump

/-- A pump that has not run yet. -/
def new (wall : Nat) : Pump := ⟨.fresh, .ofLoop wall⟩

/-- How long a pump rests, in milliseconds. -/
def restMillis : Nat := 100

/-- What a pump wants to do. -/
inductive Wish where
  | poll
  | offer (event : Event)
  | nothing

/-- What a pump wants to do at time `now`. -/
def wish (p : Pump) (now : Nat) : Wish :=
  match p.stage with
  | .fresh | .polling => .poll
  | .offering event => .offer event
  | .resting wake => if wake ≤ now then .poll else .nothing

/-- What a pump tells before it polls. -/
def greeting (p : Pump) : List Log.Line :=
  if p.stage = .fresh then [⟨.debug, "Coprocessor event pump started"⟩] else []

/-- **Takes the answer to a poll.** An event is offered, and anything else lets the pump rest. -/
def receive (p : Pump) (now wall : Nat) (reply : Except Error Response) : Pump × List Log.Line :=
  match polled reply with
  | .ok (some event) =>
    ({ p with stage := .offering event },
      [⟨.trace, s!"Coprocessor event {event.function.name} ({event.status.name})"⟩])
  | .ok none => ({ p with stage := .resting (now + restMillis) }, [])
  | .error e =>
    let (throttle, lines) := p.throttle.warn wall s!"Coprocessor event poll failed: {e.message}"
    (⟨.resting (now + restMillis), throttle⟩, lines)

/-- The pump once its event is in the inbox. -/
def delivered (p : Pump) : Pump := { p with stage := .polling }

/-- The time until which a pump rests. -/
def wake? (p : Pump) : Option Nat :=
  match p.stage with
  | .resting wake => some wake
  | _ => none

end Pump

end Peripherals.Coprocessor
