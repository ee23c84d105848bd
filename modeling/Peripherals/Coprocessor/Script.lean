import Peripherals.Coprocessor.Error
import Peripherals.Coprocessor.Frame
import Peripherals.Table

/-!
# `Peripherals.Coprocessor.Script` — a coprocessor that answers from a script

The scripted coprocessor stands in for the real one. It answers each wireless function from a queue, a success
without payload if the queue is empty; it can be made to fail, or to hold its answers back for a time; and it hands
out queued events to polls.

* `Script.receive` — a command comes in: it is answered, or held;
* `Script.collect` — the answer to a held command, taken when its time has come;
* the remaining operations write the script.
-/

namespace Peripherals.Coprocessor

/-- The state of a scripted coprocessor. -/
structure Script where
  responses : Table Function (List Response)
  delays : Table Function Duration
  failures : Table Function (List Bus.Error)
  /-- The events to hand out. -/
  events : List Event
  /-- The wireless commands that came in. -/
  commands : List Command

/-- What has become of a command that was sent. -/
inductive Transit where
  /-- It has been answered. -/
  | answered (reply : Except Error Response)
  /-- It is held until a time in milliseconds. -/
  | held (function : Function) (release : Nat)

namespace Script

/-- A coprocessor that answers everything with success. -/
def empty : Script := ⟨.empty, .empty, .empty, [], []⟩

instance : Inhabited Script := ⟨empty⟩

/-! ## Scripting -/

/-- Queues the answer to a command of a function. -/
def respond (s : Script) (function : Function) (response : Response) : Script :=
  { s with responses := s.responses.set function (s.responses.getD function [] ++ [response]) }

/-- Holds the commands of a function back for a time. -/
def setDelay (s : Script) (function : Function) (delay : Duration) : Script :=
  { s with delays := s.delays.set function delay }

/-- Makes a command of a function fail. Failures come before answers. -/
def failNext (s : Script) (function : Function) (cause : Bus.Error) : Script :=
  { s with failures := s.failures.set function (s.failures.getD function [] ++ [cause]) }

/-- Queues an event. -/
def pushEvent (s : Script) (event : Event) : Script := { s with events := s.events ++ [event] }

/-- The number of commands of a function that came in. -/
def sent (s : Script) (function : Function) : Nat :=
  s.commands.countP fun c => c.wirelessFunction? == some function

/-! ## Answering -/

/-- **The answer to a command of a function**, taken off the script. -/
def collect (s : Script) (function : Function) : Except Error Response × Script :=
  match s.failures.getD function [] with
  | cause :: rest => (.error (.transport cause), { s with failures := s.failures.set function rest })
  | [] =>
    match s.responses.getD function [] with
    | response :: rest => (.ok response, { s with responses := s.responses.set function rest })
    | [] => (.ok (.ok []), s)

/-- The answer to a poll. -/
def poll (s : Script) : Response × Script :=
  match s.events with
  | event :: rest => (.ok event.encode, { s with events := rest })
  | [] => (.ok [], s)

/-- **A command comes in.** A command to the system is a poll for events; a wireless one is recorded, and held if
its function is to be delayed. A function without a meaning is refused. -/
def receive (s : Script) (c : Command) (now : Nat) : Transit × Script :=
  match c.interface with
  | .system =>
    let (response, s) := s.poll
    (.answered (.ok response), s)
  | .wireless =>
    match c.wirelessFunction? with
    | none => (.answered (.ok ⟨.invalidFunction, []⟩), s)
    | some function =>
      let s := { s with commands := s.commands ++ [c] }
      match s.delays.get? function with
      | some delay => (.held function (now + delay.ceilMillis), s)
      | none =>
        let (reply, s) := s.collect function
        (.answered reply, s)

/-- Looks at a command again: one whose time has come is answered. -/
def proceed (s : Script) (t : Transit) (now : Nat) : Transit × Script :=
  match t with
  | .answered reply => (.answered reply, s)
  | .held function release =>
    if release ≤ now then
      let (reply, s) := s.collect function
      (.answered reply, s)
    else (.held function release, s)

end Script

namespace Transit

/-- The answer, if there is one. -/
def reply? : Transit → Option (Except Error Response)
  | .answered reply => some reply
  | .held .. => none

/-- The time until which a command is held. -/
def wake? : Transit → Option Nat
  | .answered _ => none
  | .held _ release => some release

end Transit

end Peripherals.Coprocessor
