import Peripherals.Bench.Step
import Peripherals.Coprocessor.Link
import Peripherals.Coprocessor.Script
import Peripherals.Coprocessor.Station
import Peripherals.Network.Registry
import Peripherals.Schedule

/-!
# `Peripherals.Bench.World` — the state of a bench

Things have numbers. A slot, another thing or the registry may hold on to a thing; one that nothing holds on to is
ended and forgotten.

* `Thing`, `World` — the state;
* `Task`, `World.goesOn` — what runs in the background, and whether it can go on;
* `Action.onBench` — something done to the hardware, done on the bench;
* `put` — a thing changes, and the tasks for which this is something to do are woken;
* `held` — the things that are held on to, and `sweep`, the end of all others;
* `drain` — what subscribers have to read.
-/

namespace Peripherals.Bench

open Coprocessor

/-! ## Things -/

/-- How commands reach the coprocessor. -/
inductive Route where
  /-- The scripted coprocessor takes them. -/
  | scripted
  /-- They go over the link with this number. -/
  | wired (link : Nat)
  deriving DecidableEq

/-- A wireless adapter on the bench. -/
structure Radio where
  station : Station
  route : Route
  /-- The places of the bench in the channels of the adapter. -/
  noticePlace : Nat
  connectivityPlace : Nat

namespace Radio

/-- A radio that the bench begins to listen to. -/
def new (station : Station) (route : Route) : Radio :=
  ⟨station, route, station.adapter.notices.subscribe, station.adapter.connectivity.subscribe⟩

/-- The adapter of a radio. -/
def adapter (r : Radio) : Adapter := r.station.adapter

/-- The radio with its adapter changed. -/
def withAdapter (r : Radio) (adapter : Adapter) : Radio := { r with station := { r.station with adapter } }

/-- The radio once everything that its adapter has told is read. -/
def caughtUp (r : Radio) : Radio := .new r.station r.route

end Radio

/-- An adapter of the bench's own. -/
structure Fake where
  name : String
  connected : Bool
  connectivity : Broadcast Network.Event

/-- A thing on the bench. Ports whose changes are told come with the place of the bench in their channel. -/
inductive Thing where
  | twoWire (bus : TwoWireBus)
  | peripheral (bus : Nat) (address : UInt8)
  | fourWire (bus : FourWireBus)
  | output (port : OutputPort)
  | input (port : InputPort)
  | bidirectional (port : BidirectionalPort) (place : Nat)
  | analog (port : AnalogPort) (place : Nat)
  | link (bus select : Nat) (mode : ChipSelectMode)
  | radio (r : Radio)
  | fake (f : Fake)

namespace Thing

/-- The things that a thing holds on to. -/
def holds : Thing → List Nat
  | .peripheral bus _ => [bus]
  | .link bus select _ => [bus, select]
  | .radio r =>
    match r.route with
    | .wired number => [number]
    | .scripted => []
  | _ => []

/-- Ends a thing. -/
def close : Thing → Action Unit
  | .output port => port.close
  | .input port => port.close
  | .bidirectional port _ => port.close
  | .analog port _ => port.close
  | _ => pure ()

/-- The channel on which a thing tells changes of connectivity, if it is an adapter. -/
def connectivity? : Thing → Option (Broadcast Network.Event)
  | .radio r => some r.adapter.connectivity
  | .fake f => some f.connectivity
  | _ => none

/-- Whether a thing is connected. -/
def isConnected : Thing → Bool
  | .radio r => r.adapter.isConnected
  | .fake f => f.connected
  | _ => false

/-- The name of an adapter. -/
def adapterName : Thing → String
  | .radio _ => Adapter.name
  | .fake f => f.name
  | _ => ""

end Thing

/-! ## The world -/

/-- A command on its way by itself: not yet sent, or sent. -/
inductive Errand.Stage where
  | unsent (command : Command)
  | sent (transit : Transit)

/-- A command on its way by itself. -/
structure Errand where
  route : Route
  stage : Errand.Stage

/-- What runs in the background. Things, errands and members of the registry are given by their numbers. -/
inductive Task where
  /-- Handles the events in the inbox of a radio. -/
  | dispatch (radio : Nat)
  | pump (radio : Nat)
  /-- A loop of an analog port. -/
  | sampler (port loop : Nat)
  | errand (number : Nat)
  | forwarder (index : Nat)
  deriving DecidableEq

/-- The thing that a task belongs to and ends with. -/
def Task.owner? : Task → Option Nat
  | .dispatch n | .pump n | .sampler n _ => some n
  | .errand _ | .forwarder _ => none

/-- The state of a bench. -/
structure World where
  /-- The time in milliseconds. -/
  now : Nat
  /-- The last time that the clock can tell. It depends on the host. -/
  horizon : Nat
  /-- Whether tasks can run in the background. -/
  runtime : Bool
  hardware : Hardware
  device : Option Device
  script : Script
  things : Table Nat Thing
  slots : Table Slot Nat
  /-- The number of the next thing or errand. -/
  fresh : Nat
  /-- The tokens that were cancelled. -/
  cancelled : List String
  errands : Table Nat Errand
  tasks : Schedule Task
  /-- The things that the steps under way hold on to. -/
  busy : List Nat
  registry : Network.Registry Nat
  /-- The place of the bench in the merged channel of the registry. -/
  mergedPlace : Nat
  /-- The number of commands to the scripted coprocessor that were reported. -/
  reported : Nat
  /-- Whether the driver has ever been called. -/
  everCalled : Bool

/-- An empty bench. -/
def World.empty (runtime : Bool) : World where
  now := 0
  horizon := 9223372036854775807999
  runtime := runtime
  hardware := .empty
  device := none
  script := .empty
  things := .empty
  slots := .empty
  fresh := 0
  cancelled := []
  errands := .empty
  tasks := .empty
  busy := []
  registry := .empty
  mergedPlace := 0
  reported := 0
  everCalled := false

instance : Inhabited World := ⟨.empty true⟩

/-- The time by which the limits on messages go. Nothing takes real time on a bench. -/
def wall : Nat := 0

/-! ## When tasks go on -/

/-- The channel that a forwarder reads. -/
def World.channel? (w : World) (index : Nat) : Option (Broadcast Network.Event) :=
  ((w.registry.get? index).bind w.things.get?).bind Thing.connectivity?

/-- Whether an errand can go on: its command is not sent yet, or its time has come. -/
def Errand.goesOn (e : Errand) (now : Nat) : Bool :=
  match e.stage with
  | .unsent _ | .sent (.answered _) => true
  | .sent (.held _ release) => release ≤ now

/-- **Whether there is something for a task to do.** -/
def World.goesOn (w : World) : Task → Bool
  | .dispatch n =>
    match w.things.get? n with
    | some (.radio r) => r.station.hasWork
    | _ => false
  | .pump n =>
    match w.things.get? n with
    | some (.radio r) => r.station.pumps w.now
    | _ => false
  | .sampler n loop =>
    match w.things.get? n with
    | some (.analog port _) => port.goesOn loop w.now
    | _ => false
  | .errand number => (w.errands.get? number).any (·.goesOn w.now)
  | .forwarder index =>
    match w.channel? index with
    | some channel => w.registry.hasNews index channel
    | none => false

end Bench

/-- Something done on a bench. -/
abbrev Bench := StateM Bench.World

/-- Something done to the hardware, done on a bench. -/
def Action.onBench {α : Type} (a : Action α) : Bench α := do
  let w ← get
  let (result, hardware) := a.run w.hardware
  set { w with hardware }
  pure result

namespace Bench

/-- Writes lines to the log. -/
def tell (lines : List Log.Line) : Bench Unit := (Hardware.tell lines).onBench

/-- A number that nothing has. -/
def freshNumber : Bench Nat := do
  let w ← get
  set { w with fresh := w.fresh + 1 }
  pure w.fresh

/-- The thing with a number. -/
def thing? (n : Nat) : Bench (Option Thing) := do
  pure ((← get).things.get? n)

/-- Wakes the tasks that can go on. -/
def rouse : Bench Unit := modify fun w => { w with tasks := w.tasks.rouse w.goesOn }

/-- Sets a task going. -/
def spawn (t : Task) : Bench Unit := modify fun w => { w with tasks := w.tasks.add t }

/-- **Replaces a thing.** Tasks that waited for the change are woken. -/
def put (n : Nat) (t : Thing) : Bench Unit := do
  modify fun w => { w with things := w.things.set n t }
  rouse

/-- Lets the clock go on to a time. Tasks that waited for it are woken. -/
def advanceTo (time : Nat) : Bench Unit := do
  modify fun w => { w with now := time }
  rouse

/-- The number of the thing in a slot. -/
def number? (slot : Slot) : Bench (Option Nat) := do
  pure ((← get).slots.get? slot)

/-- The thing in a slot, with its number. -/
def inSlot? (slot : Slot) : Bench (Option (Nat × Thing)) := do
  match ← number? slot with
  | none => pure none
  | some n => pure ((← thing? n).map fun t => (n, t))

/-! ## What is held on to -/

/-- The things that errands hold on to. -/
def Errand.holds (e : Errand) : List Nat :=
  match e.route, e.stage with
  | .wired number, .unsent _ | .wired number, .sent (.held ..) => [number]
  | _, _ => []

/-- The things that some of `numbers` hold on to, and they themselves. -/
def World.closure (w : World) (numbers : List Nat) : List Nat :=
  numbers ++ numbers.flatMap fun n => ((w.things.get? n).map Thing.holds).getD []

/-- **The things that are held on to**, by slots, by the registry, by errands and by the steps under way. A chain
of holds has at most three things. -/
def World.held (w : World) : List Nat :=
  let roots := w.busy ++ w.slots.entries.map (·.2) ++ w.registry.members.map (·.adapter) ++
    w.errands.entries.flatMap fun e => e.2.holds
  w.closure (w.closure roots)

/-- Ends and forgets those things of a list that are not among `held`. -/
def endOthers (held : List Nat) : List (Nat × Thing) → Bench Unit
  | [] => pure ()
  | (n, t) :: rest => do
    if n ∉ held then
      t.close.onBench
      modify fun w =>
        { w with things := w.things.erase n, tasks := w.tasks.keepOnly fun task => task.owner? != some n }
    endOthers held rest

/-- **Ends and forgets all things that nothing holds on to.** -/
def sweep : Bench Unit := do
  let w ← get
  endOthers w.held w.things.entries

/-! ## Notices -/

/-- What subscribers of a port are told. -/
inductive Changes where
  | edges (found : List (Received Edge))
  | voltages (found : List (Received VoltageChange))

/-- What the bench has to read of a port, and the port once it is read. -/
def Thing.drainChanges : Thing → Option (Changes × Thing)
  | .bidirectional port place =>
    some (.edges (port.edges.drain place), .bidirectional port port.edges.subscribe)
  | .analog port place =>
    some (.voltages (port.changes.drain place), .analog port port.changes.subscribe)
  | _ => none

/-- Whether there are no changes. -/
def Changes.isEmpty : Changes → Bool
  | .edges found => found.isEmpty
  | .voltages found => found.isEmpty

end Bench

end Peripherals
