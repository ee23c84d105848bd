import Peripherals.Bench.Use

/-!
# `Peripherals.Bench.Task` — what runs in the background

Adapters handle events and pump them, analog ports sample, errands carry commands, and the registry forwards
events. A task that is woken takes turns until it finds nothing to do. So that none keeps the others waiting, a
task whose waits are over at once again and again has to give way after a while.

* `Task.enter`, `Task.turn` — what a task does before it waits for the first time, and between two waits;
* `Task.run` — the turns that a task takes in a row;
* `runTasks` — all tasks that can go on, in the order in which they were woken;
* `World.wakes` — the times for which tasks wait.
-/

namespace Peripherals.Bench

open Coprocessor

/-! ## Turns -/

/-- Handles the oldest event in an inbox. -/
def dispatchTurn (n : Nat) (r : Radio) : Bench (Turned Unit) := do
  match r.station.oldest? with
  | some (event, station) =>
    -- There is room in the inbox before the event is handled.
    let r := { r with station }
    put n (.radio r)
    let (adapter, lines) := r.adapter.dispatch event wall
    tell lines
    put n (.radio (r.withAdapter adapter))
    pure (.moved ())
  | none =>
    if r.station.closed then
      tell Station.farewell
      pure (.over ())
    else pure .waits

/-- A pump polls. Polls are answered at once. -/
def poll (n : Nat) (r : Radio) : Bench Unit := do
  tell r.station.greeting
  match (← transmit r.route .pollEvent).reply? with
  | none => pure ()
  | some reply =>
    let (station, lines) := r.station.takeReply (← get).now wall reply
    tell lines
    put n (.radio { r with station })

/-- A pump puts its event into the inbox if it has one, and polls. -/
def pumpTurn (n : Nat) (r : Radio) : Bench (Turned Unit) := do
  match r.station.wish (← get).now with
  | .nothing => pure .waits
  | .offer event =>
    let r := { r with station := r.station.accept event }
    put n (.radio r)
    poll n r
    pure (.moved ())
  | .poll =>
    poll n r
    pure (.moved ())

/-- A loop of an analog port goes on. -/
def samplerTurn (n loop : Nat) (port : AnalogPort) (place : Nat) : Bench (Turned Unit) := do
  match ← (port.turnLoop loop (← get).now wall).onBench with
  | .waits => pure .waits
  | .moved port =>
    put n (.analog port place)
    pure (.moved ())
  | .over port =>
    put n (.analog port place)
    pure (.over ())

/-- Changes the stage of an errand. -/
def keepStage (number : Nat) (e : Errand) (stage : Errand.Stage) : Bench Unit :=
  modify fun w => { w with errands := w.errands.set number { e with stage } }

/-- An errand looks after its command. -/
def errandTurn (number : Nat) (e : Errand) : Bench (Turned Unit) := do
  match e.stage with
  | .unsent _ => pure .waits
  | .sent transit =>
    match ← follow transit with
    | .answered reply =>
      keepStage number e (.sent (.answered reply))
      pure (.over ())
    | .held .. => pure .waits

/-- A forwarder reads from the channel of its adapter. -/
def forwarderTurn (index : Nat) : Bench (Turned Unit) := do
  let w ← get
  match (w.channel? index).bind (w.registry.forward index) with
  | none => pure .waits
  | some (registry, lines) =>
    set { w with registry }
    tell lines
    pure (.moved ())

/-- **What a task does before it waits for the first time.** Nothing if it has done it. -/
def Task.enter : Task → Bench Unit
  | .sampler n loop => do
    match ← thing? n with
    | some (.analog port place) =>
      let port ← (port.enterLoop loop (← get).now wall).onBench
      put n (.analog port place)
    | _ => pure ()
  | .errand number => do
    match (← get).errands.get? number with
    | some ⟨route, .unsent command⟩ =>
      let transit ← transmit route command
      keepStage number ⟨route, .unsent command⟩ (.sent transit)
    | _ => pure ()
  | .dispatch _ | .pump _ | .forwarder _ => pure ()

/-- **What a task does between two waits.** -/
def Task.turn : Task → Bench (Turned Unit)
  | .dispatch n => do
    match ← thing? n with
    | some (.radio r) => dispatchTurn n r
    | _ => pure (.over ())
  | .pump n => do
    match ← thing? n with
    | some (.radio r) => pumpTurn n r
    | _ => pure (.over ())
  | .sampler n loop => do
    match ← thing? n with
    | some (.analog port place) => samplerTurn n loop port place
    | _ => pure (.over ())
  | .errand number => do
    match (← get).errands.get? number with
    | some e => errandTurn number e
    | none => pure (.over ())
  | .forwarder index => forwarderTurn index

/-! ## All tasks -/

/-- How many waits of a task may be over at once before it has to give way. -/
def share : Nat := 128

/-- Gives a task turns until it waits, is over, or has had `left` turns. -/
def Task.turns (t : Task) : Nat → Bench Unit
  | 0 => modify fun w => { w with tasks := w.tasks.giveWay t }
  | left + 1 => do
    match ← t.turn with
    | .waits => modify fun w => { w with tasks := w.tasks.wait t }
    | .moved () => t.turns left
    | .over () => pure ()

/-- **The turns that a task takes in a row.** -/
def Task.run (t : Task) : Bench Unit := do
  t.enter
  t.turns share

/-- **Runs all tasks that can go on**, first those that were woken first, `fuel` tasks at most. The answer is
whether there were any. -/
def runTasks : Nat → Bench Bool
  | 0 => pure false
  | fuel + 1 => do
    let w ← get
    match w.tasks.next? with
    | none => pure false
    | some (t, tasks) =>
      set { w with tasks }
      t.run
      let _ ← runTasks fuel
      pure true

/-- Those that gave way can go on again. The answer is whether there were any. -/
def resume : Bench Bool := do
  let w ← get
  set { w with tasks := w.tasks.resume }
  pure (!w.tasks.yielded.isEmpty)

/-! ## Times -/

/-- The time for which the tasks of a thing wait. -/
def Thing.wake? : Thing → Option Nat
  | .radio r => r.station.wake?
  | .analog port _ => port.wake?
  | _ => none

/-- The time for which an errand waits. -/
def Errand.wake? (e : Errand) : Option Nat :=
  match e.stage with
  | .sent transit => transit.wake?
  | .unsent _ => none

/-- The times for which tasks wait. -/
def World.wakes (w : World) : List Nat :=
  (w.things.entries.filterMap fun e => e.2.wake?) ++ w.errands.entries.filterMap fun e => e.2.wake?

end Peripherals.Bench
