import Peripherals.Bench.Job

/-!
# `Peripherals.Bench.Run` — running steps on a virtual clock

Nothing takes time but waiting. While anything can go on the clock stands still; when everything waits it jumps to
the next time for which something waits.

* `Scene`, `Act` — a step with others that come while it is under way, and such a scene under way;
* `settle` — lets all tasks run to a standstill;
* `perform` — a scene from beginning to end;
* `Entry` — what there is to report after a step;
* `World.run` — a whole list of scenes.
-/

namespace Peripherals.Bench

open Coprocessor

/-! ## Scenes -/

/-- A step, and the scenes that come while it is under way, one after the other. Each has the number of milliseconds
after the beginning of the step before which it does not begin. -/
structure Scene where
  step : Step
  during : List (Nat × Scene) := []

/-- What a scene comes to. -/
inductive Result where
  /-- The bench is ready. -/
  | started
  | single (answer : Answer)
  /-- How long the step took, in milliseconds, and what came of the scenes during it. -/
  | scene (answer : Answer) (elapsed : Nat) (during : List Result)

/-- A scene under way. Times are times of the clock. -/
structure Act where
  begun : Nat
  main : Job
  /-- When the step was over. -/
  ended : Option Nat
  /-- The scenes to come during the step. -/
  pending : List (Nat × Scene)
  /-- The scene during the step that is under way. -/
  current : Option Act
  /-- What came of the scenes before that. -/
  results : List Result

namespace Act

/-- Whether the step and all scenes during it are over. -/
def isOver (a : Act) : Bool := a.ended.isSome && a.pending.isEmpty && a.current.isNone

/-- **What a scene came to.** A step that waits for what never comes has no answer of its own. -/
def result (a : Act) : Result :=
  let answer := a.main.answer?.getD .timedOut
  if a.results.isEmpty then .single answer
  else .scene answer (a.ended.getD a.begun - a.begun) a.results

/-- The times at which a scene goes on. -/
def wakes : Act → List Nat
  | ⟨_, main, _, _, some inner, _⟩ => main.wakes ++ inner.wakes
  | ⟨_, main, _, pending, none, _⟩ => main.wakes ++ (pending.head?.map (·.1)).toList

/-- The things that a scene holds on to. -/
def uses : Act → List Nat
  | ⟨_, main, _, _, some inner, _⟩ => main.uses ++ inner.uses
  | ⟨_, main, _, _, none, _⟩ => main.uses

end Act

/-- Begins a scene. -/
def Scene.enact (scene : Scene) : Bench Act := do
  let begun := (← get).now
  let main ← start scene.step
  pure ⟨begun, main, none, scene.during.map fun e => (begun + e.1, e.2), none, []⟩

/-- What is in use stays while something is done, even if its slot is given to something else meanwhile. -/
def whileUsing {α : Type} (things : List Nat) (action : Bench α) : Bench α := do
  let others := (← get).busy
  modify fun w => { w with busy := things ++ others }
  let result ← action
  modify fun w => { w with busy := others }
  pure result

namespace Act

mutual

/-- Goes on as far as possible without the tasks: first the step, then the scenes during it. The answer is whether
anything was done. -/
def advance : Nat → Act → Bench (Act × Bool)
  | 0, a => pure (a, false)
  | fuel + 1, a => do
    let (main, first) ← a.main.run turnLimit
    let now := (← get).now
    let ended := a.ended <|> main.answer?.map fun _ => now
    let (a, second) ← whileUsing main.uses (advanceInner fuel { a with main, ended })
    pure (a, first || second)

/-- The scenes during a step go on. -/
def advanceInner : Nat → Act → Bench (Act × Bool)
  | 0, a => pure (a, false)
  | fuel + 1, a => do
    match a.current, a.pending with
    | some inner, _ =>
      let (inner, did) ← advance fuel inner
      if inner.isOver then
        let (a, _) ← advanceInner fuel { a with current := none, results := a.results ++ [inner.result] }
        pure (a, true)
      else pure ({ a with current := some inner }, did)
    | none, [] => pure (a, false)
    | none, (time, scene) :: pending =>
      if time ≤ (← get).now then
        let inner ← scene.enact
        let (a, _) ← advanceInner fuel { a with pending, current := some inner }
        pure (a, true)
      else pure (a, false)

end

end Act

/-! ## Standstill -/

/-- The most rounds that a scene takes. -/
def roundLimit : Nat := 100000000

/-- One round of the tasks. The answer is whether there was anything to do. -/
def runBackground : Bench Bool := do
  let did ← runTasks roundLimit
  sweep
  let more ← resume
  pure (did || more)

/-- Runs tasks until none finds anything to do. -/
def quiesce : Nat → Bench Unit
  | 0 => pure ()
  | fuel + 1 => do
    if ← runBackground then quiesce fuel

/-- Whether a slot of a board holds a wireless adapter. -/
def World.hasRadio (w : World) : Bool :=
  w.device.isSome && w.slots.entries.any fun e =>
    match w.things.get? e.2 with
    | some (.radio _) => true
    | _ => false

/-- **Lets everything come to a standstill.** On a board with a wireless adapter this takes a millisecond. -/
def settle : Bench Unit := do
  quiesce roundLimit
  if (← get).hasRadio then
    advanceTo ((← get).now + 1)
    quiesce roundLimit

/-! ## Performance -/

namespace Act

/-- One round: the scene goes first, then what runs in the background. -/
def round (a : Act) : Bench (Act × Bool) := do
  let (a, first) ← whileUsing [] (a.advance turnLimit)
  let second ← whileUsing a.uses runBackground
  pure (a, first || second)

/-- The next time for which something waits. -/
def wake? (a : Act) : Bench (Option Nat) := do
  let w ← get
  pure ((a.wakes ++ w.wakes).filter (w.now < ·)).min?

/-- Runs until the scene is over. When nothing can be done the clock jumps. -/
def run (a : Act) : Nat → Bench Act
  | 0 => pure a
  | fuel + 1 => do
    let (a, did) ← a.round
    if a.isOver then pure a
    else if did then a.run fuel
    else
      match ← a.wake? with
      | none => pure a
      | some wake =>
        advanceTo wake
        a.run fuel

end Act

/-- **Performs a scene.** -/
def perform (scene : Scene) : Bench Result := do
  pure (← (← scene.enact).run roundLimit).result

/-! ## Reports -/

/-- What there is to report after a step. -/
structure Entry where
  result : Result
  calls : List Driver.Record
  commands : List Command
  /-- How many pins are reserved; only a board has pins. -/
  reserved : Option Nat
  notices : List (Slot × List (Received Notice))
  connectivity : List (Slot × List (Received Network.Event))
  sessions : List (Slot × Session)
  changes : List (Slot × Changes)
  merged : List (Received (Nat × Network.Event))
  log : List Log.Line

/-- The adapters in slots. -/
def World.radios (w : World) : List (Slot × Nat × Radio) :=
  w.slots.entries.filterMap fun (slot, n) =>
    match w.things.get? n with
    | some (.radio r) => some (slot, n, r)
    | _ => none

/-- The ports in slots whose changes are told. -/
def World.changes (w : World) : List (Slot × Nat × Changes × Thing) :=
  w.slots.entries.filterMap fun (slot, n) =>
    ((w.things.get? n).bind Thing.drainChanges).map fun (changes, t) => (slot, n, changes, t)

/-- **Takes a report**: everything that has come up since the one before. -/
def report (result : Result) : Bench Entry := do
  let w ← get
  let radios := w.radios
  let changes := w.changes
  let things := radios.foldl (fun things (_, n, r) => things.set n (.radio r.caughtUp)) w.things
  let things := changes.foldl (fun things (_, n, _, t) => things.set n t) things
  let records := w.hardware.driver.records
  set { w with
    things
    mergedPlace := w.registry.merged.subscribe
    reported := w.script.commands.length
    everCalled := w.everCalled || !records.isEmpty
    hardware := { w.hardware with driver := w.hardware.driver.clearRecords, log := #[] } }
  pure
    { result
      calls := records.toList
      commands := w.script.commands.drop w.reported
      reserved := w.device.map fun _ => w.hardware.arbiter.reservedCount
      notices := (radios.map fun (slot, _, r) => (slot, r.adapter.notices.drain r.noticePlace)).filter
        fun e => !e.2.isEmpty
      connectivity := (radios.map fun (slot, _, r) =>
        (slot, r.adapter.connectivity.drain r.connectivityPlace)).filter fun e => !e.2.isEmpty
      sessions := radios.map fun (slot, _, r) => (slot, r.adapter.session)
      changes := (changes.map fun (slot, _, c, _) => (slot, c)).filter fun e => !e.2.isEmpty
      merged := w.registry.merged.drain w.mergedPlace
      log := w.hardware.log.toList }

/-- Performs scenes in order, with a report after each. -/
def performAll : List Scene → Bench (List Entry)
  | [] => pure []
  | scene :: rest => do
    let result ← perform scene
    settle
    let entry ← report result
    pure (entry :: (← performAll rest))

/-- **Runs a bench**: the report of the start, then one for each scene. -/
def World.run (w : World) (scenes : List Scene) : List Entry :=
  let program : Bench (List Entry) := do
    settle
    let entry ← report .started
    pure (entry :: (← performAll scenes))
  (StateT.run program w).1

/-! ## Benches -/

/-- A bench with a board. -/
def withBoard (runtime : Bool) (pins : List Pin) (config : Config) : Except Config.Defect World := do
  let (device, lines) ← Device.create pins config
  let w := World.empty runtime
  pure { w with device := some device, hardware := { w.hardware with log := lines.toArray } }

/-- The slot of the only adapter of a bench without a board. -/
def mainSlot : Slot := "w"

/-- A bench with a wireless adapter over the scripted coprocessor. It polls for events, or has them delivered. -/
def withAdapter (runtime : Bool) (config : WirelessConfig) (polls : Bool) : Except Coprocessor.Error World := do
  let adapter ← Adapter.create config runtime wall
  let radio := Radio.new (.new adapter polls wall) .scripted
  pure (StateT.run (keep mainSlot (.radio radio)) (World.empty runtime)).2

end Peripherals.Bench
