import Peripherals.Bench.Answer

/-!
# `Peripherals.Bench.Make` — making things and dropping them

* `make` — a thing is made and put into a slot; what was there before is let go once the new thing exists;
* `release` — what becomes of a thing when its slot lets go of it;
* `drop` — a slot is emptied.
-/

namespace Peripherals.Bench

open Coprocessor

/-- What came of a blueprint: nothing, because a slot that it names is empty; a failure; or a thing. -/
abbrev Made := Option (Except Failure Thing)

/-- A thing that an attempt of the board made. -/
def ofAttempt {α : Type} (attempt : Attempt Device.Error α) (thing : α → Thing) : Bench Made := do
  let result ← (attempt.run : Action (Except Device.Error α)).onBench
  pure (some ((result.map thing).mapError .device))

/-- Makes a wireless adapter on a bus of the board. Its chip-select port and its link become things of their own. -/
def makeAdapter (device : Device) (bus : Nat) (select : String) : Bench Made := do
  match ← (device.outputPort select true .pushPull).run.onBench with
  | .error e => pure (some (.error (.device e)))
  | .ok port =>
    let line ← freshNumber
    put line (.output port)
    let link ← freshNumber
    put link (.link bus line .activeLow)
    match Adapter.create device.config.wireless (← get).runtime wall with
    | .error e => pure (some (.error (.device (.coprocessor e))))
    | .ok adapter => pure (some (.ok (.radio (.new (.new adapter true wall) (.wired link)))))

/-- Makes what needs the board. -/
def makeOn (device : Device) : Blueprint → Bench Made
  | .twoWire clock data requested => ofAttempt (device.twoWireBus clock data requested) .twoWire
  | .fourWire clock dataOut dataIn settings => ofAttempt (device.fourWireBus clock dataOut dataIn settings) .fourWire
  | .output pin initial kind => ofAttempt (device.outputPort pin initial kind) .output
  | .input pin resistor => ofAttempt (device.inputPort pin resistor) .input
  | .bidirectional pin options =>
    ofAttempt (device.bidirectionalPort pin options) fun port => .bidirectional port port.edges.subscribe
  | .analog pin options => ofAttempt (device.analogPort pin options) fun port => .analog port port.changes.subscribe
  | .adapter bus select => do
    match ← inSlot? bus with
    | some (n, .fourWire _) => makeAdapter device n select
    | _ => pure none
  | _ => pure none

/-- Makes a thing. -/
def build (b : Blueprint) : Bench Made := do
  match b with
  | .fake name capacity => pure (some (.ok (.fake ⟨name, false, .new capacity⟩)))
  | .peripheral bus address =>
    match ← inSlot? bus with
    | some (n, .twoWire _) => pure (some (.ok (.peripheral n address)))
    | _ => pure none
  | .link bus select mode =>
    match ← inSlot? bus, ← inSlot? select with
    | some (n, .fourWire _), some (m, .output _) => pure (some (.ok (.link n m mode)))
    | _, _ => pure none
  | b =>
    match (← get).device with
    | some device => makeOn device b
    | none => pure none

/-- The tasks that a thing has from the start. -/
def Thing.tasks (n : Nat) : Thing → List Task
  | .radio r => .dispatch n :: if r.station.pump.isSome then [.pump n] else []
  | _ => []

/-- A slot lets go of its thing. No more events reach an adapter from outside. -/
def release (slot : Slot) : Bench Unit := do
  match ← inSlot? slot with
  | some (n, .radio r) => put n (.radio { r with station := r.station.close })
  | _ => pure ()

/-- Puts a thing into a slot, and sets its tasks going. -/
def keep (slot : Slot) (t : Thing) : Bench Unit := do
  let n ← freshNumber
  put n t
  (t.tasks n).forM spawn
  release slot
  modify fun w => { w with slots := w.slots.set slot n }

/-- **Makes a thing and puts it into a slot.** -/
def make (slot : Slot) (b : Blueprint) : Bench Answer := do
  let answer ← match ← build b with
    | none => pure .noSlot
    | some (.error f) => pure (.failed f)
    | some (.ok t) => do
      keep slot t
      pure .created
  sweep
  pure answer

/-- **Empties a slot.** -/
def drop (slot : Slot) : Bench Answer := do
  match ← number? slot with
  | none => pure .noSlot
  | some _ =>
    release slot
    modify fun w => { w with slots := w.slots.erase slot }
    sweep
    pure .dropped

end Peripherals.Bench
