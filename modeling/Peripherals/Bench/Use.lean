import Peripherals.Bench.Answer

/-!
# `Peripherals.Bench.Use` — what is done with things at once

* `Cue.play` — writes a script or looks at one;
* `transmit` — sends a command to the coprocessor, whichever way it goes;
* `use` — does something with the thing in a slot.
-/

namespace Peripherals.Bench

open Coprocessor

/-! ## Cues -/

/-- Changes the simulated driver. -/
def onDriver (f : Driver.Simulated → Driver.Simulated) : Bench Answer := do
  modify fun w => { w with hardware := { w.hardware with driver := f w.hardware.driver } }
  pure .ok

/-- Changes the script of the coprocessor. -/
def onScript (f : Script → Script) : Bench Answer := do
  modify fun w => { w with script := f w.script }
  pure .ok

/-- **Plays a cue.** -/
def Cue.play : Cue → Bench Answer
  | .addDevice address => onDriver (·.addDevice address)
  | .queueTwoWire address reply => onDriver (·.queueTwoWire address reply)
  | .queueFourWire reply => onDriver (·.queueFourWire reply)
  | .queueReadings key values => onDriver (·.queueReadings key values)
  | .setLevel key level => onDriver (·.setLevel key level)
  | .lookAtLine key => do
    let driver := (← get).hardware.driver
    pure (.line (driver.levels.get? key) (driver.configured.get? key))
  | .injectFault opcode code => onDriver (·.injectFault opcode code)
  | .countCalls opcode => do
    let w ← get
    let records := w.hardware.driver.records
    pure (.calls (records.toList.countP (·.opcode == opcode)) (w.everCalled || !records.isEmpty))
  | .slowCalls => pure .ok
  | .callDriver call => do pure (.reply (← (Hardware.call call).onBench))
  | .respond function response => onScript (·.respond function response)
  | .setDelay function delay => onScript (·.setDelay function delay)
  | .failNext function cause => onScript (·.failNext function cause)
  | .pushEvent event => do
    let _ ← onScript (·.pushEvent event)
    pure (.number (← get).script.events.length)
  | .countEvents => do pure (.number (← get).script.events.length)
  | .countCommands function => do pure (.number ((← get).script.sent function))
  | .cancel token => do
    modify fun w => { w with cancelled := token :: w.cancelled }
    pure (.flag true)

/-! ## Commands to the coprocessor -/

/-- Sends a command over a link. Nothing comes of it if the link is not complete. -/
def sendOver (link : Nat) (c : Command) : Bench (Option (Except Error Response)) := do
  match ← thing? link with
  | some (.link bus select mode) =>
    match ← thing? bus, ← thing? select with
    | some (.fourWire bus), some (.output port) =>
      let (reply, port) ← (Link.send bus ⟨port, mode⟩ c).onBench
      put select (.output port)
      pure (some reply)
    | _, _ => pure none
  | _ => pure none

/-- **Sends a command.** A bus has its answer at once; the scripted coprocessor may hold it back. -/
def transmit (route : Route) (c : Command) : Bench Transit := do
  match route with
  | .scripted =>
    let w ← get
    let (transit, script) := w.script.receive c w.now
    set { w with script }
    pure transit
  | .wired link =>
    match ← sendOver link c with
    | some reply => pure (.answered reply)
    | none => pure (.answered (.error (.transport .shutdown)))

/-- Looks at a command that was sent before. -/
def follow (t : Transit) : Bench Transit := do
  let w ← get
  let (transit, script) := w.script.proceed t w.now
  set { w with script }
  pure transit

/-! ## Buses -/

/-- A buffer to receive into, filled with a pattern that shows what was not written. -/
def buffer (room : Nat) : Bytes := List.replicate room 0xEE

/-- Uses a two-wire bus for the device at an address. -/
def useDevice (bus : TwoWireBus) (address : UInt8) : Use → Bench Answer
  | .read t => do pure (.ofBus .bytes (← (bus.read address (buffer t.room)).run.onBench))
  | .write t => do pure (.ofBus (fun () => .ok) (← (bus.write address t.tx).run.onBench))
  | .exchange t => do pure (.ofBus .bytes (← (bus.transfer address t.tx (buffer t.room)).run.onBench))
  | .readRegister register => do
    pure (.ofBus (fun value : UInt8 => .number value.toNat) (← (bus.readRegister address register).run.onBench))
  | .readRegisters register count => do
    pure (.ofBus .bytes (← (bus.readRegisters address register count).run.onBench))
  | .readRegisterPair register => do
    pure (.ofBus (fun value : UInt16 => .number value.toNat)
      (← (bus.readRegisterPair address register).run.onBench))
  | .writeRegisters register values => do
    pure (.ofBus (fun () => .ok) (← (bus.writeRegisters address register values).run.onBench))
  | _ => pure .noSlot

/-- Uses a two-wire bus. -/
def useTwoWire (n : Nat) (bus : TwoWireBus) : Use → Bench Answer
  | .info => pure (.info (.twoWire bus))
  | .setFrequency requested => do
    let (answered, bus) ← (bus.setFrequency requested).onBench
    put n (.twoWire bus)
    pure (.frequency answered bus.engine.frequency)
  | .shutdown => do pure (.ofBus (fun () => .ok) (← bus.shutdown.run.onBench))
  | .read t => useDevice bus t.address (.read t)
  | .write t => useDevice bus t.address (.write t)
  | .exchange t => useDevice bus t.address (.exchange t)
  | _ => pure .noSlot

/-- Runs a program on a four-wire bus under the selection that a slot names. -/
def runSelected {α : Type} (bus : FourWireBus) (select : Option (Slot × ChipSelectMode))
    (program : FourWireBus.Program α) (answer : Except Bus.Error α → Answer) : Bench Answer := do
  match select with
  | none => do
    let (outcome, _) ← (bus.transaction none program).onBench
    pure (answer outcome)
  | some (slot, mode) =>
    match ← inSlot? slot with
    | some (m, .output port) =>
      let (outcome, port) ← (bus.transaction (some ⟨port, mode⟩) program).onBench
      match port with
      | some port => put m (.output port)
      | none => pure ()
      pure (answer outcome)
    | _ => pure .noSlot

/-- The program that makes transfers in order, up to the first that fails. -/
def inOrder (received : List Bytes) :
    List (Bytes × Nat) → FourWireBus.Program (Except Bus.Error Unit × List Bytes)
  | [] => .stop (.ok (.ok (), received))
  | (tx, room) :: rest => .transfer tx (buffer room) fun
    | .ok rx => inOrder (received ++ [rx]) rest
    | .error e => .stop (.ok (.error e, received))

/-- Uses a four-wire bus. -/
def useFourWire (n : Nat) (bus : FourWireBus) : Use → Bench Answer
  | .info => pure (.info (.fourWire bus))
  | .configure settings => do
    let (answered, bus) ← (bus.configure settings).onBench
    put n (.fourWire bus)
    pure (.clock answered)
  | .read t => runSelected bus t.select (.single [] (buffer t.room)) (.ofBus .bytes)
  | .write t => runSelected bus t.select (.single t.tx []) (.ofBus fun _ => .ok)
  | .exchange t => runSelected bus t.select (.single t.tx (buffer t.room)) (.ofBus .bytes)
  | .transaction select parts => runSelected bus select (inOrder [] parts) fun
    | .ok (outcome, received) => .transaction outcome received
    | .error e => .transaction (.error e) []
  | _ => pure .noSlot

/-! ## Ports -/

/-- Uses an output. -/
def useOutput (n : Nat) (port : OutputPort) : Use → Bench Answer
  | .info => pure (.info (.output port))
  | .set level => do
    let (result, port) ← (port.write level).onBench
    put n (.output port)
    pure (.ofDriven (fun () => .ok) result)
  | .toggle => do
    let (result, port) ← port.toggle.onBench
    put n (.output port)
    pure (.ofDriven .flag result)
  | _ => pure .noSlot

/-- Uses an input. -/
def useInput (port : InputPort) : Use → Bench Answer
  | .info => pure (.info (.input port))
  | .state => do pure (.ofDriven .flag (← port.read.run.onBench))
  | _ => pure .noSlot

/-- Uses a bidirectional port. -/
def useBidirectional (n : Nat) (port : BidirectionalPort) (place : Nat) : Use → Bench Answer
  | .info => pure (.info (.bidirectional port place))
  | .state => do
    let (result, port) ← port.read.onBench
    put n (.bidirectional port place)
    pure (.ofDriven .flag result)
  | .set level => do
    let (result, port) ← (port.write level).onBench
    put n (.bidirectional port place)
    pure (.ofDriven (fun () => .ok) result)
  | .setDirection direction => do
    let (result, port) ← (port.setDirection direction).onBench
    put n (.bidirectional port place)
    pure (.ofDriven (fun () => .ok) result)
  | .setFilter filter value => do
    let (result, port) ← (port.setFilter filter value).onBench
    put n (.bidirectional port place)
    pure (.ofPort (fun () => .ok) result)
  | .interrupts levels => do
    put n (.bidirectional (levels.foldl BidirectionalPort.interrupt port) place)
    pure .ok
  | _ => pure .noSlot

/-- Uses an analog port. -/
def useAnalog (n : Nat) (port : AnalogPort) (place : Nat) : Use → Bench Answer
  | .info => pure (.info (.analog port place))
  | .startSampling interval => do
    match port.start (← get).runtime interval wall with
    | .ok started =>
      put n (.analog started place)
      if !port.isSampling then spawn (.sampler n port.nextLoop)
      pure .ok
    | .error e => pure (.failed (.port e))
  | _ => pure .noSlot

/-! ## Links and adapters -/

/-- Uses a link. -/
def useLink (n select : Nat) (mode : ChipSelectMode) : Use → Bench Answer
  | .info => do
    match ← thing? select with
    | some (.output port) => pure (.diagnostic (Link.describe port.pin.name mode))
    | _ => pure .noSlot
  | .send c => do
    match ← sendOver n c with
    | some reply => pure (.ofResult .coprocessor .response reply)
    | none => pure .noSlot
  | .poll => do
    match ← sendOver n .pollEvent with
    | some reply => pure (.ofResult .coprocessor .event (polled reply))
    | none => pure .noSlot
  | _ => pure .noSlot

/-- The address of the station of an adapter. -/
def stationMac (n : Nat) (r : Radio) : Bench (Option Mac) := do
  let (mac, adapter, lines) := r.adapter.stationMac
  tell lines
  put n (.radio (r.withAdapter adapter))
  pure mac

/-- Uses a wireless adapter. -/
def useRadio (n : Nat) (r : Radio) : Use → Bench Answer
  | .deliver event count => do
    let (accepted, station) := r.station.deliver event count
    put n (.radio { r with station })
    pure (.number accepted)
  | .setScanPeriod period => do
    match r.adapter.setScanPeriod period with
    | .ok adapter =>
      put n (.radio (r.withAdapter adapter))
      pure (.scanPeriod (.ok ()) adapter.scanPeriod)
    | .error e => pure (.scanPeriod (.error (.coprocessor e)) r.adapter.scanPeriod)
  | .setRetryCount count => do
    let (adapter, lines) := r.adapter.setRetryCount count
    tell lines
    put n (.radio (r.withAdapter adapter))
    pure (.number adapter.retryCount.toNat)
  | .settings => do
    let (station, adapter, lines) := r.adapter.stationMac
    let (softAp, adapter, more) := adapter.softApMac
    tell (lines ++ more)
    put n (.radio (r.withAdapter adapter))
    pure (.settings adapter station softAp)
  | _ => pure .noSlot

/-- Adds an adapter to the registry. -/
def register (n : Nat) (t : Thing) : Bench Answer := do
  match t.connectivity? with
  | none => pure .noSlot
  | some channel =>
    let w ← get
    match w.registry.add w.runtime n t.adapterName channel with
    | .error e => pure (.failed (.network e))
    | .ok (index, registry, lines) =>
      set { w with registry }
      spawn (.forwarder index)
      tell lines
      pure (.number index)

/-- An adapter of the bench's own tells of changes. -/
def Fake.raise (f : Fake) (events : List Network.Event) : Fake :=
  { f with
    connected := events.getLast?.elim f.connected (· == .connected)
    connectivity := f.connectivity.sendAll events }

/-- **Does something with the thing in a slot.** -/
def use (slot : Slot) (u : Use) : Bench Answer := do
  match ← inSlot? slot with
  | none => pure .noSlot
  | some (n, t) =>
    match t, u with
    | t, .register => register n t
    | .twoWire bus, u => useTwoWire n bus u
    | .peripheral bus address, u =>
      match ← thing? bus with
      | some (.twoWire bus) =>
        match u with
        | .info => pure (.peripheral address bus.engine.frequency)
        | u => useDevice bus address u
      | _ => pure .noSlot
    | .fourWire bus, u => useFourWire n bus u
    | .output port, u => useOutput n port u
    | .input port, u => useInput port u
    | .bidirectional port place, u => useBidirectional n port place u
    | .analog port place, u => useAnalog n port place u
    | .link _ select mode, u => useLink n select mode u
    | .radio r, u => useRadio n r u
    | .fake f, .raise events => do
      put n (.fake (f.raise events))
      pure .ok
    | .fake _, _ => pure .noSlot

end Peripherals.Bench
