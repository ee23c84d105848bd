import Peripherals.Broadcast
import Peripherals.Converter
import Peripherals.Port.Claim
import Peripherals.Schedule
import Peripherals.Table
import Peripherals.Throttle

/-!
# `Peripherals.Port.Analog` — a line that is sampled

An analog port is read on demand, or sampled in the background: the sampler takes a batch of readings, swaps the
whole batch into the port's buffer, and tells subscribers the new mean together with the one before. A batch that
fails or is interrupted is dropped.

* `AnalogPort.create`, `AnalogPort.close` — the port's hold on its pin;
* `AnalogPort.publish` — the three writes that publish a batch: `AnalogPort.swap`, `AnalogPort.replace`,
  `AnalogPort.announce`;
* `Sampler` — where a background loop stands;
* `AnalogPort.start`, `AnalogPort.stop` — the life of a loop;
* `AnalogPort.enterLoop`, `AnalogPort.turnLoop` — what a loop does before it waits for the first time, and between
  two waits;
* `Reading` — where a reading on demand stands, and `AnalogPort.stepReading`, one step of it.
-/

namespace Peripherals

/-- How an analog port takes samples. -/
structure AnalogOptions where
  /-- Samples in a batch, and in a reading on demand. -/
  count : Nat
  sampleInterval : Duration
  updateInterval : Duration
  reference : Voltage

/-- The mean of a batch, and of the one published before it. -/
structure VoltageChange where
  new : Voltage
  old : Option Voltage

/-! ## Where a loop stands -/

/-- Where a background loop stands. Times are in milliseconds. -/
inductive Sampler.Stage where
  /-- It has not run yet. -/
  | fresh
  /-- It waits before it takes the sample after those `taken` for this batch. -/
  | waiting (taken : List Voltage) (wake : Nat)

/-- A background loop. -/
structure Sampler where
  stage : Sampler.Stage
  throttle : Throttle

/-- An analog port. -/
structure AnalogPort where
  claim : Port.Claim
  converter : Converter
  count : Nat
  sampleInterval : Duration
  updateInterval : Duration
  reference : Voltage
  /-- The readings of the batch published last. -/
  buffer : List Voltage
  /-- The mean published last. -/
  previous : Option Voltage
  changes : Broadcast VoltageChange
  /-- The loops that are not over, by their numbers. -/
  loops : Table Nat Sampler
  /-- The number of the loop that runs. Any other was told to stop and has not yet come to it. -/
  running : Option Nat
  /-- The number of the next loop. -/
  nextLoop : Nat

namespace AnalogPort

/-- The pin of the port. -/
def pin (p : AnalogPort) : Pin := p.claim.pin

/-! ## Making and ending ports -/

/-- Claims a pin as an analog input. -/
def create (converter : Converter) (pin : Pin) (options : AnalogOptions) : Attempt Port.Error AnalogPort :=
  if options.count = 0 then throw .noSamples
  else do
    let claim ← Port.Claim.acquire pin .analogInput
    pure
      { claim, converter
        count := options.count
        sampleInterval := options.sampleInterval
        updateInterval := options.updateInterval
        reference := options.reference
        buffer := []
        previous := none
        changes := .ofNotices
        loops := .empty
        running := none
        nextLoop := 0 }

/-- Ends the port. Its pin was never configured, so it is only given back. -/
def close (p : AnalogPort) : Action Unit := p.claim.release

/-! ## Samples and batches -/

/-- One sample. -/
def sample (p : AnalogPort) : Attempt Bus.Error Voltage := p.converter.readVoltage p.pin p.reference

/-- The mean of the batch published last. -/
def voltage? (p : AnalogPort) : Option Voltage := Voltage.mean? p.buffer

/-- A batch becomes the buffer. -/
def swap (p : AnalogPort) (batch : List Voltage) : AnalogPort := { p with buffer := batch }

/-- A mean takes the place of the one published last, which is given back. -/
def replace (p : AnalogPort) (mean : Voltage) : Option Voltage × AnalogPort :=
  (p.previous, { p with previous := some mean })

/-- Subscribers are told. -/
def announce (p : AnalogPort) (change : VoltageChange) : AnalogPort := { p with changes := p.changes.send change }

/-- **Publishes a batch**, in three writes. Each of them has a lock of its own. -/
def publish (p : AnalogPort) (batch : List Voltage) : AnalogPort :=
  match Voltage.mean? batch with
  | none => p
  | some mean =>
    let (old, p) := (p.swap batch).replace mean
    p.announce ⟨mean, old⟩

/-! ## The background loop -/

/-- Whether a loop runs. -/
def isSampling (p : AnalogPort) : Bool := p.running.isSome

/-- Starts a loop, with another interval between batches if one is given. Does nothing if one runs already. -/
def start (p : AnalogPort) (runtime : Bool) (interval : Option Duration) (wall : Nat) :
    Except Port.Error AnalogPort :=
  if p.isSampling then .ok p
  else if !runtime then .error .noRuntime
  else .ok
    { p with
      updateInterval := interval.getD p.updateInterval
      loops := p.loops.set p.nextLoop ⟨.fresh, .ofLoop wall⟩
      running := some p.nextLoop
      nextLoop := p.nextLoop + 1 }

/-- Tells the loop that runs to stop. -/
def stop (p : AnalogPort) : AnalogPort := { p with running := none }

/-- Whether a loop was told to stop. -/
def isLeaving (p : AnalogPort) (number : Nat) : Bool := p.running != some number

/-- A loop takes the sample after those `taken` for its batch, and then waits. A batch that is complete is
published. -/
def takeSample (p : AnalogPort) (number : Nat) (s : Sampler) (taken : List Voltage) (now wall : Nat) :
    Action AnalogPort := do
  let pause (s : Sampler) (taken : List Voltage) (length : Duration) : Table Nat Sampler :=
    p.loops.set number { s with stage := .waiting taken (now + length.ceilMillis) }
  match ← p.sample.run with
  | .error e =>
    -- The samples taken so far are lost; the next batch begins after the usual rest.
    let (throttle, lines) := s.throttle.warn wall s!"Sampling {p.pin.name} failed: {e.message}"
    Hardware.tell lines
    pure { p with loops := pause { s with throttle } [] p.updateInterval }
  | .ok v =>
    let taken := taken ++ [v]
    if taken.length < p.count then pure { p with loops := pause s taken p.sampleInterval }
    else pure ({ p with loops := pause s [] p.updateInterval }.publish taken)

/-- **What a loop does before it waits for the first time.** -/
def enterLoop (p : AnalogPort) (number now wall : Nat) : Action AnalogPort := do
  match p.loops.get? number with
  | some s =>
    match s.stage with
    | .fresh =>
      Hardware.tell [⟨.debug, s!"Sampling started on {p.pin.name}"⟩]
      p.takeSample number s [] now wall
    | .waiting .. => pure p
  | none => pure p

/-- Whether a loop can go on at time `now`. -/
def goesOn (p : AnalogPort) (number now : Nat) : Bool :=
  match p.loops.get? number with
  | some ⟨.fresh, _⟩ => true
  | some ⟨.waiting _ wake, _⟩ => p.isLeaving number || wake ≤ now
  | none => false

/-- **What a loop does between two waits.** One that was told to stop is over as soon as it waits; the samples that
it took for an unfinished batch are dropped. -/
def turnLoop (p : AnalogPort) (number now wall : Nat) : Action (Turned AnalogPort) := do
  match p.loops.get? number with
  | some ⟨.waiting taken wake, throttle⟩ =>
    if p.isLeaving number then
      Hardware.tell [⟨.debug, s!"Sampling stopped on {p.pin.name}"⟩]
      pure (.over { p with loops := p.loops.erase number })
    else if wake ≤ now then
      pure (.moved (← p.takeSample number ⟨.waiting taken wake, throttle⟩ taken now wall))
    else pure .waits
  | _ => pure .waits

/-- When the loop that runs wants to go on, if it waits for a time. -/
def wake? (p : AnalogPort) : Option Nat := do
  match ← p.loops.get? (← p.running) with
  | ⟨.waiting _ wake, _⟩ => some wake
  | ⟨.fresh, _⟩ => none

end AnalogPort

/-! ## Readings on demand -/

/-- Where a reading on demand stands: the samples taken, and when the next one is due. -/
structure Reading where
  taken : List Voltage
  wake : Nat

/-- What one step of a reading comes to. -/
inductive Reading.Step where
  | blocked
  | moved (reading : Reading)
  | finished (result : Except Port.Error Voltage)

/-- A reading that begins now. -/
def Reading.new (now : Nat) : Reading := ⟨[], now⟩

/-- One step of a reading. The buffer of the port is left alone. -/
def AnalogPort.stepReading (p : AnalogPort) (r : Reading) (now : Nat) : Action Reading.Step := do
  if now < r.wake then pure .blocked
  else
    match ← p.sample.run with
    | .error e => pure (.finished (.error (.native e)))
    | .ok v =>
      let taken := r.taken ++ [v]
      if taken.length < p.count then pure (.moved ⟨taken, now + p.sampleInterval.ceilMillis⟩)
      else match Voltage.mean? taken with
        | some mean => pure (.finished (.ok mean))
        | none => pure (.finished (.error .noSamples))

end Peripherals
