import Peripherals.Bench.Make
import Peripherals.Bench.Task

/-!
# `Peripherals.Bench.Job` — steps under way

A step becomes a job. Most are over at once; those that take time wait for a clock, a token, a sampler or the
coprocessor.

* `start` — starts a step;
* `Job.turn` — one turn of a job.
-/

namespace Peripherals.Bench

open Coprocessor

/-- How the command of a call travels. -/
inductive Carrier where
  /-- It ends with the call. -/
  | own (transit : Transit)
  /-- It travels by itself and comes to its end whatever becomes of the call. -/
  | errand (number : Nat)

/-- A step under way. -/
inductive Job where
  | over (answer : Answer)
  /-- The caller has panicked. -/
  | panicked
  | sleeping (wake : Nat)
  | awaiting (token : String) (due : Nat)
  /-- A loop of an analog port is to stop. -/
  | stopping (port loop : Nat)
  | sampling (port : Nat) (reading : Reading)
  | calling (radio : Nat) (request : Request) (token : Option String) (call : Call) (carrier : Carrier)

namespace Job

/-- The answer of a job that is over. -/
def answer? : Job → Option Answer
  | .over answer => some answer
  | .panicked => some .panicked
  | _ => none

/-- The things that a job holds on to. -/
def uses : Job → List Nat
  | .stopping n _ | .sampling n _ | .calling n .. => [n]
  | _ => []

/-- The times at which a job goes on. -/
def wakes : Job → List Nat
  | .sleeping wake => [wake]
  | .awaiting _ due => [due]
  | .sampling _ reading => [reading.wake]
  | .calling _ _ _ call carrier =>
    call.wake?.toList ++ match carrier with
      | .own transit => transit.wake?.toList
      | .errand _ => []
  | _ => []

end Job

/-! ## Calls -/

/-- Whether a token was cancelled. -/
def isCancelled (token : Option String) : Bench Bool := do
  let w ← get
  pure (token.any (· ∈ w.cancelled))

/-- The answer for the result of a call. -/
def callAnswer (a : Adapter) (request : Request) (result : Except Error Success) : Answer :=
  match request with
  | .setAntenna .. => .antenna ((result.map fun _ => ()).mapError .coprocessor) a.antenna
  | _ => .ofResult .coprocessor (fun
    | .done => .ok
    | .disconnected outcome => .disconnected outcome
    | .found points => .found points) result

/-- Sends the command of a call. A scan travels by itself, and so does whatever goes over a link: there is time for
others while a bus is at work. -/
def dispatchCommand (route : Route) (call : Call) (c : Command) : Bench Carrier := do
  match route, call with
  | .wired _, _ | _, .scanning _ =>
    let number ← freshNumber
    modify fun w => { w with errands := w.errands.set number ⟨route, .unsent c⟩ }
    spawn (.errand number)
    pure (.errand number)
  | .scripted, _ => pure (.own (← transmit route c))

/-- Starts a request to an adapter. A caller whose deadline the clock cannot tell panics before it sends the command;
what it has done to the session stands. -/
def beginCall (n : Nat) (r : Radio) (request : Request) (token : Option String) : Bench Job := do
  match Call.start r.adapter (← get).now (← isCancelled token) request with
  | .error e => pure (.over (callAnswer r.adapter request (.error e)))
  | .ok started =>
    put n (.radio (r.withAdapter started.adapter))
    tell started.lines
    if started.call.deadline?.all (·.fits (← get).horizon) then
      pure (.calling n request token started.call (← dispatchCommand r.route started.call started.command))
    else pure .panicked

/-- What is known of the answer to a command. -/
def Carrier.look : Carrier → Bench (Option (Except Error Response) × Carrier)
  | .own transit => do
    let transit ← follow transit
    pure (transit.reply?, .own transit)
  | .errand number => do
    match (← get).errands.get? number with
    | some ⟨_, .sent transit⟩ => pure (transit.reply?, .errand number)
    | _ => pure (none, .errand number)

/-- Forgets an errand that has been answered. -/
def Carrier.settle : Carrier → Bench Unit
  | .own _ => pure ()
  | .errand number => modify fun w =>
    match w.errands.get? number with
    | some ⟨_, .sent (.answered _)⟩ => { w with errands := w.errands.erase number }
    | _ => w

/-- One turn of a call. A carried command is looked at before the call. Scenes never let two waits of a call end in one
millisecond, so that it does not matter which of them a turn looks at first. -/
def callTurn (n : Nat) (request : Request) (token : Option String) (call : Call) (carrier : Carrier) :
    Bench (Option Job) := do
  let (reply, carrier) ← carrier.look
  match ← thing? n with
  | some (.radio r) =>
    match Call.turn r.adapter (← get).now (← isCancelled token) reply call with
    | .wait => pure none
    | .goOn adapter call =>
      put n (.radio (r.withAdapter adapter))
      pure (some (.calling n request token call carrier))
    | .over adapter result lines =>
      put n (.radio (r.withAdapter adapter))
      tell lines
      carrier.settle
      pure (some (.over (callAnswer adapter request result)))
  | _ => pure (some (.over .noSlot))

/-! ## Steps -/

/-- Asks the board. -/
def askDevice {α : Type} (attempt : Device → Attempt Device.Error α) (good : α → Answer) : Bench Answer := do
  match (← get).device with
  | none => pure .noSlot
  | some d => do pure (.ofDevice good (← (attempt d).run.onBench))

/-- Uses the converter on a pin. A failure of the conversion is one of the bus layer. -/
def convertOn {α : Type} (pin : String) (conversion : Converter → Pin → Attempt Bus.Error α) (good : α → Answer) :
    Bench Answer := do
  match (← get).device with
  | none => pure .noSlot
  | some d =>
    match d.pin pin with
    | .error e => pure (.failed (.device e))
    | .ok p => do pure (.ofBus good (← (conversion d.converter p).run.onBench))

/-- The address of an adapter in the registry. -/
def memberMac (n : Nat) : Bench (Option Mac) := do
  match ← thing? n with
  | some (.radio r) => stationMac n r
  | _ => pure none

/-- Looks at the registry. -/
def lookAtRegistry (index : Option Nat) : Bench Answer := do
  let w ← get
  let members := w.registry.members
  let connected (n : Nat) : Bool := (w.things.get? n).any Thing.isConnected
  let name (n : Nat) : Option String := (w.things.get? n).map Thing.adapterName
  let addresses ← members.mapM fun m => memberMac m.adapter
  pure (.registry
    { names := members.map (·.name)
      connected := members.map fun m => connected m.adapter
      addresses
      primary := (w.registry.primary? connected).bind name
      asked := (index.bind w.registry.get?).bind name })

/-- Tells the loop of an analog port to stop. -/
def beginStop (slot : Slot) : Bench Job := do
  match ← inSlot? slot with
  | some (n, .analog port place) =>
    match port.running with
    | some loop =>
      put n (.analog port.stop place)
      pure (.stopping n loop)
    | none => pure (.over .stopped)
  | _ => pure (.over .noSlot)

/-- **Starts a step.** -/
def start : Step → Bench Job
  | .cue c => do pure (.over (← c.play))
  | .make slot what => do pure (.over (← make slot what))
  | .drop slot => do pure (.over (← drop slot))
  | .use slot u => do
    match ← inSlot? slot, u with
    | some (n, .analog ..), .read _ => pure (.sampling n (.new (← get).now))
    | _, u => pure (.over (← use slot u))
  | .stopSampling slot => beginStop slot
  | .ask slot request token => do
    match ← inSlot? slot with
    | some (n, .radio r) => beginCall n r request token
    | _ => pure (.over .noSlot)
  | .advance ms => do pure (.sleeping ((← get).now + ms))
  | .awaitCancel token timeout => do pure (.awaiting token ((← get).now + timeout.ceilMillis))
  | .lookUpPin name => do pure (.over (← askDevice (·.findPin name) .pin))
  | .lookAtDevice => do
    let w ← get
    match w.device with
    | none => pure (.over .noSlot)
    | some d => pure (.over (.device (d.describe w.hardware.arbiter.reservedCount) d.pins.length))
  | .lookUpReservation pin => do pure (.over (.reservation ((← get).hardware.arbiter.reservation? pin)))
  | .convert pin => do
    pure (.over (← convertOn pin (fun _ p => Converter.readRaw p) fun raw => .number raw.toNat))
  | .convertVoltage pin reference => do
    pure (.over (← convertOn pin (fun c p => c.readVoltage p reference) .voltage))
  | .lookAtRegistry index => do pure (.over (← lookAtRegistry index))

/-- One turn of a reading on demand. -/
def readingTurn (n : Nat) (reading : Reading) : Bench (Option Job) := do
  match ← thing? n with
  | some (.analog port _) =>
    match ← (port.stepReading reading (← get).now).onBench with
    | .blocked => pure none
    | .moved reading => pure (some (.sampling n reading))
    | .finished result => pure (some (.over (.ofPort .voltage result)))
  | _ => pure (some (.over .noSlot))

/-- **One turn of a job**; `none` if it has to wait, or is over. -/
def Job.turn : Job → Bench (Option Job)
  | .over _ | .panicked => pure none
  | .sleeping wake => do
    if wake ≤ (← get).now then pure (some (.over .ok)) else pure none
  | .awaiting token due => do
    if ← isCancelled (some token) then pure (some (.over .cancelled))
    else if due ≤ (← get).now then pure (some (.over .timedOut))
    else pure none
  | .stopping n loop => do
    match ← thing? n with
    | some (.analog port _) => if (port.loops.get? loop).isNone then pure (some (.over .stopped)) else pure none
    | _ => pure (some (.over .stopped))
  | .sampling n reading => readingTurn n reading
  | .calling n request token call carrier => callTurn n request token call carrier

/-- The most turns that a job takes in a row. -/
def turnLimit : Nat := 1000000

/-- Gives a job turns until it has to wait or is over, `fuel` turns at most. The answer is the job as it is then,
and whether it did anything. -/
def Job.run (j : Job) : Nat → Bench (Job × Bool)
  | 0 => pure (j, false)
  | fuel + 1 => do
    match ← j.turn with
    | none => pure (j, false)
    | some next =>
      let (last, _) ← next.run fuel
      pure (last, true)

end Peripherals.Bench
