import Peripherals.Driver.Call
import Peripherals.Table

/-!
# `Peripherals.Driver.Simulated` — a driver that answers from scripts

The simulated driver stands in for hardware. Two-wire devices and the four-wire bus answer reads from queues, pins
hold levels, conversions come from a queue per pin whose last value stays, and any operation can be made to fail.

* `Simulated.answer` — what a call does to the scripts, and its reply;
* `Simulated.call` — the same, with the call put on record;
* the remaining operations write the scripts.
-/

namespace Peripherals.Driver

/-- The state of a simulated driver. -/
structure Simulated where
  /-- The addresses at which a two-wire device answers. -/
  devices : List UInt16
  /-- What a two-wire device sends on its next reads. -/
  twoWireReplies : Table UInt16 (List Bytes)
  /-- The two-wire buses that were shut down. -/
  stoppedBuses : List UInt8
  /-- What comes in on the next four-wire reads, whichever bus. -/
  fourWireReplies : List Bytes
  /-- The readings of each analog pin to come. -/
  readings : Table UInt16 (List UInt32)
  levels : Table UInt16 Bool
  configured : Table UInt16 PinFlags
  /-- The codes with which the next calls of an operation fail. -/
  faults : Table Opcode (List Int32)
  records : Array Record

namespace Simulated

/-- A driver without devices, on which nothing has happened. -/
def empty : Simulated :=
  ⟨[], .empty, [], [], .empty, .empty, .empty, .empty, #[]⟩

instance : Inhabited Simulated := ⟨empty⟩

/-! ## Status codes -/

/-- The status of a call on a bus that was shut down. -/
def busStopped : Int32 := 108

/-- The status of a call to an address at which nothing answers. -/
def nobodyHome : Int32 := 112

/-! ## Scripting -/

/-- Makes a two-wire device answer at an address. -/
def addDevice (s : Simulated) (address : UInt16) : Simulated :=
  if address ∈ s.devices then s else { s with devices := s.devices ++ [address] }

/-- Queues what the device at an address sends on a read. -/
def queueTwoWire (s : Simulated) (address : UInt16) (reply : Bytes) : Simulated :=
  let s := s.addDevice address
  { s with twoWireReplies := s.twoWireReplies.set address (s.twoWireReplies.getD address [] ++ [reply]) }

/-- Queues what comes in on a four-wire read. -/
def queueFourWire (s : Simulated) (reply : Bytes) : Simulated :=
  { s with fourWireReplies := s.fourWireReplies ++ [reply] }

/-- Queues readings of an analog pin. -/
def queueReadings (s : Simulated) (key : UInt16) (values : List UInt32) : Simulated :=
  { s with readings := s.readings.set key (s.readings.getD key [] ++ values) }

/-- Puts a line at a level from outside. -/
def setLevel (s : Simulated) (key : UInt16) (level : Bool) : Simulated :=
  { s with levels := s.levels.set key level }

/-- Makes a later call of an operation end with `code`; a code of zero makes it succeed without doing anything. -/
def injectFault (s : Simulated) (opcode : Opcode) (code : Int32) : Simulated :=
  { s with faults := s.faults.set opcode (s.faults.getD opcode [] ++ [code]) }

/-! ## Answering -/

/-- What an analog pin reads next, and the readings after that: the last one stays. -/
def takeReading : List UInt32 → UInt32 × List UInt32
  | [] => (0, [])
  | [value] => (value, [value])
  | value :: rest => (value, rest)

/-- The effect of a call that no injected fault meets. -/
def perform (s : Simulated) (c : Call) : Reply × Simulated :=
  match c.opcode with
  | .twoWireTransfer =>
    if c.bus ∈ s.stoppedBuses then (⟨busStopped, c.rx⟩, s)
    else if c.target ∉ s.devices then (⟨nobodyHome, c.rx⟩, s)
    -- A write alone takes nothing off the queue.
    else if c.rx.isEmpty then (⟨0, c.rx⟩, s)
    else
      let queue := s.twoWireReplies.getD c.target []
      (⟨0, Bytes.fit c.rx.length (queue.headD [])⟩,
        { s with twoWireReplies := s.twoWireReplies.set c.target queue.tail })
  | .twoWireShutdown =>
    (⟨0, c.rx⟩, if c.bus ∈ s.stoppedBuses then s else { s with stoppedBuses := s.stoppedBuses ++ [c.bus] })
  | .fourWireTransfer =>
    if c.rx.isEmpty then (⟨0, c.rx⟩, s)
    else (⟨0, Bytes.fit c.rx.length (s.fourWireReplies.headD [])⟩,
      { s with fourWireReplies := s.fourWireReplies.tail })
  | .pinConfigure =>
    let flags := PinFlags.ofByte c.flags
    (⟨0, c.rx⟩,
      { s with
        configured := s.configured.set c.target flags
        levels := if flags.output then s.levels.set c.target flags.initialHigh else s.levels })
  | .pinUnconfigure => (⟨0, c.rx⟩, { s with configured := s.configured.erase c.target })
  | .pinWrite => (⟨0, c.rx⟩, s.setLevel c.target (c.tx.headD 0 != 0))
  | .pinRead =>
    let level : UInt8 := if s.levels.getD c.target false then 1 else 0
    (⟨0, c.rx.set 0 level⟩, s)
  | .convert =>
    let (value, rest) := takeReading (s.readings.getD c.target [])
    (⟨0, Bytes.fit c.rx.length (Bytes.ofWord32 value)⟩, { s with readings := s.readings.set c.target rest })

/-- What a call does: an injected fault decides it before anything else is looked at. -/
def answer (s : Simulated) (c : Call) : Reply × Simulated :=
  match s.faults.getD c.opcode [] with
  | code :: rest => (⟨code, c.rx⟩, { s with faults := s.faults.set c.opcode rest })
  | [] => s.perform c

/-- Answers a call and puts it on record. -/
def call (s : Simulated) (c : Call) : Reply × Simulated :=
  let (reply, next) := s.answer c
  (reply, { next with records := next.records.push (c.record reply.status) })

/-! ## What is on record -/

/-- What a call does has nothing to do with the record, or with the faults to come. -/
theorem perform_frame (s : Simulated) (c : Call) :
    (s.perform c).2.records = s.records ∧ (s.perform c).2.faults = s.faults := by
  unfold perform
  split
  case h_1 =>
    split
    · exact ⟨rfl, rfl⟩
    · split
      · exact ⟨rfl, rfl⟩
      · split
        · exact ⟨rfl, rfl⟩
        · exact ⟨rfl, rfl⟩
  case h_2 =>
    split
    · exact ⟨rfl, rfl⟩
    · exact ⟨rfl, rfl⟩
  case h_3 =>
    split
    · exact ⟨rfl, rfl⟩
    · exact ⟨rfl, rfl⟩
  all_goals exact ⟨rfl, rfl⟩

theorem records_answer (s : Simulated) (c : Call) : (s.answer c).2.records = s.records := by
  unfold answer
  split
  · rfl
  · exact (perform_frame s c).1

/-- A call adds its own record and no other. -/
theorem records_call (s : Simulated) (c : Call) :
    (s.call c).2.records = s.records.push (c.record (s.call c).1.status) := by
  unfold call
  simp only [records_answer]

/-- A call that no fault meets does what it is for. -/
theorem call_of_no_fault {s : Simulated} {c : Call} (hfaults : s.faults.getD c.opcode [] = []) :
    s.call c = ((s.perform c).1,
      { (s.perform c).2 with records := s.records.push (c.record (s.perform c).1.status) }) := by
  have hanswer : s.answer c = s.perform c := by rw [answer, hfaults]
  rw [call, hanswer, ← (s.perform_frame c).1]

/-- Forgets the record. -/
def clearRecords (s : Simulated) : Simulated := { s with records := #[] }

end Simulated

end Peripherals.Driver
