import Peripherals.Bench.Make
import Peripherals.Proofs.Secrecy.Bench

/-!
# `Proofs.Secrecy.Tasks` — what is done on a bench without looking

Whatever is made, used and dropped on a bench is made, used and dropped in the same way on one that looks alike, and
the tasks in the background take the same turns. An errand is the one task that has a command in its hands
(`World.Alike.errand_cases`): whether it is sent shows, what is in it does not.
-/

namespace Peripherals.Bench

open Veiled Coprocessor

variable {α : Type}

/-! ## Things in use -/

theorem blind_useDevice (bus : TwoWireBus) (address : UInt8) (u : Use) : Blind (useDevice bus address u) := by
  cases u with
  | read t => exact (inStep_onBench TwoWireBus.blind_transfer).same fun _ => blind_pure
  | write t => exact (inStep_onBench (bus.blind_write ..)).same fun _ => blind_pure
  | exchange t => exact (inStep_onBench TwoWireBus.blind_transfer).same fun _ => blind_pure
  | readRegister register => exact (inStep_onBench (bus.blind_readRegister ..)).same fun _ => blind_pure
  | readRegisters register count => exact (inStep_onBench TwoWireBus.blind_transfer).same fun _ => blind_pure
  | readRegisterPair register => exact (inStep_onBench (bus.blind_readRegisterPair ..)).same fun _ => blind_pure
  | writeRegisters register values => exact (inStep_onBench (bus.blind_write ..)).same fun _ => blind_pure
  | _ => exact blind_pure

theorem blind_useTwoWire (n : Nat) (bus : TwoWireBus) (u : Use) : Blind (useTwoWire n bus u) := by
  cases u with
  | setFrequency requested =>
    exact (inStep_onBench (bus.blind_setFrequency ..)).same fun _ => (blind_put ..).same fun _ => blind_pure
  | shutdown => exact (inStep_onBench bus.blind_shutdown).same fun _ => blind_pure
  | read t => exact blind_useDevice bus t.address (.read t)
  | write t => exact blind_useDevice bus t.address (.write t)
  | exchange t => exact blind_useDevice bus t.address (.exchange t)
  | _ => exact blind_pure

theorem blind_runSelected (bus : FourWireBus) (select : Option (Slot × ChipSelectMode))
    (program : FourWireBus.Program α) (answer : Except Bus.Error α → Answer) :
    Blind (runSelected bus select program answer) := by
  cases select with
  | none => exact (inStep_onBench (bus.blind_transaction ..)).same fun _ => blind_pure
  | some select =>
    obtain ⟨slot, mode⟩ := select
    refine blind_inSlot?.same fun found => ?_
    split
    · refine (inStep_onBench (bus.blind_transaction ..)).same fun ended => ?_
      obtain ⟨outcome, port⟩ := ended
      cases port with
      | some port => exact (blind_put ..).same fun _ => blind_pure
      | none => exact blind_pure
    · exact blind_pure

theorem blind_useFourWire (n : Nat) (bus : FourWireBus) (u : Use) : Blind (useFourWire n bus u) := by
  cases u with
  | configure settings =>
    exact (inStep_onBench (bus.blind_configure ..)).same fun _ => (blind_put ..).same fun _ => blind_pure
  | read t => exact blind_runSelected ..
  | write t => exact blind_runSelected ..
  | exchange t => exact blind_runSelected ..
  | transaction select parts =>
    unfold useFourWire
    exact blind_runSelected ..
  | _ => exact blind_pure

theorem blind_useOutput (n : Nat) (port : OutputPort) (u : Use) : Blind (useOutput n port u) := by
  cases u with
  | set level => exact (inStep_onBench (port.blind_write ..)).same fun _ => (blind_put ..).same fun _ => blind_pure
  | toggle => exact (inStep_onBench port.blind_toggle).same fun _ => (blind_put ..).same fun _ => blind_pure
  | _ => exact blind_pure

theorem blind_useInput (port : InputPort) (u : Use) : Blind (useInput port u) := by
  cases u with
  | state => exact (inStep_onBench (Port.blind_sense port.pin)).same fun _ => blind_pure
  | _ => exact blind_pure

theorem blind_useBidirectional (n : Nat) (port : BidirectionalPort) (place : Nat) (u : Use) :
    Blind (useBidirectional n port place u) := by
  cases u with
  | state => exact (inStep_onBench port.blind_read).same fun _ => (blind_put ..).same fun _ => blind_pure
  | set level => exact (inStep_onBench (port.blind_write ..)).same fun _ => (blind_put ..).same fun _ => blind_pure
  | setDirection d =>
    exact (inStep_onBench (port.blind_setDirection ..)).same fun _ => (blind_put ..).same fun _ => blind_pure
  | setFilter filter value =>
    exact (inStep_onBench (port.blind_setFilter ..)).same fun _ => (blind_put ..).same fun _ => blind_pure
  | interrupts levels => exact (blind_put ..).same fun _ => blind_pure
  | _ => exact blind_pure

theorem blind_useAnalog (n : Nat) (port : AnalogPort) (place : Nat) (u : Use) : Blind (useAnalog n port place u) := by
  cases u with
  | startSampling interval =>
    refine inStep_read (fun _ _ _ _ => rfl) fun w => ?_
    split
    · refine (blind_put ..).same fun _ => ?_
      split
      · exact (blind_spawn _).same fun _ => blind_pure
      · exact blind_pure
    · exact blind_pure
  | _ => exact blind_pure

theorem blind_useLink (n select : Nat) (mode : ChipSelectMode) (u : Use) : Blind (useLink n select mode u) := by
  cases u with
  | info =>
    refine blind_thing?.same fun t => ?_
    split
    · exact blind_pure
    · exact blind_pure
  | send c =>
    refine (inStep_sendOver n rfl).same fun reply => ?_
    cases reply with
    | some reply => exact blind_pure
    | none => exact blind_pure
  | poll =>
    refine (inStep_sendOver n rfl).same fun reply => ?_
    cases reply with
    | some reply => exact blind_pure
    | none => exact blind_pure
  | _ => exact blind_pure

theorem blind_stationMac (n : Nat) (r : Radio) : Blind (stationMac n r) :=
  (blind_tell _).same fun _ => (blind_put ..).same fun _ => blind_pure

theorem blind_useRadio (n : Nat) (r : Radio) (u : Use) : Blind (useRadio n r u) := by
  cases u with
  | deliver event count => exact (blind_put ..).same fun _ => blind_pure
  | setScanPeriod period =>
    unfold useRadio
    dsimp only
    split
    · exact (blind_put ..).same fun _ => blind_pure
    · exact blind_pure
  | setRetryCount count => exact (blind_tell _).same fun _ => (blind_put ..).same fun _ => blind_pure
  | settings => exact (blind_tell _).same fun _ => (blind_put ..).same fun _ => blind_pure
  | _ => exact blind_pure

theorem blind_register (n : Nat) (t : Thing) : Blind (register n t) := by
  unfold register
  cases t.connectivity? with
  | none => exact blind_pure
  | some channel =>
    refine ⟨fun w w' hw => ?_⟩
    have hadd : w'.registry.add w'.runtime n t.adapterName channel =
        w.registry.add w.runtime n t.adapterName channel :=
      hw.same (f := fun w => w.registry.add w.runtime n t.adapterName channel) fun _ _ _ _ => rfl
    simp only [run_get, hadd]
    cases w.registry.add w.runtime n t.adapterName channel with
    | error e => exact ⟨rfl, hw⟩
    | ok added =>
      obtain ⟨index, registry, lines⟩ := added
      have hafter := hw.update (f := fun w => { w with registry }) fun _ _ _ _ => rfl
      exact ((blind_spawn _).same fun _ => (blind_tell _).same fun _ => blind_pure).run _ _ hafter

theorem blind_use (slot : Slot) (u : Use) : Blind (use slot u) := by
  refine blind_inSlot?.same fun found => ?_
  cases found with
  | none => exact blind_pure
  | some e =>
    obtain ⟨n, t⟩ := e
    dsimp only
    split
    · exact blind_register ..
    · exact blind_useTwoWire ..
    · refine blind_thing?.same fun bus => ?_
      split
      · split
        · exact blind_pure
        · exact blind_useDevice ..
      · exact blind_pure
    · exact blind_useFourWire ..
    · exact blind_useOutput ..
    · exact blind_useInput ..
    · exact blind_useBidirectional ..
    · exact blind_useAnalog ..
    · exact blind_useLink ..
    · exact blind_useRadio ..
    · exact (blind_put ..).same fun _ => blind_pure
    · exact blind_pure

/-! ## Making and dropping -/

theorem blind_ofAttempt {attempt : Attempt Device.Error α} (hattempt : Blind attempt.run) (thing : α → Thing) :
    Blind (ofAttempt attempt thing) :=
  (inStep_onBench hattempt).same fun _ => blind_pure

theorem blind_makeAdapter (device : Device) (bus : Nat) (select : String) :
    Blind (makeAdapter device bus select) := by
  refine (inStep_onBench (device.blind_outputPort ..)).same fun made => ?_
  cases made with
  | error e => exact blind_pure
  | ok port =>
    refine blind_freshNumber.same fun line => (blind_put ..).same fun _ => ?_
    refine blind_freshNumber.same fun link => (blind_put ..).same fun _ => inStep_read (fun _ _ _ _ => rfl) fun w => ?_
    split
    · exact blind_pure
    · exact blind_pure

theorem blind_makeOn (device : Device) (b : Blueprint) : Blind (makeOn device b) := by
  cases b with
  | twoWire clock data requested => exact blind_ofAttempt (device.blind_twoWireBus ..) _
  | fourWire clock dataOut dataIn settings => exact blind_ofAttempt (device.blind_fourWireBus ..) _
  | output pin initial kind => exact blind_ofAttempt (device.blind_outputPort ..) _
  | input pin resistor => exact blind_ofAttempt (device.blind_inputPort ..) _
  | bidirectional pin options => exact blind_ofAttempt (device.blind_bidirectionalPort ..) _
  | analog pin options => exact blind_ofAttempt (device.blind_analogPort ..) _
  | adapter bus select =>
    refine blind_inSlot?.same fun found => ?_
    split
    · exact blind_makeAdapter ..
    · exact blind_pure
  | _ => exact blind_pure

theorem blind_build (b : Blueprint) : Blind (build b) := by
  unfold build
  split
  · exact blind_pure
  · refine blind_inSlot?.same fun found => ?_
    split
    · exact blind_pure
    · exact blind_pure
  · refine blind_inSlot?.same fun found => blind_inSlot?.same fun found' => ?_
    split
    · exact blind_pure
    · exact blind_pure
  · refine inStep_read (fun _ _ _ _ => rfl) fun w => ?_
    split
    · exact blind_makeOn ..
    · exact blind_pure

theorem blind_release (slot : Slot) : Blind (release slot) := by
  refine blind_inSlot?.same fun found => ?_
  split
  · exact blind_put ..
  · exact blind_pure

theorem blind_spawnAll (tasks : List Task) : Blind (tasks.forM spawn) := by
  induction tasks with
  | nil => exact blind_pure
  | cons t rest ih => exact (blind_spawn t).same fun _ => ih

theorem blind_keep (slot : Slot) (t : Thing) : Blind (keep slot t) :=
  blind_freshNumber.same fun n => (blind_put n t).same fun _ => (blind_spawnAll (t.tasks n)).same fun _ =>
    (blind_release slot).same fun _ => blind_public fun _ _ _ _ => rfl

theorem blind_make (slot : Slot) (b : Blueprint) : Blind (make slot b) := by
  refine (blind_build b).same fun made => ?_
  split
  · exact blind_sweep.same fun _ => blind_pure
  · exact blind_sweep.same fun _ => blind_pure
  · exact (blind_keep ..).same fun _ => blind_sweep.same fun _ => blind_pure

theorem blind_drop (slot : Slot) : Blind (drop slot) := by
  refine blind_number?.same fun n => ?_
  cases n with
  | none => exact blind_pure
  | some n =>
    refine (blind_release slot).same fun _ => (blind_public fun _ _ _ _ => rfl).same fun _ => ?_
    exact blind_sweep.same fun _ => blind_pure

/-! ## Tasks -/

theorem blind_dispatchTurn (n : Nat) (r : Radio) : Blind (dispatchTurn n r) := by
  unfold dispatchTurn
  split
  · exact (blind_put ..).same fun _ => (blind_tell _).same fun _ => (blind_put ..).same fun _ => blind_pure
  · split
    · exact (blind_tell _).same fun _ => blind_pure
    · exact blind_pure

theorem blind_poll (n : Nat) (r : Radio) : Blind (poll n r) := by
  refine (blind_tell _).same fun _ => (inStep_transmit r.route rfl).same fun t => ?_
  split
  · exact blind_pure
  · exact inStep_read (fun _ _ _ _ => rfl) fun w => (blind_tell _).same fun _ => blind_put ..

theorem blind_pumpTurn (n : Nat) (r : Radio) : Blind (pumpTurn n r) := by
  refine inStep_read (fun _ _ _ _ => rfl) fun w => ?_
  split
  · exact blind_pure
  · exact (blind_put ..).same fun _ => (blind_poll ..).same fun _ => blind_pure
  · exact (blind_poll ..).same fun _ => blind_pure

theorem blind_samplerTurn (n loop : Nat) (port : AnalogPort) (place : Nat) :
    Blind (samplerTurn n loop port place) := by
  refine inStep_read (fun _ _ _ _ => rfl) fun w => (inStep_onBench (port.blind_turnLoop ..)).same fun turned => ?_
  cases turned with
  | waits => exact blind_pure
  | _ => exact (blind_put ..).same fun _ => blind_pure

/-- A command sets out. -/
theorem inStep_setErrand (number : Nat) {e e' : Errand} (he : e'.veiled = e.veiled) :
    InStep Eq (modify fun w : World => { w with errands := w.errands.set number e } : Bench Unit)
      (modify fun w : World => { w with errands := w.errands.set number e' } : Bench Unit) := by
  constructor
  rintro w _ ⟨hrecords, hcommands, herrands⟩
  have hset := congr (congrArg (fun t e => Table.set t number e) herrands) he
  exact ⟨rfl, .intro hrecords hcommands ((Table.map_set ..).trans (hset.trans (Table.map_set ..).symm))⟩

/-- Two errands that look alike are the same, or both are unsent. -/
theorem Errand.eq_of_veiled {e e' : Errand} (he : e'.veiled = e.veiled) :
    e' = e ∨ ∃ route c c', e = ⟨route, .unsent c⟩ ∧ e' = ⟨route, .unsent c'⟩ ∧ c'.veiled = c.veiled := by
  obtain ⟨route, stage⟩ := e
  obtain ⟨route', stage'⟩ := e'
  cases stage with
  | unsent c =>
    cases stage' with
    | unsent c' =>
      obtain ⟨rfl, hstage⟩ := Errand.mk.inj he
      exact .inr ⟨_, c, c', rfl, rfl, Errand.Stage.unsent.inj hstage⟩
    | sent t' => exact absurd (Errand.mk.inj he).2 nofun
  | sent t =>
    cases stage' with
    | unsent c' => exact absurd (Errand.mk.inj he).2 nofun
    | sent t' => exact .inl he

theorem World.Alike.errand_cases {w w' : World} (hw : w.Alike w') (number : Nat) :
    w'.errands.get? number = w.errands.get? number ∨
      ∃ route c c', w.errands.get? number = some ⟨route, .unsent c⟩ ∧
        w'.errands.get? number = some ⟨route, .unsent c'⟩ ∧ c'.veiled = c.veiled := by
  have herrand := hw.errand? number
  cases he : w.errands.get? number with
  | none =>
    rw [he, Option.map_none, Option.map_eq_none_iff] at herrand
    exact .inl herrand
  | some e =>
    rw [he, Option.map_some, Option.map_eq_some_iff] at herrand
    obtain ⟨e', he', hveiled⟩ := herrand
    rcases Errand.eq_of_veiled hveiled with rfl | ⟨route, c, c', rfl, rfl, hc⟩
    · exact .inl he'
    · exact .inr ⟨route, c, c', rfl, he', hc⟩

theorem blind_errandTurn (number : Nat) (e : Errand) : Blind (errandTurn number e) := by
  unfold errandTurn
  split
  · exact blind_pure
  · refine (blind_follow _).same fun t => ?_
    cases t with
    | answered reply => exact (inStep_setErrand number rfl).same fun _ => blind_pure
    | held function release => exact blind_pure

theorem blind_forwarderTurn (index : Nat) : Blind (forwarderTurn index) := by
  refine ⟨fun w w' hw => ?_⟩
  have hforward : (w'.channel? index).bind (w'.registry.forward index) =
      (w.channel? index).bind (w.registry.forward index) :=
    hw.same (f := fun w => (w.channel? index).bind (w.registry.forward index)) fun _ _ _ _ => rfl
  unfold forwarderTurn
  simp only [run_get, hforward]
  cases (w.channel? index).bind (w.registry.forward index) with
  | none => exact ⟨rfl, hw⟩
  | some forwarded =>
    obtain ⟨registry, lines⟩ := forwarded
    have hafter := hw.update (f := fun w => { w with registry }) fun _ _ _ _ => rfl
    exact ((blind_tell lines).same fun _ => blind_pure).run _ _ hafter

theorem Task.blind_enter (t : Task) : Blind t.enter := by
  cases t with
  | sampler n loop =>
    refine blind_thing?.same fun found => ?_
    split
    · refine inStep_read (fun _ _ _ _ => rfl) fun w => ?_
      exact (inStep_onBench (AnalogPort.blind_enterLoop ..)).same fun _ => blind_put ..
    · exact blind_pure
  | errand number =>
    refine inStep_get fun w w' hw => ?_
    rcases hw.errand_cases number with hsame | ⟨route, c, c', he, he', hc⟩
    · rw [hsame]
      split
      · exact (inStep_transmit _ rfl).same fun t => inStep_setErrand number rfl
      · exact blind_pure
    · rw [he, he']
      exact (inStep_transmit route hc).same fun t => inStep_setErrand number rfl
  | _ => exact blind_pure

theorem Task.blind_turn (t : Task) : Blind t.turn := by
  cases t with
  | dispatch n =>
    refine blind_thing?.same fun found => ?_
    split
    · exact blind_dispatchTurn ..
    · exact blind_pure
  | pump n =>
    refine blind_thing?.same fun found => ?_
    split
    · exact blind_pumpTurn ..
    · exact blind_pure
  | sampler n loop =>
    refine blind_thing?.same fun found => ?_
    split
    · exact blind_samplerTurn ..
    · exact blind_pure
  | errand number =>
    refine inStep_get fun w w' hw => ?_
    rcases hw.errand_cases number with hsame | ⟨route, c, c', he, he', -⟩
    · rw [hsame]
      split
      · exact blind_errandTurn ..
      · exact blind_pure
    · rw [he, he']
      exact blind_pure
  | forwarder index => exact blind_forwarderTurn index

theorem Task.blind_turns (t : Task) (left : Nat) : Blind (t.turns left) := by
  induction left with
  | zero => exact blind_public fun _ _ _ _ => rfl
  | succ left ih =>
    refine t.blind_turn.same fun turned => ?_
    cases turned with
    | waits => exact blind_public fun _ _ _ _ => rfl
    | moved _ => exact ih
    | _ => exact blind_pure

theorem Task.blind_run (t : Task) : Blind t.run := t.blind_enter.same fun _ => t.blind_turns share

theorem blind_runTasks (fuel : Nat) : Blind (runTasks fuel) := by
  induction fuel with
  | zero => exact blind_pure
  | succ fuel ih =>
    refine ⟨fun w w' hw => ?_⟩
    have htasks : w'.tasks.next? = w.tasks.next? := hw.same (f := (·.tasks.next?)) fun _ _ _ _ => rfl
    unfold runTasks
    simp only [run_get, htasks]
    cases w.tasks.next? with
    | none => exact ⟨rfl, hw⟩
    | some next =>
      obtain ⟨t, tasks⟩ := next
      have hafter := hw.update (f := fun w => { w with tasks }) fun _ _ _ _ => rfl
      exact (t.blind_run.same fun _ => ih.same fun _ => blind_pure).run _ _ hafter

theorem blind_resume : Blind resume := blind_public fun _ _ _ _ => rfl

end Peripherals.Bench
