import Peripherals.Proofs.Config.Ranges
import Peripherals.Proofs.Port.Making

/-!
# `Proofs.Bus.Traffic` — the settings at which the transactions of a bus run

A bus is asked for speeds that its controller may not be able to generate. It runs at none of those: from its making
on, the speed is one of the configured ones, and whoever changes it is told the speed that is in effect. Every
transaction carries the settings that the bus has at that moment.

* `AnyBus` — a bus of either sort, with `AnyBus.Use`, what can be done with it, and `AnyBus.handle`, which does it;
* `AnyBus.Settled` — what holds of a bus from its making on;
* `AnyBus.trace` — everything that a bus calls in the course of a history;
* `AnyBus.settled_traffic` — what the settings and the calls of a bus are, over every history.
-/

namespace Peripherals

open Hardware

/-! ## Engines -/

namespace Bus.Engine

/-- **An engine of the bus with this number, at one of these speeds.** -/
structure Fits (number : UInt8) (speeds : List UInt32) (e : Engine) : Prop where
  number : e.number = number
  frequency : e.frequency ∈ speeds
  mem_supported : ∀ s, s ∈ e.supported ↔ s ∈ speeds
  ascending : e.supported.Pairwise (· < ·)

variable {number : UInt8} {speeds : List UInt32} {e : Engine}

theorem Fits.setFrequency (h : e.Fits number speeds) (requested : UInt32) :
    (e.setFrequency requested).2.1.Fits number speeds := by
  have hsome : e.supported ≠ [] := List.ne_nil_of_mem ((h.mem_supported e.frequency).mpr h.frequency)
  have hclamp : clamp requested e.supported ∈ speeds := (h.mem_supported _).mp (clamp_mem requested hsome)
  exact ⟨h.number, hclamp, h.mem_supported, h.ascending⟩

/-- The speed that an engine is made with need not be one that it can generate; it is corrected at once. -/
theorem fits_new (number : UInt8) (requested : UInt32) (h : speeds ≠ []) :
    (new number requested speeds).1.Fits number speeds := by
  have hmem : ∀ s, s ∈ ascending speeds ↔ s ∈ speeds := fun s => mem_ascending
  have hsome : ascending speeds ≠ [] := by
    -- No speed is lost in sorting.
    intro hnone
    obtain ⟨s, hs⟩ := List.exists_mem_of_ne_nil speeds h
    have hs' := (hmem s).mpr hs
    rw [hnone] at hs'
    exact absurd hs' List.not_mem_nil
  have hclamp : clamp requested (ascending speeds) ∈ speeds := (hmem _).mp (clamp_mem requested hsome)
  exact ⟨rfl, hclamp, hmem, pairwise_ascending speeds⟩

end Bus.Engine

/-! ## Changing the settings -/

variable {P : Driver.Record → Prop}

/-- The clock of a two-wire bus is changed without a call, and the answer is the speed in effect. -/
theorem TwoWireBus.within_setFrequency (b : TwoWireBus) (requested : UInt32) :
    Within P (fun r => r.2.engine = (b.engine.setFrequency requested).2.1 ∧ r.1 = r.2.engine.frequency)
      (b.setFrequency requested) :=
  within_bind (within_tell _) fun _ _ => within_pure ⟨rfl, rfl⟩

/-- The settings of a four-wire bus are changed without a call, and the answer is the settings in effect. -/
theorem FourWireBus.within_configure (b : FourWireBus) (settings : ClockSettings) :
    Within P (fun r => r.2 = ⟨(b.engine.setFrequency settings.speed).2.1, settings.mode.bits⟩ ∧
      r.1 = r.2.settings) (b.configure settings) := by
  refine within_bind (within_tell _) fun _ _ => within_pure ⟨rfl, ?_⟩
  -- The mode that is reported is read back from its bits.
  rw [FourWireBus.settings, FourWireBus.mode, ClockMode.ofBits_bits]

/-! ## Buses of either sort -/

/-- A bus of either sort. -/
inductive AnyBus where
  | twoWire (b : TwoWireBus)
  | fourWire (b : FourWireBus)

namespace AnyBus

def engine : AnyBus → Bus.Engine
  | .twoWire b => b.engine
  | .fourWire b => b.engine

/-- The flags that belong to the settings of the bus: the bits of the clock mode in effect, if there is one. -/
def flags : AnyBus → UInt8
  | .twoWire _ => 0
  | .fourWire b => b.settings.mode.bits

/-- What a bus reports of its clock. -/
inductive Report where
  | frequency (hz : UInt32)
  | settings (settings : ClockSettings)
  deriving DecidableEq, Repr

/-- The settings in effect. -/
def report : AnyBus → Report
  | .twoWire b => .frequency b.engine.frequency
  | .fourWire b => .settings b.settings

/-- What can be done with a bus. -/
inductive Use where
  | setFrequency (requested : UInt32)
  | configure (settings : ClockSettings)
  | transfer (address : UInt8) (tx rx : Bytes)
  | shutdown
  /-- Transfers on a four-wire bus, under a selection or without one. -/
  | transaction (selection : Option Selection) (program : FourWireBus.Program Bytes)

/-- **Uses a bus.** A change of the settings is answered with settings; what a transaction comes to is left out. A use
that the bus is not made for does nothing. -/
def handle : AnyBus → Use → Action (Option Report × AnyBus)
  | .twoWire b, .setFrequency requested => do
    let (effective, b) ← b.setFrequency requested
    pure (some (.frequency effective), .twoWire b)
  | .twoWire b, .transfer address tx rx => do
    let _ ← (b.transfer address tx rx).run
    pure (none, .twoWire b)
  | .twoWire b, .shutdown => do
    let _ ← b.shutdown.run
    pure (none, .twoWire b)
  | .fourWire b, .configure settings => do
    let (effective, b) ← b.configure settings
    pure (some (.settings effective), .fourWire b)
  | .fourWire b, .transaction selection program => do
    let _ ← b.transaction selection program
    pure (none, .fourWire b)
  | b, _ => pure (none, b)

/-! ## One use -/

/-- **A call at the settings of this bus**: it carries the number of the bus, its speed and its flags. -/
structure Carries (b : AnyBus) (r : Driver.Record) : Prop where
  bus : r.bus = b.engine.number
  frequency : r.frequency = b.engine.frequency
  flags : r.flags = b.flags

end AnyBus

/-- A transaction on a bus, or the end of all transactions on it. -/
def Driver.Opcode.OnBus (o : Opcode) : Prop := o = .twoWireTransfer ∨ o = .twoWireShutdown ∨ o = .fourWireTransfer

namespace AnyBus

/-- **What holds of a bus from its making on**: its engine is in order, and the bits that its calls carry are those of
the clock mode that it reports. -/
structure Settled (number : UInt8) (speeds : List UInt32) (b : AnyBus) : Prop where
  engine : b.engine.Fits number speeds
  bits : ∀ b', b = .fourWire b' → b'.modeBits = b'.mode.bits

variable {number : UInt8} {speeds : List UInt32} {b : AnyBus}

theorem settled_twoWire {b : TwoWireBus} (h : b.engine.Fits number speeds) : (twoWire b).Settled number speeds :=
  ⟨h, nofun⟩

theorem settled_fourWire {engine : Bus.Engine} (h : engine.Fits number speeds) (mode : ClockMode) :
    (fourWire ⟨engine, mode.bits⟩).Settled number speeds := by
  refine ⟨h, fun b' heq => ?_⟩
  obtain rfl := AnyBus.fourWire.inj heq
  show mode.bits = (ClockMode.ofBits mode.bits).bits
  rw [ClockMode.ofBits_bits]

/-- **What a use leaves behind**: a bus that is still in order, and an answer that tells what that bus reports. -/
structure Leaves (number : UInt8) (speeds : List UInt32) (result : Option Report × AnyBus) : Prop where
  settled : result.2.Settled number speeds
  answer : ∀ told, result.1 = some told → told = result.2.report

theorem leaves_unchanged (h : b.Settled number speeds) : Leaves number speeds (none, b) := ⟨h, nofun⟩

/-- A use of the bus makes calls on it at no settings but those of the bus. -/
def Keeps (b : AnyBus) (r : Driver.Record) : Prop := r.opcode.OnBus → b.Carries r

theorem keeps_of_transfers {b : FourWireBus} {r : Driver.Record} (hbits : b.modeBits = b.mode.bits)
    (h : b.Transfers r) : (fourWire b).Keeps r :=
  fun _ => ⟨h.bus, h.frequency, h.flags.trans hbits⟩

/-- Driving the line of a selection is no call on the bus. -/
theorem keeps_of_selects {b : FourWireBus} {line : Pin} {r : Driver.Record} (hbits : b.modeBits = b.mode.bits)
    (h : b.Selects line r) : (fourWire b).Keeps r := by
  rcases h with hdrives | htransfers
  · rintro (hcall | hcall | hcall)
    all_goals exact absurd (hdrives.1.symm.trans hcall) Driver.Opcode.noConfusion
  · exact keeps_of_transfers hbits htransfers

end AnyBus

theorem TwoWireBus.within_transfer (b : TwoWireBus) (address : UInt8) (tx rx : Bytes) :
    Within (AnyBus.twoWire b).Keeps (fun _ => True) (b.transfer address tx rx).run := by
  unfold transfer
  split
  · exact within_pure trivial
  · exact within_issue fun _ _ => ⟨rfl, rfl, rfl⟩

theorem TwoWireBus.within_shutdown (b : TwoWireBus) :
    Within (AnyBus.twoWire b).Keeps (fun _ => True) b.shutdown.run :=
  within_attempt_any (within_issue fun _ _ => ⟨rfl, rfl, rfl⟩) fun _ => within_lift (within_tell _)

theorem FourWireBus.within_transaction {b : FourWireBus} (hbits : b.modeBits = b.mode.bits)
    (selection : Option Selection) (program : Program Bytes) :
    Within (AnyBus.fourWire b).Keeps (fun _ => True) (b.transaction selection program) := by
  cases selection with
  | none =>
      have hrun := (b.within_run program).mono fun _ => AnyBus.keeps_of_transfers hbits
      exact within_bind hrun fun _ _ => within_pure trivial
  | some s =>
      have hselected := (b.within_selected s program).mono fun _ => AnyBus.keeps_of_selects hbits
      exact within_bind hselected fun _ _ => within_pure trivial

namespace AnyBus

variable {number : UInt8} {speeds : List UInt32} {b : AnyBus}

/-- **A use of a bus in order** makes calls on it at its own settings, and leaves it in order. -/
theorem within_handle (h : b.Settled number speeds) (u : Use) :
    Within b.Keeps (Leaves number speeds) (b.handle u) := by
  cases b with
  | twoWire b =>
      cases u with
      | setFrequency requested =>
          refine within_bind (b.within_setFrequency requested) fun r hr => ?_
          obtain ⟨effective, b'⟩ := r
          obtain ⟨hengine, heffective⟩ := hr
          have hfits : b'.engine.Fits number speeds := hengine ▸ h.engine.setFrequency requested
          refine within_pure ⟨settled_twoWire hfits, fun told htold => ?_⟩
          rw [← Option.some.inj htold]
          exact congrArg Report.frequency heffective
      | transfer address tx rx =>
          exact within_bind (b.within_transfer address tx rx) fun _ _ => within_pure (leaves_unchanged h)
      | shutdown => exact within_bind b.within_shutdown fun _ _ => within_pure (leaves_unchanged h)
      | _ => exact within_pure (leaves_unchanged h)
  | fourWire b =>
      cases u with
      | configure settings =>
          refine within_bind (b.within_configure settings) fun r hr => ?_
          obtain ⟨effective, b'⟩ := r
          obtain ⟨rfl, heffective⟩ := hr
          have hfits := h.engine.setFrequency settings.speed
          refine within_pure ⟨settled_fourWire hfits settings.mode, fun told htold => ?_⟩
          rw [← Option.some.inj htold]
          exact congrArg Report.settings heffective
      | transaction selection program =>
          have hbits := h.bits b rfl
          exact within_bind (FourWireBus.within_transaction hbits selection program) fun _ _ =>
            within_pure (leaves_unchanged h)
      | _ => exact within_pure (leaves_unchanged h)

/-! ## Over a history -/

/-- The bus after a history of uses. Between two uses anything may become of the hardware, so each of them comes with
the hardware that it finds. -/
def run (b : AnyBus) : List (Hardware × Use) → AnyBus
  | [] => b
  | (found, u) :: history => ((b.handle u found).1.2).run history

/-- What a use calls. -/
def added (b : AnyBus) (found : Hardware) (u : Use) : List Driver.Record :=
  (b.handle u found).2.calls.drop found.calls.length

/-- **All calls of a history**, each with the bus as it was when the call was made. -/
def trace (b : AnyBus) : List (Hardware × Use) → List (AnyBus × Driver.Record)
  | [] => []
  | (found, u) :: history => (b.added found u).map (b, ·) ++ ((b.handle u found).1.2).trace history

theorem keeps_added (h : b.Settled number speeds) (found : Hardware) (u : Use) : ∀ r ∈ b.added found u, b.Keeps r := by
  obtain ⟨records, hcalls, hkeeps⟩ := (within_handle h u found).1.called
  rw [added, hcalls, List.drop_left]
  exact hkeeps

theorem settled_run (h : b.Settled number speeds) (history : List (Hardware × Use)) :
    (b.run history).Settled number speeds := by
  induction history generalizing b with
  | nil => exact h
  | cons step history ih => exact ih (within_handle h step.2 step.1).2.settled

/-- By induction on the history: what its first use calls, the bus calls as it is; the rest is called by the bus that
the first use leaves behind. -/
theorem keeps_trace (h : b.Settled number speeds) (history : List (Hardware × Use)) :
    ∀ call ∈ b.trace history, call.2.opcode.OnBus → call.2.bus = number ∧ call.1.Carries call.2 := by
  induction history generalizing b with
  | nil => exact fun _ hcall => absurd hcall List.not_mem_nil
  | cons step history ih =>
      obtain ⟨found, u⟩ := step
      intro call hcall hbus
      rcases List.mem_append.mp hcall with hnow | hlater
      · obtain ⟨r, hr, rfl⟩ := List.mem_map.mp hnow
        have hcarries := keeps_added h found u r hr hbus
        exact ⟨hcarries.bus.trans h.engine.number, hcarries⟩
      · exact ih (within_handle h u found).2.settled call hlater hbus

end AnyBus

/-! ## Making a bus -/

/-- What a board is asked for: a bus on named pins. -/
inductive BusRequest where
  | twoWire (clock data : String) (requested : Option UInt32)
  | fourWire (clock dataOut dataIn : String) (requested : Option ClockSettings)

/-- The speeds that are configured for such a bus. -/
def BusRequest.speeds (c : Config) : BusRequest → List UInt32
  | .twoWire _ _ _ => c.twoWire.supportedHz
  | .fourWire _ _ _ _ => c.fourWire.supportedHz

namespace Device

/-- A bus of either sort. -/
def bus (d : Device) : BusRequest → Attempt Error AnyBus
  | .twoWire clock data requested => do pure (.twoWire (← d.twoWireBus clock data requested))
  | .fourWire clock dataOut dataIn requested => do
    pure (.fourWire (← d.fourWireBus clock dataOut dataIn requested))

/-- The number that the channel of the clock pin has. -/
def clockNumber? (d : Device) : BusRequest → Option UInt8
  | .twoWire clock _ _ => (d.pin clock).toOption.bind fun pin => pin.twoWireChannel?.map (·.1)
  | .fourWire clock _ _ _ => (d.pin clock).toOption.bind fun pin => pin.fourWireChannel?.map (·.1)

end Device

theorem TwoWireBus.number_eq_ok {clock data : Pin} {number : UInt8} (h : number? clock data = .ok number) :
    clock.twoWireChannel? = some (number, .clock) := by
  unfold number? at h
  split at h
  · next bus hclock =>
    split at h
    · rw [hclock, Except.ok.inj h]
    · contradiction
  · contradiction

theorem FourWireBus.number_eq_ok {clock dataOut dataIn : Pin} {number : UInt8}
    (h : number? clock dataOut dataIn = .ok number) : clock.fourWireChannel? = some (number, .clock) := by
  unfold number? at h
  split at h
  · next bus hclock =>
    split at h
    · contradiction
    · split at h
      · contradiction
      · rw [hclock, Except.ok.inj h]
  · contradiction

/-- A two-wire bus has the number of its clock pin, and its engine is in order. -/
theorem TwoWireBus.create_eq_ok {clock data : Pin} {requested : UInt32} {speeds : List UInt32} {b : TwoWireBus}
    {h h' : Hardware} (hspeeds : speeds ≠ []) (hrun : (create clock data requested speeds).run h = (.ok b, h')) :
    ∃ number, clock.twoWireChannel? = some (number, .clock) ∧ (AnyBus.twoWire b).Settled number speeds := by
  unfold create at hrun
  -- The number is found first; after that, only the log is written.
  obtain ⟨number, h₁, hnumber, hrun⟩ := attempt_eq_ok hrun
  obtain ⟨_, h₂, -, hrun⟩ := attempt_eq_ok hrun
  have hb := Except.ok.inj (Prod.mk.inj hrun).1
  refine ⟨number, number_eq_ok (Prod.mk.inj hnumber).1, AnyBus.settled_twoWire ?_⟩
  rw [← hb]
  exact Bus.Engine.fits_new number requested hspeeds

/-- A four-wire bus has the number of its clock pin, and its engine is in order. -/
theorem FourWireBus.create_eq_ok {clock dataOut dataIn : Pin} {settings : ClockSettings} {speeds : List UInt32}
    {b : FourWireBus} {h h' : Hardware} (hspeeds : speeds ≠ [])
    (hrun : (create clock dataOut dataIn settings speeds).run h = (.ok b, h')) :
    ∃ number, clock.fourWireChannel? = some (number, .clock) ∧ (AnyBus.fourWire b).Settled number speeds := by
  unfold create at hrun
  obtain ⟨number, h₁, hnumber, hrun⟩ := attempt_eq_ok hrun
  obtain ⟨_, h₂, -, hrun⟩ := attempt_eq_ok hrun
  have hb := Except.ok.inj (Prod.mk.inj hrun).1
  refine ⟨number, number_eq_ok (Prod.mk.inj hnumber).1, ?_⟩
  rw [← hb]
  exact AnyBus.settled_fourWire (Bus.Engine.fits_new number settings.speed hspeeds) settings.mode

namespace Device

variable {d : Device} {name : String} {pin : Pin} {h h' : Hardware}

theorem findPin_eq_ok (hrun : (d.findPin name).run h = (.ok pin, h')) : d.pin name = .ok pin := by
  rw [run_findPin] at hrun
  exact (Prod.mk.inj hrun).1

/-- **A bus that a board makes** has the number of the channel of its clock pin, and is in order. -/
theorem settled_bus {request : BusRequest} {b : AnyBus} (hspeeds : request.speeds d.config ≠ [])
    (hrun : (d.bus request).run h = (.ok b, h')) :
    ∃ number, d.clockNumber? request = some number ∧ b.Settled number (request.speeds d.config) := by
  cases request with
  | twoWire clock data requested =>
      obtain ⟨bus, h₁, hbus, hb⟩ := attempt_eq_ok hrun
      obtain rfl := Except.ok.inj (Prod.mk.inj hb).1
      unfold twoWireBus at hbus
      obtain ⟨clockPin, h₂, hclock, hbus⟩ := attempt_eq_ok hbus
      obtain ⟨dataPin, h₃, -, hbus⟩ := attempt_eq_ok hbus
      obtain ⟨number, hchannel, hsettled⟩ := TwoWireBus.create_eq_ok hspeeds (adapt_eq_ok hbus)
      refine ⟨number, ?_, hsettled⟩
      rw [clockNumber?, findPin_eq_ok hclock]
      simp [Except.toOption, hchannel]
  | fourWire clock dataOut dataIn requested =>
      obtain ⟨bus, h₁, hbus, hb⟩ := attempt_eq_ok hrun
      obtain rfl := Except.ok.inj (Prod.mk.inj hb).1
      unfold fourWireBus at hbus
      obtain ⟨clockPin, h₂, hclock, hbus⟩ := attempt_eq_ok hbus
      obtain ⟨outPin, h₃, -, hbus⟩ := attempt_eq_ok hbus
      obtain ⟨inPin, h₄, -, hbus⟩ := attempt_eq_ok hbus
      obtain ⟨number, hchannel, hsettled⟩ := FourWireBus.create_eq_ok hspeeds (adapt_eq_ok hbus)
      refine ⟨number, ?_, hsettled⟩
      rw [clockNumber?, findPin_eq_ok hclock]
      simp [Except.toOption, hchannel]

/-- A board has the settings that it was made with, and they are in their ranges. -/
theorem create_eq_ok {pins : List Pin} {config : Config} {lines : List Log.Line}
    (hd : create pins config = .ok (d, lines)) : config.check = .ok () ∧ d.config = config := by
  unfold create at hd
  cases hcheck : config.check with
  | error e =>
      rw [hcheck] at hd
      contradiction
  | ok _ =>
      rw [hcheck] at hd
      rw [← (Prod.mk.inj (Except.ok.inj hd)).1]
      exact ⟨rfl, rfl⟩

end Device

/-! ## Every transaction at the settings of its bus -/

namespace AnyBus

open Device

/-- **Every transaction of a bus runs at the settings of the bus, and these are supported.** On a board with settings in
their ranges, a bus of either sort is made with any request, and then used in any way, on whatever hardware each use
finds. The speed is always one of the configured ones, and the supported speeds are those, ascending and each once.
Whoever changes the settings is told what the bus reports from then on. Whatever is called on the bus carries the number
of the channel of the clock pin, and the speed and the flags that the bus has at that moment. -/
theorem settled_traffic {pins : List Pin} {config : Config} {d : Device} {lines : List Log.Line}
    {request : BusRequest} {h h' : Hardware} {b : AnyBus} (hd : Device.create pins config = .ok (d, lines))
    (hb : (d.bus request).run h = (.ok b, h')) (history : List (Hardware × Use)) :
    (b.run history).engine.frequency ∈ request.speeds config ∧
    (b.run history).engine.supported.Pairwise (· < ·) ∧
    (∀ s, s ∈ (b.run history).engine.supported ↔ s ∈ request.speeds config) ∧
    (∀ found u told, ((b.run history).handle u found).1.1 = some told →
      told = ((b.run history).handle u found).1.2.report) ∧
    ∀ call ∈ b.trace history, call.2.opcode.OnBus →
      d.clockNumber? request = some call.2.bus ∧ call.2.frequency = call.1.engine.frequency ∧
        call.2.flags = call.1.flags := by
  obtain ⟨hcheck, rfl⟩ := create_eq_ok hd
  have hrange := Config.check_eq_ok_iff.mp hcheck
  have hspeeds : request.speeds d.config ≠ [] := by
    cases request with
    | twoWire _ _ _ => exact hrange.twoWire
    | fourWire _ _ _ _ => exact hrange.fourWire
  obtain ⟨number, hnumber, hsettled⟩ := settled_bus hspeeds hb
  have hnow := settled_run hsettled history
  refine ⟨hnow.engine.frequency, hnow.engine.ascending, hnow.engine.mem_supported, ?_, ?_⟩
  · intro found u told htold
    exact (within_handle hnow u found).2.answer told htold
  · intro call hcall hbus
    obtain ⟨hcarried, hcarries⟩ := keeps_trace hsettled history call hcall hbus
    exact ⟨hcarried ▸ hnumber, hcarries.frequency, hcarries.flags⟩

/-! ## A bus that is set up anew -/

/-- The pins of a four-wire bus. -/
def wiredPins : List Pin :=
  [⟨"D04", 4, [.fourWire 2 .clock]⟩, ⟨"D05", 5, [.fourWire 2 .dataOut]⟩, ⟨"D06", 6, [.fourWire 2 .dataIn]⟩]

/-- A board with these pins and the standard settings. -/
def wired : Device := ⟨wiredPins, .standard, .new 4095⟩

/-- A bus is asked for at a speed that is not supported. -/
def wiredRequest : BusRequest := .fourWire "D04" "D05" "D06" (some ⟨1000000, .mode3⟩)

/-- It runs at the speed below. -/
def wiredBus : AnyBus := .fourWire ⟨⟨2, 750000, Config.standard.fourWire.supportedHz⟩, ClockMode.mode3.bits⟩

/-- A transfer, another speed and another mode, and a transfer again. -/
def wiredHistory : List (Hardware × Use) :=
  [(.empty, .transaction none (.single [7] [])), (.empty, .configure ⟨6000000, .mode1⟩),
    (.empty, .transaction none (.single [8] []))]

/-- The first transfer runs at the first settings, and the second one at the second. -/
theorem settled_traffic_wired :
    (∃ lines, Device.create wiredPins .standard = .ok (wired, lines)) ∧
    (∃ h, (wired.bus wiredRequest).run .empty = (.ok wiredBus, h)) ∧
    (wiredBus.run wiredHistory).engine.frequency ∈ Config.standard.fourWire.supportedHz ∧
    (wiredBus.trace wiredHistory).map (fun call => (call.2.bus, call.2.frequency, call.2.flags)) =
      [(2, 750000, 3), (2, 6000000, 1)] := by
  have hd : Device.create wiredPins .standard = .ok (wired, [⟨.info, s!"Device ready with {3} pins"⟩]) := rfl
  have hb : ((wired.bus wiredRequest).run .empty).1 = .ok wiredBus := rfl
  have hrun : (wired.bus wiredRequest).run .empty = (.ok wiredBus, ((wired.bus wiredRequest).run .empty).2) :=
    Prod.ext hb rfl
  obtain ⟨hfrequency, -⟩ := settled_traffic hd hrun wiredHistory
  exact ⟨⟨_, hd⟩, ⟨_, hrun⟩, hfrequency, rfl⟩

end AnyBus

end Peripherals
