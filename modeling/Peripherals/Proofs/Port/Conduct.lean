import Peripherals.Port.Analog
import Peripherals.Port.Bidirectional
import Peripherals.Proofs.Hardware.Conduct

/-!
# `Proofs.Port.Conduct` — what a live port does to the hardware

A port that is in use never asks the arbiter for anything, and it stays the port that it is: its claim, what its pin is
held as, and the configurations that it may ever program (`AnyPort.Same`). Of its calls, those that configure a pin are
for its own pin and program one of these configurations (`Port.Programs`).

* `AnyPort` — a port of any sort, with `AnyPort.Use`, what can be done with it, and `AnyPort.handle`, which does it;
* `within_configure`, `within_program` and their like — one lemma for each operation;
* `AnyPort.within_handle` — all of it at once.
-/

namespace Peripherals

open Hardware

/-! ## Calls about a pin -/

namespace Port

/-- **A call that configures a pin does so to the pin with this key, with one of these configurations**, and no call
undoes a configuration. -/
def Programs (key : UInt16) (programs : List Driver.PinFlags) (r : Driver.Record) : Prop :=
  (r.opcode = .pinConfigure → r.target = key ∧ Driver.PinFlags.ofByte r.flags ∈ programs) ∧
    r.opcode ≠ .pinUnconfigure

variable {pin : Pin} {programs : List Driver.PinFlags}

theorem within_configure {flags : Driver.PinFlags} (payload : Bytes) (h : flags ∈ programs) :
    Within (Programs pin.key programs) (fun _ => True) (configure pin flags payload).run := by
  refine within_attempt_any (within_issue fun status => ?_) fun _ => within_pure trivial
  refine ⟨fun _ => ⟨rfl, ?_⟩, nofun⟩
  show Driver.PinFlags.ofByte flags.toByte ∈ programs
  rw [Driver.PinFlags.ofByte_toByte]
  exact h

variable {key : UInt16} {r : Driver.Record}

/-- A call of another kind configures nothing. -/
theorem programs_of_ne (hconfigure : r.opcode ≠ .pinConfigure) (hunconfigure : r.opcode ≠ .pinUnconfigure) :
    Programs key programs r :=
  ⟨fun hc => absurd hc hconfigure, hunconfigure⟩

/-- A call that puts the line of a pin at a level. -/
def Drives (pin : Pin) (r : Driver.Record) : Prop := r.opcode = .pinWrite ∧ r.target = pin.key

theorem programs_of_drives (h : Drives pin r) : Programs key programs r :=
  programs_of_ne (h.1 ▸ nofun) (h.1 ▸ nofun)

theorem within_drive (pin : Pin) (level : Bool) : Within (Drives pin) (fun _ => True) (drive pin level).run :=
  within_attempt_any (within_issue fun _ => ⟨rfl, rfl⟩) fun _ => within_pure trivial

theorem within_sense (pin : Pin) : Within (Programs key programs) (fun _ => True) (sense pin).run :=
  within_attempt_any (within_issue fun _ => programs_of_ne nofun nofun) fun _ => within_pure trivial

/-- The call that undoes the configuration of a pin. -/
def unconfiguration (pin : Pin) : Driver.Call := { opcode := .pinUnconfigure, target := pin.key }

/-- Whatever comes of it, unconfiguring a pin is one call. -/
theorem calls_unconfigure (pin : Pin) (h : Hardware) :
    (unconfigure pin h).2.arbiter = h.arbiter ∧
      ∃ status, (unconfigure pin h).2.calls = h.calls ++ [(unconfiguration pin).record status] := by
  rw [unconfigure, run_bind]
  rcases issue_cases (unconfiguration pin) h with ⟨rx, h', hrun, harbiter, hcalls⟩ |
    ⟨status, h', -, hrun, harbiter, hcalls⟩
  · have hissue : (issue { opcode := .pinUnconfigure, target := pin.key }).run h = (.ok rx, h') := hrun
    rw [hissue]
    exact ⟨harbiter, 0, hcalls⟩
  · have hissue : (issue { opcode := .pinUnconfigure, target := pin.key }).run h =
        (.error (.ofStatus status pin.key), h') := hrun
    rw [hissue]
    exact ⟨harbiter, status, hcalls⟩

end Port

/-! ## Outputs -/

namespace OutputPort

theorem within_write (p : OutputPort) (level : Bool) :
    Within (Port.Drives p.pin) (fun r => r.2.claim = p.claim) (p.write level) := by
  refine within_bind (Port.within_drive p.pin level) fun r _ => ?_
  cases r with
  | ok _ => exact within_pure rfl
  | error e => exact within_pure rfl

theorem within_toggle (p : OutputPort) : Within (Port.Drives p.pin) (fun r => r.2.claim = p.claim) p.toggle :=
  within_bind (p.within_write _) fun _ hclaim => within_pure hclaim

end OutputPort

/-! ## Transfers under a selection -/

namespace FourWireBus

variable {α : Type} {r : Driver.Record}

/-- **A transfer of this bus**: the call carries the number of the bus, its speed and the bits of its clock mode. -/
structure Transfers (b : FourWireBus) (r : Driver.Record) : Prop where
  opcode : r.opcode = .fourWireTransfer
  bus : r.bus = b.engine.number
  frequency : r.frequency = b.engine.frequency
  flags : r.flags = b.modeBits

theorem within_transfer (b : FourWireBus) (tx rx : Bytes) :
    Within b.Transfers (fun _ => True) (b.transfer tx rx).run :=
  within_issue fun _ => ⟨rfl, rfl, rfl, rfl⟩

/-- By induction on the program: it goes on with whatever its transfer came to. -/
theorem within_run (b : FourWireBus) (program : Program α) : Within b.Transfers (fun _ => True) (b.run program) := by
  induction program with
  | stop outcome => exact within_pure trivial
  | transfer tx rx next ih => exact within_bind (b.within_transfer tx rx) fun outcome _ => ih outcome

/-- A call of a transaction under a selection: it drives the line, or it is a transfer. -/
def Selects (b : FourWireBus) (line : Pin) (r : Driver.Record) : Prop := Port.Drives line r ∨ b.Transfers r

theorem programs_of_selects {b : FourWireBus} {line : Pin} {key : UInt16} {programs : List Driver.PinFlags}
    (h : b.Selects line r) : Port.Programs key programs r := by
  rcases h with hdrives | htransfers
  · exact Port.programs_of_drives hdrives
  · exact Port.programs_of_ne (htransfers.opcode ▸ nofun) (htransfers.opcode ▸ nofun)

theorem within_deselect (s : Selection) :
    Within (Port.Drives s.port.pin) (fun p => p.claim = s.port.claim) (deselect s) := by
  refine within_bind (s.port.within_write _) fun r hclaim => ?_
  obtain ⟨result, p⟩ := r
  cases result with
  | ok _ => exact within_pure hclaim
  | error e => exact within_bind (within_tell _) fun _ _ => within_pure hclaim

theorem within_selected (b : FourWireBus) (s : Selection) (program : Program α) :
    Within (b.Selects s.port.pin) (fun r => r.2.claim = s.port.claim) (b.selected s program) := by
  refine within_bind ((s.port.within_write s.mode.activeLevel).mono fun _ => .inl) fun r hclaim => ?_
  obtain ⟨result, p⟩ := r
  cases result with
  | error e => exact within_pure hclaim
  | ok _ =>
      refine within_bind ((b.within_run program).mono fun _ => .inr) fun outcome _ => ?_
      have hpin : p.pin = s.port.pin := congrArg Port.Claim.pin hclaim
      have hdeselect := within_deselect { s with port := p }
      rw [hpin] at hdeselect
      exact within_bind (hdeselect.mono fun _ => .inl) fun p' hclaim' => within_pure (hclaim'.trans hclaim)

end FourWireBus

/-! ## Bidirectional ports -/

namespace BidirectionalPort

/-- The configurations that a bidirectional port may program: an input with its interrupts, the input without them that
comes before an output, and that output. -/
def programs (options : BidirectionalOptions) : List Driver.PinFlags :=
  [Port.inputFlags options.resistor options.interrupt, Port.inputFlags options.resistor .none,
    Port.outputFlags options.initial options.kind]

/-- The same port, perhaps turned or with other filters. -/
def Same (p p' : BidirectionalPort) : Prop := p'.claim = p.claim ∧ p'.options = p.options

theorem Same.refl (p : BidirectionalPort) : Same p p := ⟨rfl, rfl⟩

theorem within_program (pin : Pin) (options : BidirectionalOptions) (debounce glitch : Duration)
    (direction : Direction) :
    Within (Port.Programs pin.key (programs options)) (fun _ => True)
      (program pin options debounce glitch direction).run := by
  cases direction with
  | input => exact Port.within_configure _ (by simp [programs])
  | output =>
      exact within_attempt_any (Port.within_configure _ (by simp [programs])) fun _ =>
        Port.within_configure _ (by simp [programs])

variable (p : BidirectionalPort)

theorem within_setDirection (direction : Direction) :
    Within (Port.Programs p.pin.key (programs p.options)) (fun r => p.Same r.2) (p.setDirection direction) := by
  unfold setDirection
  split
  · exact within_pure (.refl p)
  · refine within_bind (within_program p.pin p.options p.debounce p.glitch direction) fun r _ => ?_
    cases r with
    | error e => exact within_pure (.refl p)
    | ok _ => exact within_bind (within_tell _) fun _ _ => within_pure (.refl p)

theorem within_read : Within (Port.Programs p.pin.key (programs p.options)) (fun r => p.Same r.2) p.read := by
  refine within_bind (p.within_setDirection .input) fun r hsame => ?_
  obtain ⟨result, p'⟩ := r
  cases result with
  | error e => exact within_pure hsame
  | ok _ => exact within_bind (Port.within_sense _) fun _ _ => within_pure hsame

theorem within_write (level : Bool) :
    Within (Port.Programs p.pin.key (programs p.options)) (fun r => p.Same r.2) (p.write level) := by
  refine within_bind (p.within_setDirection .output) fun r hsame => ?_
  obtain ⟨result, p'⟩ := r
  cases result with
  | error e => exact within_pure hsame
  | ok _ =>
      have hdrive := Port.within_drive p'.pin level
      exact within_bind (hdrive.mono fun _ => Port.programs_of_drives) fun _ _ => within_pure hsame

theorem same_withFilter (filter : Port.Filter) (value : Duration) : p.Same (p.withFilter filter value) := by
  cases filter with
  | debounce => exact .refl p
  | glitch => exact .refl p

theorem within_reprogram :
    Within (Port.Programs p.pin.key (programs p.options)) (fun _ => True) p.reprogram.run := by
  unfold reprogram
  split
  · exact within_program p.pin p.options p.debounce p.glitch .input
  · exact within_pure trivial

theorem within_setFilter (filter : Port.Filter) (value : Duration) :
    Within (Port.Programs p.pin.key (programs p.options)) (fun r => p.Same r.2) (p.setFilter filter value) := by
  unfold setFilter
  split
  · exact within_pure (.refl p)
  · obtain ⟨hclaim, hoptions⟩ := p.same_withFilter filter value
    have hreprogram := (p.withFilter filter value).within_reprogram
    rw [pin, hclaim, hoptions] at hreprogram
    refine within_bind hreprogram fun r _ => ?_
    cases r with
    | error e => exact within_pure ⟨hclaim, hoptions⟩
    | ok _ => exact within_pure ⟨hclaim, hoptions⟩

end BidirectionalPort

/-! ## Analog ports -/

namespace AnalogPort

variable {key : UInt16} {programs : List Driver.PinFlags} (p : AnalogPort)

theorem within_sample : Within (Port.Programs key programs) (fun _ => True) p.sample.run :=
  within_attempt_any
    (within_attempt_any (within_issue fun _ => Port.programs_of_ne nofun nofun) fun _ => within_pure trivial)
    fun _ => within_pure trivial

theorem claim_publish (batch : List Voltage) : (p.publish batch).claim = p.claim := by
  unfold publish
  split
  · rfl
  · rfl

theorem within_takeSample (number : Nat) (s : Sampler) (taken : List Voltage) (now wall : Nat) :
    Within (Port.Programs key programs) (fun p' => p'.claim = p.claim) (p.takeSample number s taken now wall) := by
  refine within_bind p.within_sample fun r _ => ?_
  cases r with
  | error e => exact within_bind (within_tell _) fun _ _ => within_pure rfl
  | ok v =>
      dsimp only
      split
      · exact within_pure rfl
      · exact within_pure (claim_publish _ _)

theorem within_enterLoop (number now wall : Nat) :
    Within (Port.Programs key programs) (fun p' => p'.claim = p.claim) (p.enterLoop number now wall) := by
  unfold enterLoop
  split
  · split
    · exact within_bind (within_tell _) fun _ _ => p.within_takeSample _ _ _ _ _
    · exact within_pure rfl
  · exact within_pure rfl

/-- The port with which a loop goes on. -/
def turned : Turned AnalogPort → AnalogPort
  | .waits => p
  | .moved p' | .over p' => p'

theorem within_turnLoop (number now wall : Nat) :
    Within (Port.Programs key programs) (fun t => (p.turned t).claim = p.claim) (p.turnLoop number now wall) := by
  unfold turnLoop
  split
  · split
    · exact within_bind (within_tell _) fun _ _ => within_pure rfl
    · split
      · exact within_bind (p.within_takeSample _ _ _ _ _) fun _ hclaim => within_pure hclaim
      · exact within_pure rfl
  · exact within_pure rfl

theorem within_stepReading (reading : Reading) (now : Nat) :
    Within (Port.Programs key programs) (fun _ => True) (p.stepReading reading now) := by
  unfold stepReading
  split
  · exact within_pure trivial
  · refine within_bind p.within_sample fun r _ => ?_
    cases r with
    | error e => exact within_pure trivial
    | ok v =>
        dsimp only
        split
        · exact within_pure trivial
        · split
          · exact within_pure trivial
          · exact within_pure trivial

/-- The port after a loop was to be started. -/
def started (runtime : Bool) (interval : Option Duration) (wall : Nat) : AnalogPort :=
  match p.start runtime interval wall with
  | .ok p' => p'
  | .error _ => p

theorem claim_started (runtime : Bool) (interval : Option Duration) (wall : Nat) :
    (p.started runtime interval wall).claim = p.claim := by
  unfold started
  split
  · next p' h =>
    unfold start at h
    split at h
    · rw [← Except.ok.inj h]
    · split at h
      · contradiction
      · rw [← Except.ok.inj h]
  · rfl

end AnalogPort

/-! ## Ports of any sort -/

/-- A port of any sort. -/
inductive AnyPort where
  | output (p : OutputPort)
  | input (p : InputPort)
  | bidirectional (p : BidirectionalPort)
  | analog (p : AnalogPort)

namespace AnyPort

/-- The port's hold on its pin. -/
def claim : AnyPort → Port.Claim
  | .output p => p.claim
  | .input p => p.claim
  | .bidirectional p => p.claim
  | .analog p => p.claim

/-- The pin of the port. -/
def pin (p : AnyPort) : Pin := p.claim.pin

/-- What the pin of the port is held as. A bidirectional port holds its pin as an input. -/
def use : AnyPort → PinUse
  | .output _ => .digitalOutput
  | .input _ | .bidirectional _ => .digitalInput
  | .analog _ => .analogInput

/-- The configurations that the port may still program. Only a bidirectional port reprograms its pin. -/
def programs : AnyPort → List Driver.PinFlags
  | .bidirectional p => BidirectionalPort.programs p.options
  | _ => []

/-- Ends the port. -/
def close : AnyPort → Action Unit
  | .output p => p.close
  | .input p => p.close
  | .bidirectional p => p.close
  | .analog p => p.close

/-- What can be done with a port that is alive. -/
inductive Use where
  | write (level : Bool)
  | toggle
  | read
  /-- The line selects a peripheral for a transaction on a four-wire bus. -/
  | select (bus : FourWireBus) (mode : ChipSelectMode) (program : FourWireBus.Program Bytes)
  | turn (direction : Direction)
  | setFilter (filter : Port.Filter) (value : Duration)
  | interrupt (level : Bool)
  | start (runtime : Bool) (interval : Option Duration) (wall : Nat)
  | stop
  | enterLoop (number now wall : Nat)
  | turnLoop (number now wall : Nat)
  | sample (reading : Reading) (now : Nat)

/-- **Uses a port.** What comes of it for the caller is left out. A use that the port is not made for does nothing. -/
def handle : AnyPort → Use → Action AnyPort
  | .output p, .write level => do pure (.output (← p.write level).2)
  | .output p, .toggle => do pure (.output (← p.toggle).2)
  | .output p, .select bus mode program => do pure (.output (← bus.selected ⟨p, mode⟩ program).2)
  | .input p, .read => do
    let _ ← p.read.run
    pure (.input p)
  | .bidirectional p, .write level => do pure (.bidirectional (← p.write level).2)
  | .bidirectional p, .read => do pure (.bidirectional (← p.read).2)
  | .bidirectional p, .turn direction => do pure (.bidirectional (← p.setDirection direction).2)
  | .bidirectional p, .setFilter filter value => do pure (.bidirectional (← p.setFilter filter value).2)
  | .bidirectional p, .interrupt level => pure (.bidirectional (p.interrupt level))
  | .analog p, .start runtime interval wall => pure (.analog (p.started runtime interval wall))
  | .analog p, .stop => pure (.analog p.stop)
  | .analog p, .enterLoop number now wall => do pure (.analog (← p.enterLoop number now wall))
  | .analog p, .turnLoop number now wall => do pure (.analog (p.turned (← p.turnLoop number now wall)))
  | .analog p, .sample reading now => do
    let _ ← p.stepReading reading now
    pure (.analog p)
  | p, _ => pure p

/-- **The same port**, whatever has been done with it. -/
structure Same (p p' : AnyPort) : Prop where
  claim : p'.claim = p.claim
  use : p'.use = p.use
  programs : p'.programs = p.programs

theorem Same.refl (p : AnyPort) : Same p p := ⟨rfl, rfl, rfl⟩

theorem same_bidirectional {p p' : BidirectionalPort} (h : p.Same p') : Same (.bidirectional p) (.bidirectional p') :=
  ⟨h.1, rfl, congrArg BidirectionalPort.programs h.2⟩

/-- **A use of a port** leaves it the same port, never asks the arbiter, and configures no pin but that of the port, in
no way but those of the port. -/
theorem within_handle (p : AnyPort) (u : Use) :
    Within (Port.Programs p.pin.key p.programs) (fun p' => p.Same p') (p.handle u) := by
  cases p with
  | output p =>
      cases u with
      | write level =>
          have hwrite := p.within_write level
          exact within_bind (hwrite.mono fun _ => Port.programs_of_drives) fun _ hclaim =>
            within_pure ⟨hclaim, rfl, rfl⟩
      | toggle =>
          exact within_bind (p.within_toggle.mono fun _ => Port.programs_of_drives) fun _ hclaim =>
            within_pure ⟨hclaim, rfl, rfl⟩
      | select bus mode program =>
          have hselected := bus.within_selected ⟨p, mode⟩ program
          exact within_bind (hselected.mono fun _ => FourWireBus.programs_of_selects) fun _ hclaim =>
            within_pure ⟨hclaim, rfl, rfl⟩
      | _ => exact within_pure (.refl _)
  | input p =>
      cases u with
      | read => exact within_bind (Port.within_sense p.pin) fun _ _ => within_pure (.refl _)
      | _ => exact within_pure (.refl _)
  | bidirectional p =>
      cases u with
      | write level => exact within_bind (p.within_write level) fun _ h => within_pure (same_bidirectional h)
      | read => exact within_bind p.within_read fun _ h => within_pure (same_bidirectional h)
      | turn direction =>
          exact within_bind (p.within_setDirection direction) fun _ h => within_pure (same_bidirectional h)
      | setFilter filter value =>
          exact within_bind (p.within_setFilter filter value) fun _ h => within_pure (same_bidirectional h)
      | interrupt level => exact within_pure (same_bidirectional (.refl p))
      | _ => exact within_pure (.refl _)
  | analog p =>
      cases u with
      | start runtime interval wall => exact within_pure ⟨p.claim_started runtime interval wall, rfl, rfl⟩
      | stop => exact within_pure ⟨rfl, rfl, rfl⟩
      | enterLoop number now wall =>
          exact within_bind (p.within_enterLoop number now wall) fun _ hclaim => within_pure ⟨hclaim, rfl, rfl⟩
      | turnLoop number now wall =>
          exact within_bind (p.within_turnLoop number now wall) fun _ hclaim => within_pure ⟨hclaim, rfl, rfl⟩
      | sample reading now =>
          exact within_bind (p.within_stepReading reading now) fun _ _ => within_pure (.refl _)
      | _ => exact within_pure (.refl _)

end AnyPort

end Peripherals
