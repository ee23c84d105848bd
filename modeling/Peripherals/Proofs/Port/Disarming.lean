import Peripherals.Proofs.Port.Failing
import Peripherals.Proofs.Port.Programming

/-!
# `Proofs.Port.Disarming` — a switch of direction that is refused

To become an output, an input first gives up its interrupts and filters, and drives the line after that. If the driver
takes the first of these calls and refuses the second, the port still reports that it is an input, and it does nothing
when it is told to become one; but its pin raises no interrupts and filters nothing.

* `BidirectionalPort.Armed` — the last configuration that the driver took is that of the input that the port reports;
* `BidirectionalPort.armed_iff_of_refused` — the refused switches after which the pin is armed;
* `Panel.Vigilant` — no refused switch on a board disarms a pin, which is not so.
-/

namespace Peripherals

open Hardware

namespace BidirectionalPort

variable {p p' : BidirectionalPort} {calls : List Driver.Record} {status : Int32} {e : Bus.Error} {h h' : Hardware}

/-- **The pin is armed**: the last configuration of it that the driver took is an input with the resistor, the
interrupts and the filters of the port. -/
def Armed (p : BidirectionalPort) (calls : List Driver.Record) : Prop :=
  ∃ before r, Driver.Latest (Driver.Record.SetsUp p.pin.key) calls before r ∧
    r.flags = (Port.inputFlags p.options.resistor p.options.interrupt).toByte ∧
    r.tx = filterPayload p.debounce p.glitch

/-- **Nothing to give up**: the port has no interrupts, and its filters are programmed as none. -/
def Plain (p : BidirectionalPort) : Prop :=
  p.options.interrupt = .none ∧ filterPayload p.debounce p.glitch = filterPayload .zero .zero

/-- An input that is configured like one without interrupts has none. -/
theorem none_of_inputFlags {resistor : Resistor} {interrupt : Interrupt}
    (hflags : (Port.inputFlags resistor .none).toByte = (Port.inputFlags resistor interrupt).toByte) :
    interrupt = .none := by
  have hsilent : (Port.inputFlags resistor interrupt).interrupts = false := by
    rw [← Driver.PinFlags.ofByte_toByte (Port.inputFlags resistor interrupt), ← hflags, Driver.PinFlags.ofByte_toByte]
    rfl
  cases interrupt with
  | none => rfl
  | rising | falling | both => contradiction

/-- A call that the driver refuses leaves the pin as it is. -/
theorem armed_refused_iff {c : Driver.Call} (hstatus : status ≠ 0) :
    p.Armed (calls ++ [c.record status]) ↔ p.Armed calls := by
  have hnone : ∀ r ∈ [c.record status], ¬ r.SetsUp p.pin.key := by
    intro r hr hup
    rw [List.mem_singleton.mp hr] at hup
    exact hstatus hup.2.2
  simp only [Armed, Driver.latest_append_iff hnone]

/-- A pin that has given up its interrupts and filters is armed just if there were none. -/
theorem armed_quieted_iff : p.Armed (calls ++ [p.quieting.record 0]) ↔ p.Plain := by
  have hup : (p.quieting.record 0).SetsUp p.pin.key := ⟨rfl, rfl, rfl⟩
  simp only [Armed, Driver.latest_snoc_iff hup]
  constructor
  · rintro ⟨before, r, ⟨rfl, rfl⟩, hflags, htx⟩
    exact ⟨none_of_inputFlags hflags, htx.symm⟩
  · rintro ⟨hinterrupt, hfilters⟩
    have hflags : (p.quieting.record 0).flags = (Port.inputFlags p.options.resistor p.options.interrupt).toByte := by
      rw [hinterrupt]
      rfl
    exact ⟨calls, _, ⟨rfl, rfl⟩, hflags, hfilters.symm⟩

/-- **All the ways in which an input fails to become an output.** Nothing happens to the port. -/
theorem refused_of_setDirection (hinput : p.direction = .input)
    (hrun : p.setDirection .output h = ((.error e, p'), h')) :
    p' = p ∧ ∃ status, status ≠ 0 ∧ (h'.calls = h.calls ++ [p.quieting.record status] ∨
      h'.calls = h.calls ++ [p.quieting.record 0] ++ [p.outputting.record status]) := by
  have hne : p.direction ≠ .output := by rw [hinput]; exact nofun
  obtain ⟨outcome, h₁, hprogramming, hturned⟩ := setDirection_of_ne hne h
  rw [hturned] at hrun
  cases hprogramming with
  | output => cases hrun
  | quietRefused hstatus issued =>
      cases hrun
      exact ⟨rfl, _, hstatus, .inl issued.calls⟩
  | outputRefused hstatus quieted issued =>
      cases hrun
      exact ⟨rfl, _, hstatus, .inr (by rw [issued.calls, quieted.calls])⟩

/-- **Which refused switches leave the pin armed**, whatever the port and the hardware: those that the driver refuses at
the first call, if the pin was armed, and those that it refuses at the second call, if there was nothing to give up. The
port is as it was, and does nothing when it is told to be an input. -/
theorem armed_iff_of_refused (hinput : p.direction = .input)
    (hrun : p.setDirection .output h = ((.error e, p'), h')) :
    p' = p ∧ (∀ h'', p'.setDirection .input h'' = ((.ok (), p'), h'')) ∧
      (p'.Armed h'.calls ↔ ∃ status, status ≠ 0 ∧
        ((h'.calls = h.calls ++ [p.quieting.record status] ∧ p.Armed h.calls) ∨
          (h'.calls = h.calls ++ [p.quieting.record 0] ++ [p.outputting.record status] ∧ p.Plain))) := by
  obtain ⟨rfl, status, hstatus, hcalls⟩ := refused_of_setDirection hinput hrun
  refine ⟨rfl, fun h'' => by rw [setDirection, if_pos hinput]; rfl, ?_⟩
  constructor
  · intro harmed
    refine ⟨status, hstatus, ?_⟩
    rcases hcalls with hfirst | hsecond
    · rw [hfirst, armed_refused_iff hstatus] at harmed
      exact .inl ⟨hfirst, harmed⟩
    · rw [hsecond, armed_refused_iff hstatus, armed_quieted_iff] at harmed
      exact .inr ⟨hsecond, harmed⟩
  · rintro ⟨status', hstatus', ⟨hfirst, harmed⟩ | ⟨hsecond, hplain⟩⟩
    · rw [hfirst, armed_refused_iff hstatus']
      exact harmed
    · rw [hsecond, armed_refused_iff hstatus', armed_quieted_iff]
      exact hplain

end BidirectionalPort

/-! ## A switch that disarms -/

namespace Panel

open BidirectionalPort

/-- **A refused switch leaves the pin armed**, of any input that is alive after these steps. -/
def Vigilant (d : Device) (driver : Driver.Simulated) (steps : List Step) : Prop :=
  ∀ p, .bidirectional p ∈ ((start driver).run d steps).ports → p.direction = .input → ∀ e p' h',
    p.setDirection .output ((start driver).run d steps).hardware = ((.error e, p'), h') → p'.Armed h'.calls

/-- An input with both interrupts and a filter of twenty milliseconds. -/
def wakeful : BidirectionalOptions :=
  { driving with direction := .input, interrupt := .both, debounce := .ofMillis 20 }

/-- A port is made on the pin that goes both ways. From then on the driver takes one configuration and refuses the next
one. -/
def halfTaken : List Step :=
  [.make "D00" (.bidirectional wakeful),
    .arrange ((Driver.Simulated.empty.injectFault .pinConfigure 0).injectFault .pinConfigure 5)]

/-- The port. -/
def halfTakenPort : BidirectionalPort :=
  ⟨⟨⟨"D00", 0, [.digital true true true]⟩, ⟨"D00", .digitalInput, 0⟩⟩, wakeful, .input, .ofMillis 20, .zero, .ofNotices⟩

/-- The switch is refused at the second call. -/
theorem setDirection_halfTaken :
    ∃ h', halfTakenPort.setDirection .output ((start .empty).run single halfTaken).hardware =
        ((.error (.ofStatus 5 0), halfTakenPort), h') ∧
      h'.calls = [halfTakenPort.filtering.record 0] ++ [halfTakenPort.quieting.record 0] ++
        [halfTakenPort.outputting.record 5] :=
  ⟨_, rfl, rfl⟩

theorem not_plain_halfTakenPort : ¬ halfTakenPort.Plain := fun hplain => nomatch hplain.1

/-- The pin was armed, and is no longer. -/
theorem armed_iff_of_refused_halfTaken :
    halfTakenPort.direction = .input ∧ halfTakenPort.Armed ((start .empty).run single halfTaken).hardware.calls ∧
      ∃ h', halfTakenPort.setDirection .output ((start .empty).run single halfTaken).hardware =
          ((.error (.ofStatus 5 0), halfTakenPort), h') ∧ ¬ halfTakenPort.Armed h'.calls := by
  obtain ⟨h', hrun, hcalls⟩ := setDirection_halfTaken
  refine ⟨rfl, ⟨[], _, ⟨⟨rfl, rfl, rfl⟩, [], rfl, nofun⟩, rfl, rfl⟩, h', hrun, fun harmed => ?_⟩
  obtain ⟨status, -, ⟨hfirst, -⟩ | ⟨-, hplain⟩⟩ := (armed_iff_of_refused rfl hrun).2.2.mp harmed
  · have hlength : 3 = 2 := congrArg List.length (hcalls.symm.trans hfirst)
    contradiction
  · exact not_plain_halfTakenPort hplain

/-- **This switch disarms the pin.** -/
theorem not_vigilant_halfTaken : ¬ Vigilant single .empty halfTaken := by
  intro hvigilant
  obtain ⟨h', hrun, hcalls⟩ := setDirection_halfTaken
  have hmem : .bidirectional halfTakenPort ∈ ((start .empty).run single halfTaken).ports := List.mem_singleton_self _
  have harmed : halfTakenPort.Armed h'.calls := hvigilant halfTakenPort hmem rfl _ _ h' hrun
  rw [hcalls, armed_refused_iff (by decide), armed_quieted_iff] at harmed
  exact not_plain_halfTakenPort harmed

end Panel

end Peripherals
