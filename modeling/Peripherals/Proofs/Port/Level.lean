import Peripherals.Proofs.Bus.Selecting
import Peripherals.Proofs.Port.Description

/-!
# `Proofs.Port.Level` — the level that an output remembers is that of its line

The level of an output is kept in two places: the port remembers what was written last, and the driver has the line.
The driver may refuse any write, also the one by which a transaction releases its chip-select line, whose failure is
told and nothing else. As long as nobody else moves the line, the two are the same at any time.

* `OutputPort.Wrote`, `OutputPort.Bracketing` — what becomes of both levels in a write, and in a transaction;
* `OutputPort.Mirrors` — the port remembers the level of its line, and no write will be answered with a zero code
  before it has been done;
* `OutputPort.Deed` — what is done with a port, and meanwhile by others;
* `OutputPort.truthful_of_created` — after any number of deeds.
-/

namespace Peripherals

open Hardware

/-- **A call about another pin moves no line of this one.** -/
theorem Driver.Simulated.level_call {s : Driver.Simulated} {c : Driver.Call} {key : UInt16} (hother : c.target ≠ key) :
    (s.call c).2.levels.get? key = s.levels.get? key := by
  by_cases hconfigure : c.opcode = .pinConfigure
  · show (s.answer c).2.levels.get? key = _
    unfold answer
    split
    · rfl
    · simp only [perform, hconfigure]
      split
      · exact Table.get?_set_of_ne _ _ hother
      · rfl
  · by_cases hwrite : c.opcode = .pinWrite
    · show (s.answer c).2.levels.get? key = _
      unfold answer
      split
      · rfl
      · simp only [perform, hwrite]
        exact Table.get?_set_of_ne _ _ hother
    · rw [levels_call hconfigure hwrite]

/-- **The line of a pin is where its configuration as an output puts it**, if the driver has taken the call. -/
theorem Port.line_of_configuration {pin : Pin} {flags : Driver.PinFlags} {payload : Bytes} {h h' : Hardware}
    (hissued : Issued (configuration pin flags payload) 0 h h') (hcandid : h.driver.Candid .pinConfigure)
    (houtput : flags.output = true) : h'.driver.levels.get? pin.key = some flags.initialHigh := by
  have hlevels : h'.driver.levels = (h.driver.perform (configuration pin flags payload)).2.levels := by
    rw [(hissued.performed hcandid).2]
  rw [hlevels]
  simp only [Driver.Simulated.perform, configuration, Driver.PinFlags.ofByte_toByte, houtput, if_true]
  exact Table.get?_set_self _ _ _

namespace OutputPort

variable {α : Type} {p p' : OutputPort} {level : Bool} {h h' : Hardware}

/-! ## Writes -/

/-- **What becomes of both levels in a write**: both are the new one, or both are as they were. -/
inductive Wrote (p : OutputPort) (level : Bool) (h : Hardware) :
    Except Bus.Error Unit → OutputPort → Hardware → Prop
  | taken {h' : Hardware} (line : h'.driver.levels.get? p.pin.key = some level) :
    Wrote p level h (.ok ()) { p with level } h'
  | refused {e : Bus.Error} {h' : Hardware} (levels : h'.driver.levels = h.driver.levels) :
    Wrote p level h (.error e) p h'

/-- **The port remembers the level of its line**, and no write will be answered with a zero code before it has been
done. -/
structure Mirrors (p : OutputPort) (h : Hardware) : Prop where
  line : h.driver.levels.get? p.pin.key = some p.level
  candid : h.driver.Candid .pinWrite

namespace Wrote

variable {result : Except Bus.Error Unit}

theorem pin (hwrote : Wrote p level h result p' h') : p'.pin = p.pin := by
  cases hwrote with
  | taken _ => rfl
  | refused _ => rfl

/-- The levels are the same after a write if they were the same before. -/
theorem line (hwrote : Wrote p level h result p' h') (hline : h.driver.levels.get? p.pin.key = some p.level) :
    h'.driver.levels.get? p'.pin.key = some p'.level := by
  cases hwrote with
  | taken line => exact line
  | refused levels => rw [levels, hline]

end Wrote

theorem wrote_write (p : OutputPort) (level : Bool) (hcandid : h.driver.Candid .pinWrite) :
    Wrote p level h (p.write level h).1.1 (p.write level h).1.2 (p.write level h).2 ∧
      (p.write level h).2.driver.Candid .pinWrite := by
  rcases p.write_cases level h with ⟨h', hissued, hwrite⟩ | ⟨status, h', hstatus, hissued, hwrite⟩
  · rw [hwrite]
    exact ⟨.taken (Port.line_of_driving hissued hcandid), hissued.candid hcandid⟩
  · rw [hwrite]
    obtain ⟨faults, records, hstill⟩ := hissued.still hstatus
    exact ⟨.refused (by rw [hstill]), hissued.candid hcandid⟩

/-! ## Transactions -/

/-- **The release of a line** is a write of its inactive level. -/
theorem wrote_deselect (p : OutputPort) (mode : ChipSelectMode) (hcandid : h.driver.Candid .pinWrite) :
    ∃ result, Wrote p (!mode.activeLevel) h result (FourWireBus.deselect ⟨p, mode⟩ h).1
        (FourWireBus.deselect ⟨p, mode⟩ h).2 ∧
      (FourWireBus.deselect ⟨p, mode⟩ h).2.driver.Candid .pinWrite := by
  have hwrote := p.wrote_write (!mode.activeLevel) hcandid
  rw [FourWireBus.deselect, run_bind]
  cases hrun : p.write (!mode.activeLevel) h with
  | mk outcome h₁ =>
      obtain ⟨result, port⟩ := outcome
      rw [hrun] at hwrote
      obtain ⟨hwrote, hcandid₁⟩ := hwrote
      cases hwrote with
      | taken line => exact ⟨.ok (), .taken line, hcandid₁⟩
      | @refused e _ levels => exact ⟨.error e, .refused levels, hcandid₁⟩

/-- **What becomes of both levels in a transaction** whose line has this active level. -/
inductive Bracketing (p : OutputPort) (active : Bool) (h : Hardware) :
    Except Bus.Error α → OutputPort → Hardware → Prop
  /-- The line cannot be made active. -/
  | refused {e : Bus.Error} {h' : Hardware} (levels : h'.driver.levels = h.driver.levels) :
    Bracketing p active h (.error (.chipSelect e)) p h'
  /-- Between the write that makes the line active and the one that makes it inactive, neither level changes. The
  failure of the latter is not the outcome. -/
  | entered {outcome : Except Bus.Error α} {released : Except Bus.Error Unit} {p₁ p' : OutputPort}
    {h₁ h₂ h' : Hardware} (entering : Wrote p active h (.ok ()) p₁ h₁)
    (transfers : h₂.driver.levels = h₁.driver.levels) (leaving : Wrote p₁ (!active) h₂ released p' h') :
    Bracketing p active h outcome p' h'

namespace Bracketing

variable {active : Bool} {outcome : Except Bus.Error α}

theorem pin (hbracketing : Bracketing p active h outcome p' h') : p'.pin = p.pin := by
  cases hbracketing with
  | refused _ => rfl
  | entered entering _ leaving => exact leaving.pin.trans entering.pin

theorem line (hbracketing : Bracketing p active h outcome p' h')
    (hline : h.driver.levels.get? p.pin.key = some p.level) : h'.driver.levels.get? p'.pin.key = some p'.level := by
  cases hbracketing with
  | refused levels => rw [levels, hline]
  | entered entering transfers leaving => exact leaving.line (transfers ▸ entering.line hline)

end Bracketing

theorem bracketing_selected (p : OutputPort) (b : FourWireBus) (mode : ChipSelectMode)
    (program : FourWireBus.Program α) (hcandid : h.driver.Candid .pinWrite) :
    Bracketing p mode.activeLevel h (b.selected ⟨p, mode⟩ program h).1.1 (b.selected ⟨p, mode⟩ program h).1.2
        (b.selected ⟨p, mode⟩ program h).2 ∧
      (b.selected ⟨p, mode⟩ program h).2.driver.Candid .pinWrite := by
  have hwrote := p.wrote_write mode.activeLevel hcandid
  rw [FourWireBus.selected, run_bind]
  cases hrun : p.write mode.activeLevel h with
  | mk outcome h₁ =>
      obtain ⟨result, p₁⟩ := outcome
      rw [hrun] at hwrote
      obtain ⟨hwrote, hcandid₁⟩ := hwrote
      cases result with
      | error e =>
          cases hwrote with
          | refused levels => exact ⟨.refused levels, hcandid₁⟩
      | ok _ =>
          obtain ⟨records, -, hconducted⟩ := b.conducted_run program h₁
          obtain ⟨released, hleaving, hcandid'⟩ := p₁.wrote_deselect mode (hconducted.candid hcandid₁)
          exact ⟨.entered hwrote hconducted.levels hleaving, hcandid'⟩

/-! ## Deeds -/

/-- What is done with a port, and meanwhile by others. -/
inductive Deed : Type 1 where
  | write (level : Bool)
  | toggle
  /-- The line selects a peripheral, for a transaction on any bus. -/
  | select {α : Type} (bus : FourWireBus) (mode : ChipSelectMode) (program : FourWireBus.Program α)
  /-- The line is released alone. A transaction in which others have a part is a write of the active level, what they
  do, and this. -/
  | release (mode : ChipSelectMode)
  | others (action : Action Unit)

/-- A port and the hardware at a time. -/
abbrev Moment := OutputPort × Hardware

/-- What a deed does. -/
def undergo : Moment → Deed → Moment
  | (p, h), .write level => ((p.write level h).1.2, (p.write level h).2)
  | (p, h), .toggle => ((p.toggle h).1.2, (p.toggle h).2)
  | (p, h), .select bus mode program => ((bus.selected ⟨p, mode⟩ program h).1.2, (bus.selected ⟨p, mode⟩ program h).2)
  | (p, h), .release mode => FourWireBus.deselect ⟨p, mode⟩ h
  | (p, h), .others action => (p, (action h).2)

/-- **Nobody else moves the line of this pin**, or makes the driver answer a write with a zero code before it has been
done. -/
def Deed.Spares (key : UInt16) : Deed → Prop
  | .others action => ∀ h, (action h).2.driver.levels.get? key = h.driver.levels.get? key ∧
      (h.driver.Candid .pinWrite → (action h).2.driver.Candid .pinWrite)
  | _ => True

/-- Any call about another pin may be made. -/
theorem Deed.spares_call {key : UInt16} {c : Driver.Call} (hother : c.target ≠ key) :
    Deed.Spares key (.others (do let _ ← call c)) :=
  fun _ => ⟨Driver.Simulated.level_call hother, fun hcandid => hcandid.call c⟩

/-- Somebody makes a later call of this kind fail. -/
def Deed.fault (o : Driver.Opcode) (code : Int32) : Deed :=
  .others (modify fun h => { h with driver := h.driver.injectFault o code })

/-- Any call may be made to fail. -/
theorem Deed.spares_fault (key : UInt16) (o : Driver.Opcode) {code : Int32} (hcode : code ≠ 0) :
    (Deed.fault o code).Spares key :=
  fun _ => ⟨rfl, fun hcandid => hcandid.injectFault hcode⟩

/-- **One deed**: the pin is the same, and the levels are the same if they were the same before. -/
theorem mirrors_undergo {m : Moment} {d : Deed} (hmirrors : Mirrors m.1 m.2) (hspares : d.Spares m.1.pin.key) :
    (undergo m d).1.pin = m.1.pin ∧ Mirrors (undergo m d).1 (undergo m d).2 := by
  obtain ⟨p, h⟩ := m
  cases d with
  | write level =>
      obtain ⟨hwrote, hcandid⟩ := p.wrote_write level hmirrors.candid
      exact ⟨hwrote.pin, hwrote.line hmirrors.line, hcandid⟩
  | toggle =>
      obtain ⟨hwrote, hcandid⟩ := p.wrote_write (!p.level) hmirrors.candid
      exact ⟨hwrote.pin, hwrote.line hmirrors.line, hcandid⟩
  | select bus mode program =>
      obtain ⟨hbracketing, hcandid⟩ := p.bracketing_selected bus mode program hmirrors.candid
      exact ⟨hbracketing.pin, hbracketing.line hmirrors.line, hcandid⟩
  | release mode =>
      obtain ⟨_, hwrote, hcandid⟩ := p.wrote_deselect mode hmirrors.candid
      exact ⟨hwrote.pin, hwrote.line hmirrors.line, hcandid⟩
  | others action =>
      obtain ⟨hlevel, hcandid⟩ := hspares h
      exact ⟨rfl, hlevel.trans hmirrors.line, hcandid hmirrors.candid⟩

/-- **Any number of deeds.** -/
theorem mirrors_foldl {m : Moment} {deeds : List Deed} (hmirrors : Mirrors m.1 m.2)
    (hspares : ∀ d ∈ deeds, d.Spares m.1.pin.key) :
    (deeds.foldl undergo m).1.pin = m.1.pin ∧ Mirrors (deeds.foldl undergo m).1 (deeds.foldl undergo m).2 := by
  induction deeds generalizing m with
  | nil => exact ⟨rfl, hmirrors⟩
  | cons d deeds ih =>
      obtain ⟨hpin, hmirrors'⟩ := mirrors_undergo hmirrors (hspares d List.mem_cons_self)
      obtain ⟨hpins, hafter⟩ := ih hmirrors' fun d' hd' => hpin ▸ hspares d' (List.mem_cons_of_mem d hd')
      exact ⟨hpins.trans hpin, hafter⟩

/-- **A port begins with the level of its line.** -/
theorem mirrors_of_created {pin : Pin} {initial : Bool} {kind : OutputKind}
    (hcreated : (create pin initial kind).run h = (.ok p, h')) (hconfigure : h.driver.Candid .pinConfigure)
    (hwrite : h.driver.Candid .pinWrite) : p.pin = pin ∧ Mirrors p h' := by
  obtain ⟨claim, h₁, hclaim, hrest⟩ := attempt_eq_ok hcreated
  obtain ⟨hpin, hdriver⟩ := Port.claim_of_acquireBy hclaim
  obtain ⟨_, h₂, hfinish, hrest⟩ := attempt_eq_ok hrest
  have hconfigured := Port.run_of_orRelease hfinish
  obtain ⟨hport, rfl⟩ := Prod.mk.inj hrest
  obtain rfl := Except.ok.inj hport
  rcases issued_read_cases (Port.configuration pin (Port.outputFlags initial kind) []) (fun _ => ()) h₁ with
    ⟨h₂', hissued, hrun⟩ | ⟨_, h₂', _, _, hrun⟩
  · obtain ⟨-, rfl⟩ := Prod.mk.inj (hrun.symm.trans hconfigured)
    rw [← hdriver] at hconfigure hwrite
    refine ⟨hpin, ?_, hissued.candid hwrite⟩
    show h₂'.driver.levels.get? claim.pin.key = some initial
    rw [hpin]
    exact Port.line_of_configuration hissued hconfigure rfl
  · exact nomatch hrun.symm.trans hconfigured

/-! ## At any time -/

/-- **A port that is true to its line**: it remembers the level of the line, and whatever is done next changes both
levels or, if the driver refuses it, neither. -/
structure Truthful (p : OutputPort) (h : Hardware) : Prop where
  line : h.driver.levels.get? p.pin.key = some p.level
  write : ∀ level, Wrote p level h (p.write level h).1.1 (p.write level h).1.2 (p.write level h).2
  /-- A toggle answers with the new level just if the driver takes it. -/
  toggle : ∃ result, Wrote p (!p.level) h result (p.toggle h).1.2 (p.toggle h).2 ∧
    (p.toggle h).1.1 = result.map fun () => !p.level
  select : ∀ {α : Type} (bus : FourWireBus) (mode : ChipSelectMode) (program : FourWireBus.Program α),
    Bracketing p mode.activeLevel h (bus.selected ⟨p, mode⟩ program h).1.1 (bus.selected ⟨p, mode⟩ program h).1.2
      (bus.selected ⟨p, mode⟩ program h).2
  release : ∀ mode : ChipSelectMode, ∃ result, Wrote p (!mode.activeLevel) h result
    (FourWireBus.deselect ⟨p, mode⟩ h).1 (FourWireBus.deselect ⟨p, mode⟩ h).2

/-- **An output remembers the level of its line.** Whatever the port, whatever is done with it, and whatever the driver
refuses: the level that the port remembers is that of its line at any time. What is done next changes both or, if it is
refused, neither. -/
theorem truthful_of_created {pin : Pin} {initial : Bool} {kind : OutputKind}
    (hcreated : (create pin initial kind).run h = (.ok p, h')) (hconfigure : h.driver.Candid .pinConfigure)
    (hwrite : h.driver.Candid .pinWrite) (deeds : List Deed) (hspares : ∀ d ∈ deeds, d.Spares pin.key) :
    (deeds.foldl undergo (p, h')).1.pin = pin ∧
      Truthful (deeds.foldl undergo (p, h')).1 (deeds.foldl undergo (p, h')).2 := by
  obtain ⟨rfl, hmirrors⟩ := mirrors_of_created hcreated hconfigure hwrite
  obtain ⟨hpin, hafter⟩ := mirrors_foldl (m := (p, h')) hmirrors hspares
  refine ⟨hpin, ?_⟩
  generalize deeds.foldl undergo (p, h') = m at hafter
  obtain ⟨q, hq⟩ := m
  exact
    { line := hafter.line
      write := fun level => (q.wrote_write level hafter.candid).1
      toggle := ⟨_, (q.wrote_write (!q.level) hafter.candid).1, rfl⟩
      select := fun bus mode program => (q.bracketing_selected bus mode program hafter.candid).1
      release := fun mode =>
        have ⟨result, hwrote, _⟩ := q.wrote_deselect mode hafter.candid
        ⟨result, hwrote⟩ }

/-- A pin for a relay. -/
def relay : Pin := ⟨"D00", 0, [.digital true true true]⟩

/-- The relay is toggled, which the driver refuses; then it is made active, and the driver refuses to release it.
Meanwhile another line is driven. -/
def hitches : List Deed :=
  [.fault .pinWrite 5, .toggle, .others (do let _ ← call { opcode := .pinWrite, target := 1, tx := [1] }), .write true,
    .fault .pinWrite 7, .release .activeHigh]

/-- The relay stays active, and its port says so. -/
theorem truthful_of_created_relay :
    ∃ p h', (create relay false .pushPull).run .empty = (.ok p, h') ∧
      (hitches.foldl undergo (p, h')).1.level = true ∧
      Truthful (hitches.foldl undergo (p, h')).1 (hitches.foldl undergo (p, h')).2 := by
  refine ⟨_, _, rfl, rfl, ?_⟩
  refine (truthful_of_created (show (create relay false .pushPull).run .empty = _ from rfl) nofun nofun hitches
    fun d hd => ?_).2
  simp only [hitches, List.mem_cons, List.not_mem_nil, or_false] at hd
  rcases hd with rfl | rfl | rfl | rfl | rfl | rfl
  · exact Deed.spares_fault _ _ (by decide)
  · trivial
  · exact Deed.spares_call (by decide)
  · trivial
  · exact Deed.spares_fault _ _ (by decide)
  · trivial

end OutputPort

end Peripherals
