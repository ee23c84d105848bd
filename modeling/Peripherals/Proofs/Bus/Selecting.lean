import Peripherals.Bus.FourWire
import Peripherals.Proofs.Port.Line

/-!
# `Proofs.Bus.Selecting` — a transaction between two writes of one line

A transaction on the four-wire bus makes the line of its peripheral active, runs its program, and makes the line
inactive again, whatever has become of the program. Any of these calls may be refused. `FourWireBus.Bracketed` lists
everything that a transaction can come to, and `FourWireBus.bracketed` says that there is nothing else.

* `FourWireBus.Conducted` — the transfers of a program on a driver, call by call, and the outcome that it stops with;
* `FourWireBus.Bracketed` — the calls of a transaction, its result, and the line after it.
-/

namespace Peripherals

open Hardware

/-- The level of a line after the write that releases it was answered with this status. -/
def ChipSelectMode.levelAfter (mode : ChipSelectMode) (released : Int32) : Bool :=
  if released = 0 then !mode.activeLevel else mode.activeLevel

namespace FourWireBus

variable {α : Type}

/-! ## Programs -/

/-- The call of a transfer. -/
def transferring (b : FourWireBus) (tx rx : Bytes) : Driver.Call :=
  { opcode := .fourWireTransfer, bus := b.engine.number, target := 0, frequency := b.engine.frequency,
    flags := b.modeBits, tx, rx }

/-- **How a program goes on a driver**: the records of its transfers in order, the outcome that it stops with, and the
driver that it leaves behind. It hears of every transfer, and may go on whatever it hears. -/
inductive Conducted (b : FourWireBus) :
    Driver.Simulated → Program α → List Driver.Record → Except Bus.Error α → Driver.Simulated → Prop
  | stop {s : Driver.Simulated} {outcome : Except Bus.Error α} : Conducted b s (.stop outcome) [] outcome s
  /-- The driver takes the transfer. -/
  | taken {s s' : Driver.Simulated} {tx rx : Bytes} {next : Except Bus.Error Bytes → Program α}
    {records : List Driver.Record} {outcome : Except Bus.Error α}
    (status : (s.call (b.transferring tx rx)).1.status = 0)
    (rest : Conducted b (s.call (b.transferring tx rx)).2 (next (.ok (s.call (b.transferring tx rx)).1.rx)) records
      outcome s') :
    Conducted b s (.transfer tx rx next) ((b.transferring tx rx).record 0 :: records) outcome s'
  /-- The driver refuses the transfer. -/
  | refused {s s' : Driver.Simulated} {tx rx : Bytes} {next : Except Bus.Error Bytes → Program α}
    {records : List Driver.Record} {outcome : Except Bus.Error α} {code : Int32} (code_ne : code ≠ 0)
    (status : (s.call (b.transferring tx rx)).1.status = code)
    (rest : Conducted b (s.call (b.transferring tx rx)).2 (next (.error (.ofStatus code 0))) records outcome s') :
    Conducted b s (.transfer tx rx next) ((b.transferring tx rx).record code :: records) outcome s'

namespace Conducted

variable {b : FourWireBus} {s s' : Driver.Simulated} {program : Program α} {records : List Driver.Record}
  {outcome : Except Bus.Error α}

/-- Transfers move no line. -/
theorem levels (hconducted : Conducted b s program records outcome s') : s'.levels = s.levels := by
  induction hconducted with
  | stop => rfl
  | taken _ _ ih => exact ih.trans (Driver.Simulated.levels_call nofun nofun)
  | refused _ _ _ ih => exact ih.trans (Driver.Simulated.levels_call nofun nofun)

theorem candid {o : Driver.Opcode} (hconducted : Conducted b s program records outcome s') (hcandid : s.Candid o) :
    s'.Candid o := by
  induction hconducted with
  | stop => exact hcandid
  | taken _ _ ih => exact ih (hcandid.call _)
  | refused _ _ _ ih => exact ih (hcandid.call _)

end Conducted

/-- **A program runs as it is conducted**, and nothing else is called. By induction on the program, which goes on with
whatever its transfer came to. -/
theorem conducted_run (b : FourWireBus) (program : Program α) (h : Hardware) :
    ∃ records, (b.run program h).2.calls = h.calls ++ records ∧
      Conducted b h.driver program records (b.run program h).1 (b.run program h).2.driver := by
  induction program generalizing h with
  | stop outcome => exact ⟨[], (List.append_nil _).symm, .stop⟩
  | transfer tx rx next ih =>
      have hfirst : (b.transfer tx rx).run = (issue (b.transferring tx rx)).run := rfl
      rw [run, hfirst, run_bind]
      rcases issued_cases (b.transferring tx rx) h with ⟨h₁, hissued, hrun⟩ | ⟨code, h₁, hcode, hissued, hrun⟩
      · obtain ⟨records, hcalls, hconducted⟩ := ih _ h₁
        rw [hissued.driver] at hconducted
        rw [hissued.calls, List.append_assoc, List.singleton_append] at hcalls
        rw [hrun]
        exact ⟨_, hcalls, .taken hissued.status hconducted⟩
      · obtain ⟨records, hcalls, hconducted⟩ := ih _ h₁
        rw [hissued.driver] at hconducted
        rw [hissued.calls, List.append_assoc, List.singleton_append] at hcalls
        rw [hrun]
        exact ⟨_, hcalls, .refused hcode hissued.status hconducted⟩

/-! ## Selections -/

/-- The line is released by one write, and the port remembers the level if the driver takes it. -/
theorem deselect_cases (s : Selection) (h : Hardware) :
    ∃ released, Issued (Port.driving s.port.pin (!s.mode.activeLevel)) released h (deselect s h).2 ∧
      (deselect s h).1 = if released = 0 then { s.port with level := !s.mode.activeLevel } else s.port := by
  rw [deselect, run_bind]
  rcases s.port.write_cases (!s.mode.activeLevel) h with
    ⟨h', hissued, hwrite⟩ | ⟨released, h', hreleased, hissued, hwrite⟩
  · rw [hwrite]
    exact ⟨0, hissued, rfl⟩
  · rw [hwrite]
    exact ⟨released, ⟨hissued.status, hissued.driver⟩, (if_neg hreleased).symm⟩

/-- **Everything that a transaction can come to**: its result and the hardware after it. -/
inductive Bracketed (b : FourWireBus) (program : Program α) (h : Hardware) :
    Option Selection → (Except Bus.Error α × Option OutputPort) × Hardware → Prop
  /-- Without a line to select by, there are the transfers and nothing else. -/
  | unselected {records : List Driver.Record} {outcome : Except Bus.Error α} {h' : Hardware}
    (conducted : Conducted b h.driver program records outcome h'.driver)
    (calls : h'.calls = h.calls ++ records) : Bracketed b program h none ((outcome, none), h')
  /-- The driver refuses to make the line active: this is the only call, and it does nothing. -/
  | refused {s : Selection} {status : Int32} {h' : Hardware} (status_ne : status ≠ 0)
    (calls : h'.calls = h.calls ++ [(Port.driving s.port.pin s.mode.activeLevel).record status])
    (still : h.driver.Still h'.driver) :
    Bracketed b program h (some s) ((.error (.chipSelect (.ofStatus status s.port.pin.key)), some s.port), h')
  /-- The transfers stand between two writes of the line, and the last write decides where the line is. -/
  | selected {s : Selection} {active : Driver.Simulated} {records : List Driver.Record} {outcome : Except Bus.Error α}
    {released : Int32} {port : OutputPort} {h' : Hardware}
    (conducted : Conducted b (h.driver.call (Port.driving s.port.pin s.mode.activeLevel)).2 program records outcome
      active)
    (calls : h'.calls = h.calls ++ ((Port.driving s.port.pin s.mode.activeLevel).record 0 ::
      records ++ [(Port.driving s.port.pin (!s.mode.activeLevel)).record released]))
    (port_eq : port = { s.port with level := s.mode.levelAfter released })
    (line : h.driver.Candid .pinWrite →
      h'.driver.levels.get? s.port.pin.key = some (s.mode.levelAfter released)) :
    Bracketed b program h (some s) ((outcome, some port), h')

theorem bracketed_selected (b : FourWireBus) (program : Program α) (s : Selection) (h : Hardware) :
    Bracketed b program h (some s) (b.transaction (some s) program h) := by
  rw [transaction, run_bind, selected, run_bind]
  rcases s.port.write_cases s.mode.activeLevel h with
    ⟨h₁, hactive, hwrite⟩ | ⟨status, h₁, hstatus, hactive, hwrite⟩
  case inr =>
    rw [hwrite]
    exact .refused hstatus hactive.calls (hactive.still hstatus)
  case inl =>
    let active : Selection := { s with port := { s.port with level := s.mode.activeLevel } }
    obtain ⟨records, hcalls, hconducted⟩ := b.conducted_run program h₁
    obtain ⟨released, hreleased, hport⟩ := deselect_cases active (b.run program h₁).2
    have hcalls' := hreleased.calls
    have hline : h.driver.Candid .pinWrite →
        (deselect active (b.run program h₁).2).2.driver.levels.get? s.port.pin.key =
          some (s.mode.levelAfter released) := by
      intro hcandid
      by_cases hstatus : released = 0
      · subst hstatus
        exact Port.line_of_driving hreleased (hconducted.candid (hactive.candid hcandid))
      · -- The line is still where it was put before the transfers.
        obtain ⟨faults, after, hstill⟩ := hreleased.still hstatus
        have hlevels : (deselect active (b.run program h₁).2).2.driver.levels = h₁.driver.levels := by
          rw [hstill]
          exact hconducted.levels
        rw [hlevels, ChipSelectMode.levelAfter, if_neg hstatus]
        exact Port.line_of_driving hactive hcandid
    have hport' : (deselect active (b.run program h₁).2).1 = { s.port with level := s.mode.levelAfter released } := by
      rw [hport, ChipSelectMode.levelAfter]
      split
      · rfl
      · rfl
    rw [hactive.driver] at hconducted
    rw [hcalls, hactive.calls, List.append_assoc, List.append_assoc] at hcalls'
    rw [hwrite]
    exact .selected hconducted hcalls' hport' hline

/-- **The line brackets every transaction.** Whatever the bus, the program, the selection and the hardware, with
whatever the driver answers to each call: if the line cannot be made active, that is the error and the only call.
Otherwise the transfers of the program stand between the write that makes the line active and the write that makes it
inactive, the result is the outcome of the program, and the line is inactive unless the last write was refused. -/
theorem bracketed (b : FourWireBus) (program : Program α) (selection : Option Selection) (h : Hardware) :
    Bracketed b program h selection (b.transaction selection program h) := by
  cases selection with
  | some s => exact b.bracketed_selected program s h
  | none =>
      obtain ⟨records, hcalls, hconducted⟩ := b.conducted_run program h
      exact .unselected hconducted hcalls

end FourWireBus

end Peripherals
