import Peripherals.Port.Digital
import Peripherals.Proofs.Hardware.Faults

/-!
# `Proofs.Port.Line` — lines that are driven and read

* `Port.driving`, `Port.sensing` — the calls that put a line at a level and that read it;
* `Port.line_of_driving`, `Port.level_of_sensing` — a line is where it was put, and is read as it is;
* `OutputPort.write_cases` — everything that a write can come to.
-/

namespace Peripherals

open Hardware

namespace Port

variable {pin : Pin} {level : Bool} {h h' : Hardware}

/-- The call that puts the line of a pin at a level. -/
def driving (pin : Pin) (level : Bool) : Driver.Call :=
  { opcode := .pinWrite, target := pin.key, tx := [if level then 1 else 0] }

/-- The call that reads the line of a pin. -/
def sensing (pin : Pin) : Driver.Call := { opcode := .pinRead, target := pin.key, rx := [0] }

theorem drive_eq (pin : Pin) (level : Bool) : drive pin level = issue (driving pin level) >>= fun _ => pure () := rfl

/-- **A line is where it was put**, if the driver has taken the write. -/
theorem line_of_driving (hissued : Issued (driving pin level) 0 h h') (hcandid : h.driver.Candid .pinWrite) :
    h'.driver.levels.get? pin.key = some level := by
  have hlevel : ((driving pin level).tx.headD 0 != 0) = level := by cases level <;> rfl
  have hlevels : h'.driver.levels = h.driver.levels.set pin.key ((driving pin level).tx.headD 0 != 0) := by
    rw [(hissued.performed hcandid).2]
    rfl
  rw [hlevels, hlevel, Table.get?_set_self]

/-- **A line is read as it is**, if the driver has taken the call. -/
theorem level_of_sensing (hissued : Issued (sensing pin) 0 h h') (hcandid : h.driver.Candid .pinRead)
    (hlevel : h.driver.levels.get? pin.key = some level) :
    ((h.driver.call (sensing pin)).1.rx.headD 0 != 0) = level := by
  have hread : (h.driver.call (sensing pin)).1.rx = [if h.driver.levels.getD pin.key false then 1 else 0] := by
    rw [(hissued.performed hcandid).1]
    rfl
  have hline : h.driver.levels.getD pin.key false = level := by rw [Table.getD, hlevel, Option.getD_some]
  rw [hread, hline]
  cases level with
  | true => rfl
  | false => rfl

end Port

namespace OutputPort

/-- **Everything that a write can come to**: the port remembers the level if the driver has taken it, and is as it was
if the driver has refused it. -/
theorem write_cases (p : OutputPort) (level : Bool) (h : Hardware) :
    (∃ h', Issued (Port.driving p.pin level) 0 h h' ∧ p.write level h = ((.ok (), { p with level }), h')) ∨
      ∃ status h', status ≠ 0 ∧ Issued (Port.driving p.pin level) status h h' ∧
        p.write level h = ((.error (.ofStatus status p.pin.key), p), h') := by
  rw [write, run_bind, Port.drive_eq]
  rcases issued_read_cases (Port.driving p.pin level) (fun _ => ()) h with
    ⟨h', hissued, hrun⟩ | ⟨status, h', hstatus, hissued, hrun⟩
  · rw [hrun]
    exact .inl ⟨h', hissued, rfl⟩
  · rw [hrun]
    exact .inr ⟨status, h', hstatus, hissued, rfl⟩

end OutputPort

end Peripherals
