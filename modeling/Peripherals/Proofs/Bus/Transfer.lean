import Peripherals.Bus.TwoWire
import Peripherals.Proofs.Hardware.Faults

/-!
# `Proofs.Bus.Transfer` — a transfer on the two-wire bus is one call

Whatever is asked of a device on a two-wire bus, reading and writing as well as the access to its registers, is one
transfer. An address with more than seven bits is refused before anything is called. Any other transfer is one call of
the driver, which is made once, whatever it comes to, and whose status decides: the error names the status and, where
it has a place for one, the address.

* `TwoWireBus.transferring` — the call of a transfer;
* `Hardware.Concluded` — what comes of a single call;
* `TwoWireBus.Conveys` — an attempt that is one transfer, and nothing else;
* `TwoWireBus.conveys_every_access` — all that can be asked of a device.
-/

namespace Peripherals

open Hardware

/-! ## Errors and the calls that they come from -/

/-- The address that an error tells, if it tells one. -/
def Bus.Error.address? : Bus.Error → Option UInt16
  | .noAcknowledge address | .noDevice address | .invalidAddress address => some address
  | _ => none

/-- The only address that comes from a call is its target. -/
theorem Bus.Error.address?_ofStatus {status : Int32} {target address : UInt16}
    (h : (ofStatus status target).address? = some address) : address = target := by
  unfold ofStatus at h
  split at h
  · exact (Option.some.inj h).symm
  · split at h
    · contradiction
    · split at h
      · exact (Option.some.inj h).symm
      · split at h
        · contradiction
        · split at h
          · contradiction
          · contradiction

variable {α : Type}

/-- **What comes of a single call** whose receive buffer is read as a value, between two moments. The answer of the
driver holds the status, and the buffer of the caller as it is afterwards. -/
structure Hardware.Concluded (c : Driver.Call) (value : Bytes → α) (h : Hardware) (result : Except Bus.Error α)
    (h' : Hardware) : Prop where
  /-- The driver is called once, and nothing else happens to it. -/
  driver : h'.driver = (h.driver.call c).2
  /-- The call is put on record once, under its status. -/
  calls : h'.calls = h.calls ++ [c.record (h.driver.call c).1.status]
  ok_iff : (∃ v, result = .ok v) ↔ (h.driver.call c).1.status = 0
  /-- A success gives what the driver has put into the buffer. -/
  ok : ∀ v, result = .ok v → v = value (h.driver.call c).1.rx
  /-- An error tells the status and no address but the target, and leaves the buffer as it was. -/
  error : ∀ e, result = .error e → e.status? = some (h.driver.call c).1.status ∧
    (∀ address, e.address? = some address → address = c.target) ∧ (h.driver.call c).1.rx = c.rx

/-- **A call that is issued**, and whose answer is read, is concluded. -/
theorem Hardware.concluded_issue (c : Driver.Call) (value : Bytes → α) (h : Hardware) :
    Concluded c value h ((issue c >>= fun rx => pure (value rx)).run h).1
      ((issue c >>= fun rx => pure (value rx)).run h).2 := by
  rcases issued_read_cases c value h with ⟨h', hissued, hrun⟩ | ⟨status, h', hstatus, hissued, hrun⟩
  · rw [hrun]
    exact
      { driver := hissued.driver
        calls := hissued.status.symm ▸ hissued.calls
        ok_iff := iff_of_true ⟨_, rfl⟩ hissued.status
        ok := fun v hv => (Except.ok.inj hv).symm
        error := nofun }
  · rw [hrun]
    have hfailed : (h.driver.call c).1.status ≠ 0 := hissued.status.symm ▸ hstatus
    refine
      { driver := hissued.driver
        calls := hissued.status.symm ▸ hissued.calls
        ok_iff := iff_of_false nofun hfailed
        ok := nofun
        error := fun e he => ?_ }
    obtain rfl := Except.error.inj he
    rw [hissued.status]
    exact ⟨Bus.Error.status?_ofStatus status c.target, fun _ => Bus.Error.address?_ofStatus,
      Driver.Simulated.rx_of_failure hfailed⟩

/-! ## Transfers -/

namespace TwoWireBus

variable {b : TwoWireBus} {address : UInt8} {tx rx : Bytes}

/-- The call of a transfer. -/
def transferring (b : TwoWireBus) (address : UInt8) (tx rx : Bytes) : Driver.Call :=
  { opcode := .twoWireTransfer, bus := b.engine.number, target := address.toUInt16, frequency := b.engine.frequency,
    tx, rx }

/-- **An attempt that is one transfer**, wherever it starts: `tx` goes to the device at `address`, and what is in the
buffer then, which was `rx` before, is read as a value. -/
structure Conveys (b : TwoWireBus) (address : UInt8) (tx rx : Bytes) (value : Bytes → α)
    (x : Attempt Bus.Error α) : Prop where
  /-- An address with more than seven bits is refused, and the hardware stays as it is. -/
  misaddressed : maxAddress < address → ∀ h, x.run h = (.error (.invalidAddress address.toUInt16), h)
  /-- With any other address, there is one call. -/
  addressed : address ≤ maxAddress →
    ∀ h, Concluded (b.transferring address tx rx) value h (x.run h).1 (x.run h).2

/-- A transfer whose answer is read as a value. -/
theorem conveys_read (b : TwoWireBus) (address : UInt8) (tx rx : Bytes) (value : Bytes → α) :
    b.Conveys address tx rx value (b.transfer address tx rx >>= fun received => pure (value received)) where
  misaddressed hlarge h := by
    rw [transfer, if_pos hlarge]
    rfl
  addressed hsmall h := by
    rw [transfer, if_neg (UInt8.not_lt.mpr hsmall)]
    exact concluded_issue (b.transferring address tx rx) value h

/-- A transfer whose answer is the buffer itself. -/
theorem conveys_transfer (b : TwoWireBus) (address : UInt8) (tx rx : Bytes) :
    b.Conveys address tx rx id (b.transfer address tx rx) := by
  have hread := b.conveys_read address tx rx id
  rw [← bind_pure (b.transfer address tx rx)]
  exact hread

/-- **Everything that is asked of a device is one transfer**: reading, writing, both at once, and reading and writing
registers, where the number of the first register goes out before any values. -/
theorem conveys_every_access (b : TwoWireBus) (address : UInt8) :
    (∀ rx, b.Conveys address [] rx id (b.read address rx)) ∧
    (∀ tx, b.Conveys address tx [] (fun _ => ()) (b.write address tx)) ∧
    (∀ tx rx, b.Conveys address tx rx id (b.transfer address tx rx)) ∧
    (∀ register, b.Conveys address [register] [0] (·.headD 0) (b.readRegister address register)) ∧
    (∀ register count, b.Conveys address [register] (Bytes.zeros count) id (b.readRegisters address register count)) ∧
    (∀ register, b.Conveys address [register] [0, 0] (fun rx => Bytes.word16 ((rx.drop 1).headD 0) (rx.headD 0))
      (b.readRegisterPair address register)) ∧
    (∀ register values, b.Conveys address (register :: values) [] (fun _ => ())
      (b.writeRegisters address register values)) := by
  refine ⟨?_, ?_, ?_, ?_, ?_, ?_, ?_⟩
  · intro rx
    exact b.conveys_transfer address [] rx
  · intro tx
    exact b.conveys_read address tx [] fun _ => ()
  · intro tx rx
    exact b.conveys_transfer address tx rx
  · intro register
    exact b.conveys_read address [register] [0] (·.headD 0)
  · intro register count
    exact b.conveys_transfer address [register] (Bytes.zeros count)
  · intro register
    exact b.conveys_read address [register] [0, 0] fun rx => Bytes.word16 ((rx.drop 1).headD 0) (rx.headD 0)
  · intro register values
    exact b.conveys_read address (register :: values) [] fun _ => ()

end TwoWireBus

end Peripherals
