import Peripherals.Coprocessor.Link
import Peripherals.Device
import Peripherals.Proofs.Hardware.Conduct

/-!
# `Proofs.Secrecy.Board` — what a board never looks at

Some of what a board holds is secret: the bytes of the calls on record, since the frame of a command may carry a
password. Two boards look alike if they differ at most there. An action is *blind* if from boards that look alike it
comes to the same result and to boards that look alike again; in particular it writes the same lines to the log.

* `Veiled.InStep`, `Veiled.Blind` — two programs in step, and one that is in step with itself, over any state with
  something secret in it;
* `Hardware.Alike` — boards that look alike;
* `Hardware.inStep_call` — the one place where secret bytes go in: a four-wire transfer may send other bytes, as many
  of them;
* `Coprocessor.Link.inStep_send` — commands that differ in the bytes of their payloads.

All other actions are blind since their parts are. There is one lemma for each, and none opens another action.
-/

namespace Peripherals

/-! ## Programs that do not look behind a veil -/

/-- States some of which look alike: they differ at most in what is secret. -/
class Veiled (σ : Type) where
  Alike : σ → σ → Prop

namespace Veiled

variable {σ α α' β β' : Type} [Veiled σ] {R : α → α' → Prop} {S : β → β' → Prop}

/-- **Two programs in step**: from states that look alike they come to results in the relation `R`, and to states
that look alike again. -/
structure InStep (R : α → α' → Prop) (m : StateM σ α) (m' : StateM σ α') : Prop where
  run : ∀ s s', Alike s s' → R (m s).1 (m' s').1 ∧ Alike (m s).2 (m' s').2

/-- **A blind program** is in step with itself: neither its result nor what can be seen of the state after it depends
on what is secret. -/
abbrev Blind (m : StateM σ α) : Prop := InStep Eq m m

variable {m : StateM σ α} {m' : StateM σ α'}

theorem inStep_pure {x : α} {x' : α'} (hx : R x x') : InStep R (pure x : StateM σ α) (pure x') :=
  ⟨fun _ _ hs => ⟨hx, hs⟩⟩

theorem blind_pure {x : α} : Blind (pure x : StateM σ α) := inStep_pure rfl

/-- One program after another. -/
theorem InStep.bind {f : α → StateM σ β} {f' : α' → StateM σ β'} (hm : InStep R m m')
    (hf : ∀ x x', R x x' → InStep S (f x) (f' x')) : InStep S (m >>= f) (m' >>= f') := by
  refine ⟨fun s s' hs => ?_⟩
  obtain ⟨hR, halike⟩ := hm.run s s' hs
  exact (hf _ _ hR).run _ _ halike

theorem InStep.mono {R' : α → α' → Prop} (hm : InStep R m m') (hR : ∀ x x', R x x' → R' x x') : InStep R' m m' :=
  ⟨fun s s' hs => ⟨hR _ _ (hm.run s s' hs).1, (hm.run s s' hs).2⟩⟩

/-- After programs with the same result there is only that result to go on with. -/
theorem InStep.same {m' : StateM σ α} {f : α → StateM σ β} {f' : α → StateM σ β'} (hm : InStep Eq m m')
    (hf : ∀ x, InStep S (f x) (f' x)) : InStep S (m >>= f) (m' >>= f') :=
  hm.bind fun x _ hx => hx ▸ hf x

end Veiled

open Veiled

/-! ## The hardware -/

/-- A call on record as far as it is not secret: of what was sent only the number of bytes. -/
def Driver.Record.veiled (r : Record) : Record := { r with tx := Bytes.zeros r.tx.length }

namespace Driver.Simulated

/-- The driver with other calls on record. -/
def withRecords (s : Simulated) (records : Array Record) : Simulated := { s with records }

/-- **What a call does depends neither on the record nor on what is sent over a four-wire bus.** -/
theorem perform_withRecords (s : Simulated) (records : Array Record) {c : Call} {tx : Bytes}
    (htx : c.opcode = .fourWireTransfer ∨ tx = c.tx) :
    (s.withRecords records).perform { c with tx } = ((s.perform c).1, (s.perform c).2.withRecords records) := by
  obtain ⟨opcode, bus, target, frequency, flags, tx₀, rx⟩ := c
  cases opcode with
  | twoWireTransfer =>
    by_cases hbus : bus ∈ s.stoppedBuses
    · simp [perform, withRecords, hbus]
    · by_cases htarget : target ∈ s.devices
      · by_cases hrx : rx.isEmpty
        · simp [perform, withRecords, hbus, htarget, hrx]
        · simp [perform, withRecords, hbus, htarget, hrx]
      · simp [perform, withRecords, hbus, htarget]
  | twoWireShutdown =>
    by_cases hbus : bus ∈ s.stoppedBuses
    · simp [perform, withRecords, hbus]
    · simp [perform, withRecords, hbus]
  | fourWireTransfer =>
    by_cases hrx : rx.isEmpty
    · simp [perform, withRecords, hrx]
    · simp [perform, withRecords, hrx]
  | pinWrite =>
    obtain rfl : tx = tx₀ := htx.resolve_left (by simp)
    rfl
  | _ => rfl

/-- **An answer depends neither on the record nor on what is sent over a four-wire bus.** -/
theorem answer_withRecords (s : Simulated) (records : Array Record) {c : Call} {tx : Bytes}
    (htx : c.opcode = .fourWireTransfer ∨ tx = c.tx) :
    (s.withRecords records).answer { c with tx } = ((s.answer c).1, (s.answer c).2.withRecords records) := by
  unfold answer
  cases hcode : s.faults.getD c.opcode [] with
  | cons code rest => simp only [withRecords, hcode]
  | nil =>
    rw [← perform_withRecords s records htx]
    simp only [withRecords, hcode]

theorem call_withRecords (s : Simulated) (records : Array Record) {c : Call} {tx : Bytes}
    (htx : c.opcode = .fourWireTransfer ∨ tx = c.tx) :
    (s.withRecords records).call { c with tx } = ((s.call c).1,
      (s.call c).2.withRecords (records.push ({ c with tx }.record (s.call c).1.status))) := by
  unfold call
  rw [answer_withRecords s records htx]
  rfl

end Driver.Simulated

namespace Hardware

/-- The hardware with other calls on record. -/
def withRecords (h : Hardware) (records : Array Driver.Record) : Hardware :=
  { h with driver := h.driver.withRecords records }

/-- **Two boards that look alike**: they differ at most in the bytes of the calls on record. -/
inductive Alike : Hardware → Hardware → Prop
  | intro {h : Hardware} (records : Array Driver.Record)
      (hrecords : records.toList.map Driver.Record.veiled = h.calls.map Driver.Record.veiled) :
      Alike h (h.withRecords records)

instance : Veiled Hardware := ⟨Alike⟩

theorem alike_refl (h : Hardware) : h.Alike h := .intro _ rfl

theorem blind_tell (lines : List Log.Line) : Blind (tell lines) := by
  constructor
  rintro h _ ⟨records, hrecords⟩
  exact ⟨rfl, .intro records hrecords⟩

theorem blind_arbitrate {α : Type} (request : Arbiter → Arbiter.Outcome α) : Blind (arbitrate request) := by
  constructor
  rintro h _ ⟨records, hrecords⟩
  exact ⟨rfl, .intro records hrecords⟩

/-- **A call**, in step with one that sends other bytes over a four-wire bus. -/
theorem inStep_call {c : Driver.Call} {tx : Bytes} (htx : c.opcode = .fourWireTransfer ∨ tx = c.tx)
    (hlength : tx.length = c.tx.length) : InStep Eq (call c) (call { c with tx }) := by
  constructor
  rintro h _ ⟨records, hrecords⟩
  have hcall := h.driver.call_withRecords records htx
  refine ⟨(congrArg Prod.fst hcall).symm, ?_⟩
  -- The new record is the one of the other call but for the bytes that were sent.
  have hafter : (call { c with tx } (h.withRecords records)).2 =
      (call c h).2.withRecords (records.push ({ c with tx }.record (call c h).1.status)) :=
    congrArg (fun d => { h with driver := d.2 }) hcall
  have hrecord : ({ c with tx }.record (call c h).1.status).veiled = (c.record (call c h).1.status).veiled := by
    simp only [Driver.Call.record, Driver.Record.veiled, hlength]
  rw [hafter]
  refine .intro _ ?_
  rw [calls_call, Array.toList_push, List.map_append, List.map_append, hrecords]
  simp only [List.map_cons, hrecord]

theorem blind_call (c : Driver.Call) : Blind (call c) := inStep_call (.inr rfl) rfl

/-! ### Attempts -/

section Attempts

variable {ε ε' α β : Type}

theorem inStep_attempt {x x' : Attempt ε α} {f f' : α → Attempt ε β} (hx : InStep Eq x.run x'.run)
    (hf : ∀ a, InStep Eq (f a).run (f' a).run) : InStep Eq (x >>= f).run (x' >>= f').run := by
  rw [ExceptT.run_bind, ExceptT.run_bind]
  refine hx.same fun r => ?_
  cases r with
  | error e => exact blind_pure
  | ok a => exact hf a

theorem blind_lift {a : Action α} (ha : Blind a) : Blind (liftM a : Attempt ε α).run :=
  ha.same fun _ => blind_pure

theorem blind_adapt {x : Attempt ε α} {f : ε → ε'} (hx : Blind x.run) : Blind (x.adapt f).run :=
  hx.same fun _ => blind_pure

end Attempts

theorem inStep_issue {c : Driver.Call} {tx : Bytes} (htx : c.opcode = .fourWireTransfer ∨ tx = c.tx)
    (hlength : tx.length = c.tx.length) : InStep Eq (issue c).run (issue { c with tx }).run := by
  refine inStep_attempt (InStep.same (inStep_call htx hlength) fun _ => blind_pure) fun reply => ?_
  split
  · exact blind_pure
  · exact inStep_attempt (blind_lift (blind_tell _)) fun _ => blind_pure

theorem blind_issue (c : Driver.Call) : Blind (issue c).run := inStep_issue (.inr rfl) rfl

end Hardware

open Hardware

/-! ## Pins -/

namespace Port

theorem Claim.blind_acquireBy (pin : Pin) (request : Arbiter → Arbiter.Outcome Token) :
    Blind (Claim.acquireBy pin request).run := by
  refine inStep_attempt (blind_lift (blind_arbitrate request)) fun outcome => ?_
  cases outcome with
  | ok token => exact blind_pure
  | error e => exact blind_pure

theorem Claim.blind_release (c : Claim) : Blind c.release := by
  refine (blind_arbitrate _).same fun outcome => ?_
  cases outcome with
  | ok _ => exact blind_pure
  | error e => exact blind_tell _

theorem Claim.blind_orRelease {α : Type} (c : Claim) {finish : Attempt Bus.Error α} (hfinish : Blind finish.run) :
    Blind (c.orRelease finish).run := by
  refine inStep_attempt (blind_lift hfinish) fun outcome => ?_
  cases outcome with
  | ok a => exact blind_pure
  | error e => exact inStep_attempt (blind_lift c.blind_release) fun _ => blind_pure

theorem blind_configure {pin : Pin} {flags : Driver.PinFlags} {payload : Bytes} :
    Blind (configure pin flags payload).run :=
  inStep_attempt (blind_issue _) fun _ => blind_pure

theorem blind_drive (pin : Pin) (level : Bool) : Blind (drive pin level).run :=
  inStep_attempt (blind_issue _) fun _ => blind_pure

theorem blind_sense (pin : Pin) : Blind (sense pin).run :=
  inStep_attempt (blind_issue _) fun _ => blind_pure

theorem blind_unconfigure (pin : Pin) : Blind (unconfigure pin) := by
  refine (blind_issue _).same fun outcome => ?_
  cases outcome with
  | ok _ => exact blind_pure
  | error e => exact blind_tell _

theorem blind_close (c : Claim) : Blind (close c) :=
  (blind_unconfigure c.pin).same fun _ => c.blind_release

end Port

namespace OutputPort

theorem blind_create (pin : Pin) (initial : Bool) (kind : OutputKind) : Blind (create pin initial kind).run := by
  refine inStep_attempt (Port.Claim.blind_acquireBy pin _) fun claim => ?_
  refine inStep_attempt (claim.blind_orRelease Port.blind_configure) fun _ => ?_
  exact inStep_attempt (blind_lift (blind_tell _)) fun _ => blind_pure

theorem blind_write (p : OutputPort) (level : Bool) : Blind (p.write level) := by
  refine (Port.blind_drive p.pin level).same fun outcome => ?_
  cases outcome with
  | ok _ => exact blind_pure
  | error e => exact blind_pure

theorem blind_toggle (p : OutputPort) : Blind p.toggle := (p.blind_write _).same fun _ => blind_pure

end OutputPort

theorem InputPort.blind_create (pin : Pin) (resistor : Resistor) : Blind (InputPort.create pin resistor).run := by
  refine inStep_attempt (Port.Claim.blind_acquireBy pin _) fun claim => ?_
  exact inStep_attempt (claim.blind_orRelease Port.blind_configure) fun _ => blind_pure

namespace BidirectionalPort

theorem blind_program {pin : Pin} {options : BidirectionalOptions} {debounce glitch : Duration} {d : Direction} :
    Blind (program pin options debounce glitch d).run := by
  cases d with
  | input => exact Port.blind_configure
  | output => exact inStep_attempt Port.blind_configure fun _ => Port.blind_configure

theorem blind_create (pin : Pin) (options : BidirectionalOptions) : Blind (create pin options).run := by
  refine inStep_attempt blind_pure fun _ => ?_
  refine inStep_attempt (Port.Claim.blind_acquireBy pin _) fun claim => ?_
  exact inStep_attempt (claim.blind_orRelease blind_program) fun _ => blind_pure

theorem blind_setDirection (p : BidirectionalPort) (d : Direction) : Blind (p.setDirection d) := by
  unfold setDirection
  split
  · exact blind_pure
  · refine (blind_program).same fun outcome => ?_
    cases outcome with
    | ok _ => exact (blind_tell _).same fun _ => blind_pure
    | error e => exact blind_pure

theorem blind_read (p : BidirectionalPort) : Blind p.read := by
  refine (p.blind_setDirection .input).same fun turned => ?_
  obtain ⟨outcome, p⟩ := turned
  cases outcome with
  | ok _ => exact (Port.blind_sense p.pin).same fun _ => blind_pure
  | error e => exact blind_pure

theorem blind_write (p : BidirectionalPort) (level : Bool) : Blind (p.write level) := by
  refine (p.blind_setDirection .output).same fun turned => ?_
  obtain ⟨outcome, p⟩ := turned
  cases outcome with
  | ok _ => exact (Port.blind_drive p.pin level).same fun _ => blind_pure
  | error e => exact blind_pure

theorem blind_reprogram (p : BidirectionalPort) : Blind p.reprogram.run := by
  unfold reprogram
  split
  · exact Port.blind_configure
  · exact blind_pure

theorem blind_setFilter (p : BidirectionalPort) (filter : Port.Filter) (value : Duration) :
    Blind (p.setFilter filter value) := by
  unfold setFilter
  split
  · exact blind_pure
  · refine (blind_reprogram _).same fun outcome => ?_
    cases outcome with
    | ok _ => exact blind_pure
    | error e => exact blind_pure

end BidirectionalPort

theorem Converter.blind_readRaw (pin : Pin) : Blind (readRaw pin).run :=
  inStep_attempt (blind_issue _) fun _ => blind_pure

theorem Converter.blind_readVoltage (c : Converter) (pin : Pin) (reference : Voltage) :
    Blind (c.readVoltage pin reference).run :=
  inStep_attempt (blind_readRaw pin) fun _ => blind_pure

namespace AnalogPort

theorem blind_create (converter : Converter) (pin : Pin) (options : AnalogOptions) :
    Blind (create converter pin options).run := by
  unfold create
  split
  · exact blind_pure
  · exact inStep_attempt (Port.Claim.blind_acquireBy pin _) fun _ => blind_pure

theorem blind_sample (p : AnalogPort) : Blind p.sample.run := p.converter.blind_readVoltage p.pin p.reference

theorem blind_takeSample {p : AnalogPort} {number : Nat} {s : Sampler} {taken : List Voltage} {now wall : Nat} :
    Blind (p.takeSample number s taken now wall) := by
  refine p.blind_sample.same fun outcome => ?_
  cases outcome with
  | error e => exact (blind_tell _).same fun _ => blind_pure
  | ok v =>
    dsimp only
    split
    · exact blind_pure
    · exact blind_pure

theorem blind_enterLoop (p : AnalogPort) (number now wall : Nat) : Blind (p.enterLoop number now wall) := by
  unfold enterLoop
  split
  · split
    · exact (blind_tell _).same fun _ => blind_takeSample
    · exact blind_pure
  · exact blind_pure

theorem blind_turnLoop (p : AnalogPort) (number now wall : Nat) : Blind (p.turnLoop number now wall) := by
  unfold turnLoop
  split
  · split
    · exact (blind_tell _).same fun _ => blind_pure
    · split
      · exact blind_takeSample.same fun _ => blind_pure
      · exact blind_pure
  · exact blind_pure

theorem blind_stepReading (p : AnalogPort) (r : Reading) (now : Nat) : Blind (p.stepReading r now) := by
  unfold stepReading
  split
  · exact blind_pure
  · refine p.blind_sample.same fun outcome => ?_
    cases outcome with
    | error e => exact blind_pure
    | ok v =>
      dsimp only
      split
      · exact blind_pure
      · split
        · exact blind_pure
        · exact blind_pure

end AnalogPort

/-! ## Buses -/

namespace TwoWireBus

theorem blind_create {clock data : Pin} {requested : UInt32} {supported : List UInt32} :
    Blind (create clock data requested supported).run := by
  refine inStep_attempt blind_pure fun _ => ?_
  exact inStep_attempt (blind_lift (blind_tell _)) fun _ => blind_pure

theorem blind_setFrequency (b : TwoWireBus) (requested : UInt32) : Blind (b.setFrequency requested) :=
  (blind_tell _).same fun _ => blind_pure

theorem blind_transfer {b : TwoWireBus} {address : UInt8} {tx rx : Bytes} :
    Blind (b.transfer address tx rx).run := by
  unfold transfer
  split
  · exact blind_pure
  · exact blind_issue _

theorem blind_write (b : TwoWireBus) (address : UInt8) (tx : Bytes) : Blind (b.write address tx).run :=
  inStep_attempt blind_transfer fun _ => blind_pure

theorem blind_shutdown (b : TwoWireBus) : Blind b.shutdown.run :=
  inStep_attempt (blind_issue _) fun _ => blind_lift (blind_tell _)

theorem blind_readRegister (b : TwoWireBus) (address register : UInt8) :
    Blind (b.readRegister address register).run :=
  inStep_attempt blind_transfer fun _ => blind_pure

theorem blind_readRegisterPair (b : TwoWireBus) (address register : UInt8) :
    Blind (b.readRegisterPair address register).run :=
  inStep_attempt blind_transfer fun _ => blind_pure

end TwoWireBus

namespace FourWireBus

theorem blind_create {clock dataOut dataIn : Pin} {settings : ClockSettings} {supported : List UInt32} :
    Blind (create clock dataOut dataIn settings supported).run := by
  refine inStep_attempt blind_pure fun _ => ?_
  exact inStep_attempt (blind_lift (blind_tell _)) fun _ => blind_pure

theorem blind_configure (b : FourWireBus) (settings : ClockSettings) : Blind (b.configure settings) :=
  (blind_tell _).same fun _ => blind_pure

/-- What is sent over a four-wire bus is veiled; how many bytes it is is not. -/
theorem inStep_transfer (b : FourWireBus) {tx tx' : Bytes} (rx : Bytes) (hlength : tx'.length = tx.length) :
    InStep Eq (b.transfer tx rx).run (b.transfer tx' rx).run :=
  inStep_issue (.inl rfl) hlength

variable {α : Type}

theorem blind_run (b : FourWireBus) (program : Program α) : Blind (b.run program) := by
  induction program with
  | stop outcome => exact blind_pure
  | transfer tx rx next ih => exact (b.inStep_transfer rx rfl).same ih

/-- Programs that differ in what they send first. -/
theorem inStep_run (b : FourWireBus) {tx tx' : Bytes} (rx : Bytes) (next : Except Bus.Error Bytes → Program α)
    (hlength : tx'.length = tx.length) :
    InStep Eq (b.run (.transfer tx rx next)) (b.run (.transfer tx' rx next)) :=
  (b.inStep_transfer rx hlength).same fun outcome => b.blind_run (next outcome)

theorem blind_deselect (selection : Selection) : Blind (deselect selection) := by
  refine (selection.port.blind_write _).same fun written => ?_
  obtain ⟨outcome, port⟩ := written
  cases outcome with
  | ok _ => exact blind_pure
  | error e => exact (blind_tell _).same fun _ => blind_pure

theorem inStep_selected (b : FourWireBus) (selection : Selection) {program program' : Program α}
    (hprogram : InStep Eq (b.run program) (b.run program')) :
    InStep Eq (b.selected selection program) (b.selected selection program') := by
  refine (selection.port.blind_write _).same fun written => ?_
  obtain ⟨outcome, port⟩ := written
  cases outcome with
  | error e => exact blind_pure
  | ok _ => exact hprogram.same fun _ => (blind_deselect _).same fun _ => blind_pure

theorem blind_transaction (b : FourWireBus) (selection : Option Selection) (program : Program α) :
    Blind (b.transaction selection program) := by
  unfold transaction
  cases selection with
  | none => exact (b.blind_run program).same fun _ => blind_pure
  | some selection => exact (b.inStep_selected selection (b.blind_run program)).same fun _ => blind_pure

end FourWireBus

/-! ## Commands on a bus -/

namespace Coprocessor

namespace Command

/-- A command as far as it is not secret: of the payload only the number of bytes. -/
def veiled (c : Command) : Command := { c with payload := Bytes.zeros c.payload.length }

/-- What stands before the payload in the frame of a command. -/
def header (c : Command) : Bytes :=
  c.interface.toByte :: (Bytes.ofWord32 c.function ++ Bytes.ofWord32 (UInt32.ofNat c.payload.length))

theorem encode_eq (c : Command) : c.encode = c.header ++ c.payload := by
  simp only [encode, header, Wire.putCounted, List.cons_append, List.append_assoc]

theorem length_header (c : Command) : c.header.length = headerLength := rfl

theorem take_encode (c : Command) : c.encode.take headerLength = c.header := by
  rw [encode_eq, ← length_header c, List.take_left]

theorem header_veiled (c : Command) : c.veiled.header = c.header := by
  simp only [header, veiled, Bytes.length_zeros]

theorem length_encode_veiled (c : Command) : c.veiled.encode.length = c.encode.length := by
  rw [encode_eq, encode_eq, header_veiled, List.length_append, List.length_append, veiled, Bytes.length_zeros]

end Command

namespace Link

theorem inStep_exchange (bus : FourWireBus) (selection : Selection) {frame frame' : Bytes}
    (hlength : frame'.length = frame.length) :
    InStep Eq (exchange bus selection frame) (exchange bus selection frame') :=
  (bus.inStep_selected selection (bus.inStep_run _ _ hlength)).same fun _ => blind_pure

/-- **Commands that differ in the bytes of their payloads** are told to the log in the same words, and answered in
the same way. -/
theorem inStep_send (bus : FourWireBus) (selection : Selection) {c c' : Command} (hc : c'.veiled = c.veiled) :
    InStep Eq (send bus selection c) (send bus selection c') := by
  have hheader : c'.encode.take Command.headerLength = c.encode.take Command.headerLength := by
    rw [c'.take_encode, c.take_encode, ← c'.header_veiled, ← c.header_veiled, hc]
  have hlength : c'.encode.length = c.encode.length := by
    rw [← c'.length_encode_veiled, ← c.length_encode_veiled, hc]
  unfold send
  simp only [hheader]
  refine (blind_tell _).same fun _ => (inStep_exchange bus selection hlength).same fun answered => ?_
  obtain ⟨reply, port⟩ := answered
  cases reply with
  | ok r => exact (blind_tell _).same fun _ => blind_pure
  | error e => exact blind_pure

end Link

end Coprocessor

/-! ## What a board makes -/

namespace Device

theorem blind_findPin {d : Device} {name : String} : Blind (d.findPin name).run := blind_pure

theorem blind_twoWireBus (d : Device) (clock data : String) (requested : Option UInt32) :
    Blind (d.twoWireBus clock data requested).run :=
  inStep_attempt blind_findPin fun _ => inStep_attempt blind_findPin fun _ =>
    blind_adapt TwoWireBus.blind_create

theorem blind_fourWireBus (d : Device) (clock dataOut dataIn : String) (requested : Option ClockSettings) :
    Blind (d.fourWireBus clock dataOut dataIn requested).run :=
  inStep_attempt blind_findPin fun _ => inStep_attempt blind_findPin fun _ => inStep_attempt blind_findPin fun _ =>
    blind_adapt FourWireBus.blind_create

theorem blind_outputPort (d : Device) (name : String) (initial : Bool) (kind : OutputKind) :
    Blind (d.outputPort name initial kind).run :=
  inStep_attempt blind_findPin fun pin => blind_adapt (OutputPort.blind_create pin initial kind)

theorem blind_inputPort (d : Device) (name : String) (resistor : Resistor) :
    Blind (d.inputPort name resistor).run :=
  inStep_attempt blind_findPin fun pin => blind_adapt (InputPort.blind_create pin resistor)

theorem blind_bidirectionalPort (d : Device) (name : String) (options : BidirectionalOptions) :
    Blind (d.bidirectionalPort name options).run :=
  inStep_attempt blind_findPin fun pin => blind_adapt (BidirectionalPort.blind_create pin options)

theorem blind_analogPort (d : Device) (name : String) (options : Option AnalogOptions) :
    Blind (d.analogPort name options).run :=
  inStep_attempt blind_findPin fun pin => blind_adapt (AnalogPort.blind_create d.converter pin _)

end Device

end Peripherals
