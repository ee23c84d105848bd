import Peripherals.Proofs.Pin.Capability
import Peripherals.Proofs.Port.Tenancy

/-!
# `Proofs.Port.Capability` — ports stay within what their pins can do

A pin is held as something, and it is configured by driver calls. A history stays within what the pins can do
(`Panel.Capable`) if every pin that is held supports what it is held as, every pin that is configured as an output can
be one, and every pin that is configured to raise interrupts can raise them. Since two pins of a board may have one
key, calls are looked at together with the pin that they were made for (`Panel.trace`).

What a live port holds and programs goes back to a request whose constructor accepted the pin
(`AnyPort.Lawful`, `Panel.Lawful`). So everything rests on what the constructors check. They see to interrupts on
every board. But a bidirectional port asks for no more than a digital channel, of whatever kind, so the rest depends
on the board (`Device.Fit`, `Panel.capable_iff`).
-/

namespace Peripherals

open Hardware

/-! ## What a constructor's checks are worth -/

namespace PortRequest

variable {r : PortRequest} {pin : Pin} {flags : Driver.PinFlags}

/-- The checks of a bidirectional port: there is a first digital channel, and it can do everything if interrupts are
asked for. -/
theorem digitalChannel_of_check {options : BidirectionalOptions}
    (h : BidirectionalPort.check pin options = .ok ()) :
    ∃ channel, pin.digitalChannel? = some channel ∧
      (options.interrupt ≠ .none → channel.capabilities.contains
        ((Capabilities.interrupt.union .digitalInput).union .digitalOutput) = true) := by
  unfold BidirectionalPort.check at h
  cases hchannel : pin.digitalChannel? with
  | none =>
      rw [hchannel] at h
      contradiction
  | some channel =>
      refine ⟨channel, rfl, fun hinterrupt => ?_⟩
      by_contra hlacks
      rw [hchannel] at h
      simp only [hinterrupt, hlacks, ne_eq, not_false_eq_true, true_and, Bool.not_eq_eq_eq_not, Bool.not_true,
        if_true] at h
      contradiction

/-- An input that raises interrupts was asked to. -/
theorem interrupt_of_inputFlags {resistor : Resistor} {interrupt : Interrupt}
    (h : (Port.inputFlags resistor interrupt).interrupts = true) : interrupt ≠ .none := by
  rintro rfl
  contradiction

/-- **A pin that is configured to raise interrupts can raise them.** -/
theorem interrupt_of_admits (hadmits : r.Admits pin) (hflags : flags ∈ r.programs) (h : flags.interrupts = true) :
    pin.capabilities.contains .interrupt = true := by
  cases r with
  | output initial kind =>
      obtain rfl := List.mem_singleton.mp hflags
      contradiction
  | input resistor =>
      obtain rfl := List.mem_singleton.mp hflags
      contradiction
  | bidirectional options =>
      obtain ⟨channel, hchannel, hneeded⟩ := digitalChannel_of_check hadmits
      have hasked : options.interrupt ≠ .none := by
        simp only [programs, BidirectionalPort.programs, List.mem_cons, List.not_mem_nil, or_false] at hflags
        rcases hflags with rfl | rfl | rfl
        · exact interrupt_of_inputFlags h
        · contradiction
        · contradiction
      have hone : ((Capabilities.interrupt.union .digitalInput).union .digitalOutput).contains .interrupt = true := rfl
      exact Capabilities.contains_trans (Pin.contains_of_digitalChannel hchannel)
        (Capabilities.contains_trans (hneeded hasked) hone)
  | analog options => contradiction

end PortRequest

/-- **A board on which a digital channel goes both ways**: the pin of every name that has one supports both digital
uses. -/
def Device.Fit (d : Device) : Prop :=
  ∀ name pin, d.pin name = .ok pin → pin.digitalChannel?.isSome = true →
    pin.supports .digitalInput = true ∧ pin.supports .digitalOutput = true

namespace PortRequest

variable {d : Device} {r : PortRequest} {name : String} {pin : Pin} {flags : Driver.PinFlags}

theorem both_of_check (hfit : d.Fit) (hpin : d.pin name = .ok pin) {options : BidirectionalOptions}
    (h : BidirectionalPort.check pin options = .ok ()) :
    pin.supports .digitalInput = true ∧ pin.supports .digitalOutput = true := by
  obtain ⟨channel, hchannel, -⟩ := digitalChannel_of_check h
  exact hfit name pin hpin (by rw [hchannel, Option.isSome_some])

/-- On a fit board, a pin is accepted only for a use that it supports. -/
theorem supports_of_admits (hfit : d.Fit) (hpin : d.pin name = .ok pin) (hadmits : r.Admits pin) :
    pin.supports r.use = true := by
  cases r with
  | output initial kind => exact hadmits
  | input resistor => exact hadmits
  | bidirectional options => exact (both_of_check hfit hpin hadmits).1
  | analog options => exact hadmits

/-- On a fit board, a pin that is configured as an output can be one. -/
theorem output_of_admits (hfit : d.Fit) (hpin : d.pin name = .ok pin) (hadmits : r.Admits pin)
    (hflags : flags ∈ r.programs) (h : flags.output = true) :
    pin.capabilities.contains .digitalOutput = true := by
  cases r with
  | output initial kind => exact Pin.supports_digitalOutput.mp hadmits
  | input resistor =>
      obtain rfl := List.mem_singleton.mp hflags
      contradiction
  | bidirectional options => exact Pin.supports_digitalOutput.mp (both_of_check hfit hpin hadmits).2
  | analog options => contradiction

end PortRequest

/-! ## The trace of a history -/

/-- A port goes back to a request whose constructor accepted its pin. -/
def AnyPort.Lawful (q : AnyPort) : Prop :=
  ∃ r : PortRequest, r.Admits q.pin ∧ q.use = r.use ∧ q.programs ⊆ r.programs

/-- A call that configures a pin goes back to a request whose constructor accepted the pin. -/
def Port.Warranted (pin : Pin) (c : Driver.Record) : Prop :=
  c.opcode = .pinConfigure → c.target = pin.key ∧
    ∃ r : PortRequest, r.Admits pin ∧ Driver.PinFlags.ofByte c.flags ∈ r.programs

theorem Port.warranted_of_programs {r : PortRequest} {pin : Pin} {programs : List Driver.PinFlags}
    {c : Driver.Record} (hadmits : r.Admits pin) (hprograms : programs ⊆ r.programs)
    (h : Programs pin.key programs c) : Warranted pin c := fun hconfigure =>
  ⟨(h.1 hconfigure).1, r, hadmits, hprograms (h.1 hconfigure).2⟩

/-- The end of a port configures nothing. -/
theorem Port.warranted_of_ending {q : AnyPort} {status : Int32} {pin : Pin} {c : Driver.Record}
    (h : c ∈ q.ending status) : Warranted pin c := by
  unfold AnyPort.ending at h
  split at h
  · contradiction
  · rw [List.mem_singleton.mp h]
    exact fun hconfigure => absurd hconfigure Driver.Opcode.noConfusion

theorem AnyPort.Lawful.same {q q' : AnyPort} (h : q.Lawful) (hsame : q.Same q') : q'.Lawful := by
  obtain ⟨r, hadmits, huse, hprograms⟩ := h
  refine ⟨r, ?_, ?_, ?_⟩
  · rw [AnyPort.pin, hsame.claim]
    exact hadmits
  · rw [hsame.use, huse]
  · rw [hsame.programs]
    exact hprograms

namespace Panel

variable {d : Device} {p : Panel} {name : String} {pin : Pin}

/-- The pin that a step is about. -/
def subject (d : Device) (p : Panel) : Step → Option Pin
  | .make name _ => (d.pin name).toOption
  | .use place _ | .drop place => p.ports[place]?.map (·.pin)
  | .arrange _ => none

/-- The calls that a step puts on record. -/
def added (d : Device) (p : Panel) (s : Step) : List Driver.Record :=
  (p.act d s).hardware.calls.drop p.hardware.calls.length

/-- **The calls of a history, each with the pin that it was made for.** -/
def trace (d : Device) : Panel → List Step → List (Pin × Driver.Record)
  | _, [] => []
  | p, s :: rest => (subject d p s).toList.flatMap (fun pin => (added d p s).map (pin, ·)) ++ trace d (p.act d s) rest

/-- Every port that is alive goes back to a request whose constructor accepted its pin. -/
def Lawful (p : Panel) : Prop := ∀ q ∈ p.ports, q.Lawful

/-- **One step** calls the driver only for the pin that it is about, as a constructor has allowed, and the ports that
are alive after it are as the constructors have allowed. -/
theorem lawful_act (h : p.Lawful) (s : Step) :
    (p.act d s).Lawful ∧ ((p.act d s).hardware.calls = p.hardware.calls ∨
      ∃ pin, subject d p s = some pin ∧ Called (Port.Warranted pin) p.hardware (p.act d s).hardware) := by
  have houtcome := outcome_act d p s
  generalize p.act d s = p' at houtcome ⊢
  cases houtcome with
  | idle _ hcalls => exact ⟨h, .inl hcalls⟩
  | @undone name r pin _ _ hknown hadmits _ _ hcalled =>
      have hsubject : subject d p (.make name r) = some pin := by rw [subject, hknown, Except.toOption]
      exact ⟨h, .inr ⟨pin, hsubject, hcalled.mono fun _ => Port.warranted_of_programs hadmits (List.Subset.refl _)⟩⟩
  | @made name r pin _ q _ hknown hadmits _ hanswers _ hcalled =>
      have hsubject : subject d p (.make name r) = some pin := by rw [subject, hknown, Except.toOption]
      have hpin : q.pin = pin := congrArg Port.Claim.pin hanswers.claim
      have hlawful : q.Lawful := ⟨r, hpin ▸ hadmits, hanswers.use, hanswers.programs⟩
      refine ⟨List.forall_mem_cons.mpr ⟨hlawful, h⟩, .inr ⟨pin, hsubject, hcalled.mono fun _ => ?_⟩⟩
      exact Port.warranted_of_programs hadmits (List.Subset.refl _)
  | @used place u q _ _ halive hsame htouched =>
      have hlawful := h q (List.mem_of_getElem? halive)
      obtain ⟨r, hadmits, -, hprograms⟩ := id hlawful
      have hsubject : subject d p (.use place u) = some q.pin := by rw [subject, halive, Option.map_some]
      refine ⟨fun q' hq' => ?_, .inr ⟨q.pin, hsubject, ?_⟩⟩
      · rcases List.mem_or_eq_of_mem_set hq' with hold | rfl
        · exact h q' hold
        · exact hlawful.same hsame
      · exact htouched.called.mono fun _ => Port.warranted_of_programs hadmits hprograms
  | @dropped place q _ _ halive _ hcalls =>
      have hsubject : subject d p (.drop place) = some q.pin := by rw [subject, halive, Option.map_some]
      refine ⟨fun q' hq' => h q' (List.mem_of_mem_eraseIdx hq'), .inr ⟨q.pin, hsubject, ?_⟩⟩
      exact ⟨_, hcalls, fun _ => Port.warranted_of_ending⟩

/-- The calls of a step are those that it puts on record. -/
theorem calls_act (h : p.Lawful) (s : Step) :
    (p.act d s).hardware.calls = p.hardware.calls ++ ((subject d p s).toList.flatMap fun _ => added d p s) ∧
      ∀ pin ∈ subject d p s, ∀ c ∈ added d p s, Port.Warranted pin c := by
  obtain ⟨-, hcalls | ⟨pin, hsome, records, hcalls, hwarranted⟩⟩ := lawful_act (d := d) h s
  · have hadded : added d p s = [] := by rw [added, hcalls, List.drop_length]
    rw [hadded, hcalls]
    exact ⟨by simp, fun _ _ => nofun⟩
  · have hadded : added d p s = records := by rw [added, hcalls, List.drop_left]
    rw [hsome, hadded]
    refine ⟨hcalls.trans (by simp), fun pin' hpin' => ?_⟩
    obtain rfl := Option.some.inj hpin'
    exact hwarranted

/-- **A history** keeps its ports lawful, its trace leaves out no call, and whatever it configures is warranted. -/
theorem lawful_run (h : p.Lawful) (steps : List Step) :
    (p.run d steps).Lawful ∧
      (p.run d steps).hardware.calls = p.hardware.calls ++ (trace d p steps).map Prod.snd ∧
      ∀ e ∈ trace d p steps, Port.Warranted e.1 e.2 := by
  induction steps generalizing p with
  | nil => exact ⟨h, (List.append_nil _).symm, nofun⟩
  | cons s rest ih =>
      obtain ⟨hlawful, hcalls, hwarranted⟩ := ih (lawful_act (d := d) h s).1
      obtain ⟨hadded, hstep⟩ := calls_act (d := d) h s
      refine ⟨hlawful, ?_, fun e he => ?_⟩
      · refine hcalls.trans ?_
        rw [hadded, trace, List.map_append, List.append_assoc, List.map_flatMap]
        simp only [List.map_map, Function.comp_def, List.map_id']
      · rcases List.mem_append.mp he with hnow | hlater
        · obtain ⟨pin, hpin, hmem⟩ := List.mem_flatMap.mp hnow
          obtain ⟨c, hc, rfl⟩ := List.mem_map.mp hmem
          exact hstep pin (Option.mem_toList.mp hpin) c hc
        · exact hwarranted e hlater

/-- Every step is about a pin of the board. -/
theorem known_subject (h : Sound d p) {s : Step} (hs : subject d p s = some pin) : d.pin pin.name = .ok pin := by
  have hport {place : Nat} (hplace : p.ports[place]?.map (·.pin) = some pin) : d.pin pin.name = .ok pin := by
    obtain ⟨q, hq, rfl⟩ := Option.map_eq_some_iff.mp hplace
    exact (h.kept q (List.mem_of_getElem? hq)).known
  cases s with
  | make name r =>
      cases hpin : d.pin name with
      | error e =>
          rw [subject, hpin] at hs
          contradiction
      | ok pin' =>
          rw [subject, hpin] at hs
          obtain rfl := Option.some.inj hs
          rw [name_of_pin hpin, hpin]
  | use place u => exact hport hs
  | drop place => exact hport hs
  | arrange driver => contradiction

theorem known_trace (h : Sound d p) (steps : List Step) : ∀ e ∈ trace d p steps, d.pin e.1.name = .ok e.1 := by
  induction steps generalizing p with
  | nil => exact nofun
  | cons s rest ih =>
      intro e he
      rcases List.mem_append.mp he with hnow | hlater
      · obtain ⟨pin, hpin, hmem⟩ := List.mem_flatMap.mp hnow
        obtain ⟨c, -, rfl⟩ := List.mem_map.mp hmem
        exact known_subject h (Option.mem_toList.mp hpin)
      · exact ih (sound_act h s) e hlater

/-! ## What pins can do -/

/-- A call configures a pin in a way that shows in its flags. -/
def Configures (flag : Driver.PinFlags → Bool) (c : Driver.Record) : Prop :=
  c.opcode = .pinConfigure ∧ flag (Driver.PinFlags.ofByte c.flags) = true

/-- **A history stays within what the pins of the board can do.** -/
structure Capable (d : Device) (driver : Driver.Simulated) (steps : List Step) : Prop where
  /-- A pin that is held supports what it is held as. -/
  held : ∀ name use, ((start driver).run d steps).reservation? name = some use →
    ∃ pin, d.pin name = .ok pin ∧ pin.supports use = true
  /-- A pin that is configured as an output can be one. -/
  driven : ∀ e ∈ trace d (start driver) steps, Configures Driver.PinFlags.output e.2 →
    e.1.capabilities.contains .digitalOutput = true
  /-- A pin that is configured to raise interrupts can raise them. -/
  alerting : ∀ e ∈ trace d (start driver) steps, Configures Driver.PinFlags.interrupts e.2 →
    e.1.capabilities.contains .interrupt = true

theorem lawful_start (driver : Driver.Simulated) : (start driver).Lawful := fun _ hq => absurd hq List.not_mem_nil

theorem alerting_run (d : Device) (driver : Driver.Simulated) (steps : List Step) :
    ∀ e ∈ trace d (start driver) steps, Configures Driver.PinFlags.interrupts e.2 →
      e.1.capabilities.contains .interrupt = true := by
  obtain ⟨-, -, hwarranted⟩ := lawful_run (d := d) (lawful_start driver) steps
  rintro e he ⟨hconfigure, hflag⟩
  obtain ⟨-, r, hadmits, hflags⟩ := hwarranted e he hconfigure
  exact PortRequest.interrupt_of_admits hadmits hflags hflag

/-- On a fit board, every history stays within what the pins can do. -/
theorem capable_of_fit (hfit : d.Fit) (driver : Driver.Simulated) (steps : List Step) : Capable d driver steps := by
  have hsound := sound_run (sound_start d driver) steps
  obtain ⟨hlawful, -, hwarranted⟩ := lawful_run (d := d) (lawful_start driver) steps
  refine ⟨fun name use hheld => ?_, fun e he hconfigures => ?_, alerting_run d driver steps⟩
  · obtain ⟨q, hq, rfl, rfl⟩ := (hsound.reservation_iff name use).mp hheld
    obtain ⟨r, hadmits, huse, -⟩ := hlawful q hq
    have hknown := (hsound.kept q hq).known
    exact ⟨q.pin, hknown, huse ▸ PortRequest.supports_of_admits hfit hknown hadmits⟩
  · obtain ⟨hconfigure, hflag⟩ := hconfigures
    obtain ⟨-, r, hadmits, hflags⟩ := hwarranted e he hconfigure
    exact PortRequest.output_of_admits hfit (known_trace (sound_start d driver) steps e he) hadmits hflags hflag

end Panel

/-! ## A board that is not fit -/

/-- The call that configures a pin. -/
def Port.configuration (pin : Pin) (flags : Driver.PinFlags) (payload : Bytes) : Driver.Call :=
  { opcode := .pinConfigure, target := pin.key, flags := flags.toByte, tx := payload }

/-- A pin is configured unless the driver was told to fail. -/
theorem Port.run_configure (pin : Pin) (flags : Driver.PinFlags) (payload : Bytes) {h : Hardware}
    (hfaults : h.driver.faults.getD .pinConfigure [] = []) :
    (configure pin flags payload).run h = (.ok (), answered (configuration pin flags payload) h) :=
  attempt_ok (run_issue hfaults rfl)

namespace BidirectionalPort

/-- The options of a port that starts out as an output. -/
def driving : BidirectionalOptions := ⟨false, .none, .disabled, .output, .zero, .zero, .pushPull⟩

/-- A port without interrupts needs some digital channel and nothing else. -/
theorem check_driving {pin : Pin} (hdigital : pin.digitalChannel?.isSome = true) : check pin driving = .ok () := by
  obtain ⟨channel, hchannel⟩ := Option.isSome_iff_exists.mp hdigital
  unfold check
  rw [hchannel]
  rfl

/-- A pin becomes an input without interrupts and filters, then the output. -/
theorem run_configureOutput (pin : Pin) (options : BidirectionalOptions) {h : Hardware}
    (hfaults : h.driver.faults.getD .pinConfigure [] = []) :
    ∃ h', (configureOutput pin options).run h = (.ok (), h') ∧ h'.arbiter = h.arbiter ∧
      h'.calls = h.calls ++
        [(Port.configuration pin (Port.inputFlags options.resistor .none) (filterPayload .zero .zero)).record 0,
          (Port.configuration pin (Port.outputFlags options.initial options.kind) []).record 0] := by
  have hquiet := Port.run_configure pin (Port.inputFlags options.resistor .none) (filterPayload .zero .zero) hfaults
  refine ⟨_, (attempt_ok hquiet).trans (Port.run_configure pin _ _ ?_), rfl, ?_⟩
  · rw [faults_answered]
    exact hfaults
  · rw [calls_answered, calls_answered, List.append_assoc]
    rfl

/-- **Every digital channel will do for a bidirectional port**, which holds its pin as an input and drives it. -/
theorem run_create_driving {pin : Pin} (hdigital : pin.digitalChannel?.isSome = true) {h : Hardware}
    (hfree : h.arbiter.current? pin.name = none) (hfaults : h.driver.faults.getD .pinConfigure [] = []) :
    ∃ port h', (create pin driving).run h = (.ok port, h') ∧
      h'.arbiter = (h.arbiter.reserve pin .digitalInput).arbiter ∧
      ∃ quiet, h'.calls = h.calls ++
        [quiet, (Port.configuration pin (Port.outputFlags false .pushPull) []).record 0] := by
  obtain ⟨h₁, hclaim, harbiter, hdriver⟩ := Port.run_acquireBy pin (·.reserve pin .digitalInput) h
  rw [(Arbiter.reserve_of_free _ hfree).1] at hclaim
  have hcheck : (ExceptT.mk (pure (check pin driving)) : Attempt Port.Error Unit).run h = (.ok (), h) := by
    rw [check_driving hdigital]
    rfl
  have hfaults₁ : h₁.driver.faults.getD .pinConfigure [] = [] := hdriver ▸ hfaults
  obtain ⟨h₂, hprogram, harbiter₂, hcalls₂⟩ := run_configureOutput pin driving hfaults₁
  have hfinish := Port.run_orRelease ⟨pin, pin.name, .digitalInput, h.arbiter.nextId⟩ (configureOutput pin driving) h₁
  rw [hprogram] at hfinish
  refine ⟨⟨⟨pin, pin.name, .digitalInput, h.arbiter.nextId⟩, driving, .output, .zero, .zero, .ofNotices⟩, h₂, ?_,
    harbiter₂.trans harbiter, _, hcalls₂.trans (congrArg (·.records.toList ++ _) hdriver)⟩
  unfold create
  rw [attempt_ok hcheck]
  exact (attempt_ok hclaim).trans (attempt_ok hfinish)

end BidirectionalPort

namespace Panel

variable {d : Device} {name : String} {pin : Pin}

/-- A bidirectional port can be had on every pin with a digital channel. -/
theorem make_driving (hpin : d.pin name = .ok pin) (hdigital : pin.digitalChannel?.isSome = true) :
    ((start .empty).run d [.make name (.bidirectional BidirectionalPort.driving)]).reservation? name =
        some .digitalInput ∧
      ∃ e ∈ trace d (start .empty) [.make name (.bidirectional BidirectionalPort.driving)],
        e.1 = pin ∧ Configures Driver.PinFlags.output e.2 := by
  have hfree : (start .empty).hardware.arbiter.current? pin.name = none := rfl
  obtain ⟨port, h, hcreate, harbiter, quiet, hcalls⟩ := BidirectionalPort.run_create_driving hdigital hfree rfl
  have hmade : (d.port name (.bidirectional BidirectionalPort.driving)).run (start .empty).hardware =
      (.ok (.bidirectional port), h) := by
    have hnamed := Device.run_named hpin (BidirectionalPort.create · BidirectionalPort.driving) .bidirectional
      (start .empty).hardware
    rw [hcreate] at hnamed
    exact hnamed
  have hact : (start .empty).act d (.make name (.bidirectional BidirectionalPort.driving)) =
      ⟨h, [.bidirectional port]⟩ := by
    rw [act, hmade]
    rfl
  constructor
  · have hgranted := (Arbiter.reserve_of_free .digitalInput hfree).1
    have hheld := Arbiter.reservation?_reserve hgranted name
    rw [if_pos (name_of_pin hpin).symm, ← harbiter] at hheld
    rw [run, List.foldl_cons, List.foldl_nil, hact]
    exact hheld
  · have hsubject : subject d (start .empty) (.make name (.bidirectional BidirectionalPort.driving)) = some pin := by
      rw [subject, hpin]
      rfl
    refine ⟨(pin, (Port.configuration pin (Port.outputFlags false .pushPull) []).record 0), ?_, rfl, rfl,
      congrArg Driver.PinFlags.output (Driver.PinFlags.ofByte_toByte _)⟩
    rw [trace, hsubject, added, hact, hcalls, List.drop_left]
    simp

/-- **Capability safety.** On every board, a pin that is configured to raise interrupts can raise them. Every history
of the board stays within what its pins can do exactly if the board is fit. -/
theorem capable_iff (d : Device) :
    (∀ driver steps, ∀ e ∈ trace d (start driver) steps, Configures Driver.PinFlags.interrupts e.2 →
      e.1.capabilities.contains .interrupt = true) ∧
    ((∀ driver steps, Capable d driver steps) ↔ d.Fit) := by
  refine ⟨alerting_run d, fun h name pin hpin hdigital => ?_, fun hfit => capable_of_fit hfit⟩
  obtain ⟨hheld, e, he, rfl, hdriven⟩ := make_driving hpin hdigital
  have hcapable := h .empty [.make name (.bidirectional BidirectionalPort.driving)]
  obtain ⟨pin', hpin', hsupports⟩ := hcapable.held name .digitalInput hheld
  obtain rfl : pin' = e.1 := Except.ok.inj (hpin'.symm.trans hpin)
  exact ⟨hsupports, Pin.supports_digitalOutput.mpr (hcapable.driven e he hdriven)⟩

/-- A board with one pin, which can be driven and not read. -/
def oneWay : Device := ⟨[⟨"D05", 5, [.digital false true false]⟩], default, .new 4095⟩

/-- A bidirectional port on that pin, as an input. -/
def onOutput : Step := .make "D05" (.bidirectional { BidirectionalPort.driving with direction := .input })

/-- The pin is held as an input, which it does not support. -/
theorem not_capable_oneWay : ¬ Capable oneWay .empty [onOutput] := by
  intro h
  have hheld : ((start .empty).run oneWay [onOutput]).reservation? "D05" = some .digitalInput := by rfl
  obtain ⟨pin, hpin, hsupports⟩ := h.held _ _ hheld
  obtain rfl := Except.ok.inj hpin
  exact absurd hsupports (by decide)

end Panel

end Peripherals
