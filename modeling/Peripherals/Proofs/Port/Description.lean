import Peripherals.Proofs.Port.Programming

/-!
# `Proofs.Port.Description` — a pin is programmed as its port describes it

A filter of an input is programmed at once, and that of an output when the port turns; a port that goes the right way
already is not programmed at all. While no call fails, the last configuration on record is nevertheless the one that the
port stands for (`BidirectionalPort.Described`), and the driver acts on it (`BidirectionalPort.Obeyed`).

* `BidirectionalPort.Kept`, `BidirectionalPort.InForce` — what every step keeps, on record and in the driver;
* `BidirectionalPort.read_write` — a line is read as it was written;
* `BidirectionalPort.described_of_made` — after any number of uses without a failing call.
-/

namespace Peripherals

open Hardware

/-- **No call about a pin will be answered with zero before it has done anything.** -/
structure Driver.Simulated.Willing (s : Driver.Simulated) : Prop where
  configure : s.Candid .pinConfigure
  write : s.Candid .pinWrite
  read : s.Candid .pinRead

theorem Driver.Simulated.Willing.imp {s s' : Driver.Simulated} (hwilling : s.Willing)
    (hcandid : ∀ o, s.Candid o → s'.Candid o) : s'.Willing :=
  ⟨hcandid _ hwilling.configure, hcandid _ hwilling.write, hcandid _ hwilling.read⟩

/-! ## Claims that are taken -/

namespace Port

variable {α : Type} {pin : Pin} {claim : Claim} {h h' : Hardware}

/-- A claim is a claim to the pin that was asked for, and the driver has nothing to do with it. -/
theorem claim_of_acquireBy {request : Arbiter → Arbiter.Outcome Token}
    (hclaim : (Claim.acquireBy pin request).run h = (.ok claim, h')) :
    claim.pin = pin ∧ h'.driver = h.driver := by
  obtain ⟨h₁, hrun, -, hdriver⟩ := run_acquireBy pin request h
  rw [hrun] at hclaim
  obtain ⟨hresult, rfl⟩ := Prod.mk.inj hclaim
  refine ⟨?_, hdriver⟩
  cases hgranted : (request h.arbiter).result with
  | ok token =>
      rw [hgranted] at hresult
      rw [← Except.ok.inj hresult]
  | error e =>
      rw [hgranted] at hresult
      contradiction

/-- What is left to finish a claim has succeeded. -/
theorem run_of_orRelease {finish : Attempt Bus.Error α} {a : α}
    (hfinish : (claim.orRelease finish).run h = (.ok a, h')) : finish.run h = (.ok a, h') := by
  rw [run_orRelease] at hfinish
  cases hrun : finish.run h with
  | mk result h₁ =>
      rw [hrun] at hfinish
      cases result with
      | ok _ =>
          obtain ⟨hresult, rfl⟩ := Prod.mk.inj hfinish
          rw [Except.ok.inj hresult]
      | error e => exact nomatch congrArg Prod.fst hfinish

end Port

namespace BidirectionalPort

variable {p q : BidirectionalPort} {direction : Direction} {o : Driver.Opcode} {h h₁ h' : Hardware} {m m' : Moment}

/-! ## What is on record -/

/-- **The last configuration on record is that of the port**: an input with its interrupts and its filters, or an output
that has been an input without either just before. -/
def Shown (p : BidirectionalPort) (calls : List Driver.Record) : Prop :=
  match p.direction with
  | .input => ∃ before, Driver.Latest (Driver.Record.Configures p.pin.key) calls before (p.filtering.record 0)
  | .output =>
    ∃ before, Driver.Latest (Driver.Record.Configures p.pin.key) calls (before ++ [p.quieting.record 0])
      (p.outputting.record 0)

theorem Programming.shown (hprogramming : p.Programming h direction (.ok ()) h') :
    Shown { p with direction } h'.calls := by
  cases hprogramming with
  | input issued =>
      rw [issued.calls]
      exact ⟨h.calls, (Driver.latest_snoc_iff (Port.configures_configuration _ _ _ _)).mpr ⟨rfl, rfl⟩⟩
  | output quieted issued =>
      rw [issued.calls, quieted.calls]
      exact ⟨h.calls, (Driver.latest_snoc_iff (Port.configures_configuration _ _ _ _)).mpr ⟨rfl, rfl⟩⟩

/-- Calls of other kinds do not matter. -/
theorem Shown.append {calls added : List Driver.Record} (hshown : p.Shown calls)
    (hadded : ∀ r ∈ added, r.opcode ≠ .pinConfigure) : p.Shown (calls ++ added) := by
  have hnone : ∀ r ∈ added, ¬ r.Configures p.pin.key := fun r hr hconfigures => hadded r hr hconfigures.1
  unfold Shown at hshown ⊢
  split at hshown
  · obtain ⟨before, hlatest⟩ := hshown
    exact ⟨before, (Driver.latest_append_iff hnone).mpr hlatest⟩
  · obtain ⟨before, hlatest⟩ := hshown
    exact ⟨before, (Driver.latest_append_iff hnone).mpr hlatest⟩

/-- What holds of a port and its hardware from the beginning: both filters are in range, and the pin is programmed. -/
structure Kept (m : Moment) : Prop where
  debounce : m.1.debounce ≤ maxFilter
  glitch : m.1.glitch ≤ maxFilter
  shown : m.1.Shown m.2.calls

/-- An input with another filter goes in. -/
theorem withFilter_of_input {filter : Port.Filter} {value : Duration} (hinput : p.direction = .input) :
    { p.withFilter filter value with direction := .input } = p.withFilter filter value := by
  rw [← (p.direction_withFilter filter value).trans hinput]

theorem Kept.withFilter {filter : Port.Filter} {value : Duration} (hkept : Kept (p, h)) (hrange : value ≤ maxFilter)
    (hshown : (p.withFilter filter value).Shown h'.calls) : Kept (p.withFilter filter value, h') := by
  cases filter with
  | debounce => exact ⟨hrange, hkept.glitch, hshown⟩
  | glitch => exact ⟨hkept.debounce, hrange, hshown⟩

/-- **One step keeps the pin programmed.** -/
theorem Move.kept (hmove : Move m m') (hkept : Kept m) : Kept m' := by
  cases hmove with
  | turned programming => exact ⟨hkept.debounce, hkept.glitch, programming.shown⟩
  | @filtered p filter value h h' range input programming =>
      exact hkept.withFilter range (withFilter_of_input input ▸ programming.shown)
  | @deferred p filter value h range output =>
      refine hkept.withFilter range ?_
      -- What is on record of an output has nothing to do with its filters.
      have hshown := hkept.shown
      have hdirection : (p.withFilter filter value).direction = .output := (p.direction_withFilter _ _).trans output
      rw [Shown, output] at hshown
      rw [Shown, hdirection]
      cases filter with
      | debounce => exact hshown
      | glitch => exact hshown
  | @called p c h h' opcode issued =>
      refine ⟨hkept.debounce, hkept.glitch, ?_⟩
      show p.Shown h'.calls
      rw [issued.calls]
      refine hkept.shown.append fun r hr => ?_
      rw [List.mem_singleton.mp hr]
      rcases opcode with hwrite | hread
      · exact fun hconfigure => nomatch hwrite.symm.trans hconfigure
      · exact fun hconfigure => nomatch hread.symm.trans hconfigure
  | told => exact ⟨hkept.debounce, hkept.glitch, hkept.shown⟩

/-- **Any number of steps.** -/
theorem kept_of_moves (hmoves : Moves m m') (hkept : Kept m) : Kept m' := by
  induction hmoves with
  | refl => exact hkept
  | tail _ hmove ih => exact hmove.kept ih

/-! ## What the driver has done -/

/-- The configuration that a port stands for. -/
def flags (p : BidirectionalPort) : Driver.PinFlags :=
  match p.direction with
  | .input => Port.inputFlags p.options.resistor p.options.interrupt
  | .output => Port.outputFlags p.options.initial p.options.kind

/-- The driver is willing, and the pin has the configuration that the port stands for. -/
structure InForce (m : Moment) : Prop where
  willing : m.2.driver.Willing
  configured : m.2.driver.configured.get? m.1.pin.key = some m.1.flags

namespace Programming

theorem candid {outcome : Except Bus.Error Unit} (hprogramming : p.Programming h direction outcome h')
    (hcandid : h.driver.Candid o) : h'.driver.Candid o := by
  cases hprogramming with
  | input issued | inputRefused _ issued | quietRefused _ issued => exact issued.candid hcandid
  | output quieted issued | outputRefused _ quieted issued => exact issued.candid (quieted.candid hcandid)

theorem inForce (hprogramming : p.Programming h direction (.ok ()) h') (hwilling : h.driver.Willing) :
    InForce ({ p with direction }, h') := by
  refine ⟨hwilling.imp fun _ => hprogramming.candid, ?_⟩
  cases hprogramming with
  | input issued => exact Port.configured_of_configuration issued hwilling.configure
  | output quieted issued => exact Port.configured_of_configuration issued (quieted.candid hwilling.configure)

end Programming

/-- **One step keeps the configuration in force.** -/
theorem Move.inForce (hmove : Move m m') (hforce : InForce m) : InForce m' := by
  cases hmove with
  | turned programming => exact programming.inForce hforce.willing
  | @filtered p filter value h h' range input programming =>
      exact withFilter_of_input input ▸ programming.inForce hforce.willing
  | @deferred p filter value h range output =>
      cases filter with
      | debounce => exact ⟨hforce.willing, hforce.configured⟩
      | glitch => exact ⟨hforce.willing, hforce.configured⟩
  | @called p c h h' opcode issued =>
      have hsame : h'.driver.configured = h.driver.configured := by
        rw [issued.driver]
        exact Driver.Simulated.configured_call opcode
      exact ⟨hforce.willing.imp fun _ => issued.candid, hsame ▸ hforce.configured⟩
  | told => exact ⟨hforce.willing, hforce.configured⟩

theorem inForce_of_moves (hmoves : Moves m m') (hforce : InForce m) : InForce m' := by
  induction hmoves with
  | refl => exact hforce
  | tail _ hmove ih => exact hmove.inForce ih

theorem Turns.candid (hturns : p.Turns direction h h') (hcandid : h.driver.Candid o) : h'.driver.Candid o := by
  rcases hturns with ⟨rfl, -⟩ | hprogramming
  · exact hcandid
  · exact hprogramming.candid hcandid

/-- No line moves when a port turns into an input. -/
theorem Turns.levels (hturns : p.Turns .input h h') : h'.driver.levels = h.driver.levels := by
  rcases hturns with ⟨rfl, -⟩ | hprogramming
  · rfl
  · cases hprogramming with
    | input issued => exact Port.levels_of_configuration issued rfl

/-- **A line is read as it was written**, if neither call fails. -/
theorem read_write (hwilling : h.driver.Willing) {level : Bool}
    (htaken : Taken h ((p.write level h).1.2.read (p.write level h).2).2) :
    ((p.write level h).1.2.read (p.write level h).2).1.1 = .ok level := by
  obtain ⟨hwritten, hread⟩ :=
    htaken.split (p.within_write level h).1.called (BidirectionalPort.within_read _ _).1.called
  obtain ⟨h₁, h₂, hturns, hdriven, hrun⟩ := write_of_taken hwritten
  rw [hrun] at hread ⊢
  obtain ⟨h₃, h₄, hturns', hsensed, hrun'⟩ := read_of_taken hread
  have hline : h₂.driver.levels.get? p.pin.key = some level :=
    Port.line_of_driving hdriven (hturns.candid hwilling.write)
  rw [← hturns'.levels] at hline
  have hcandid₃ : h₃.driver.Candid .pinRead := hturns'.candid (hdriven.candid (hturns.candid hwilling.read))
  rw [hrun']
  exact congrArg Except.ok (Port.level_of_sensing hsensed hcandid₃ hline)

/-! ## From the making of a port on -/

theorem range_of_checkFilter {filter : Port.Filter} {value : Duration} (hcheck : checkFilter filter value = .ok ()) :
    value ≤ maxFilter := by
  by_contra hrange
  rw [checkFilter, if_neg hrange] at hcheck
  contradiction

/-- A port is made with filters that are in range. -/
theorem range_of_check {pin : Pin} {options : BidirectionalOptions} (hcheck : check pin options = .ok ()) :
    options.debounce ≤ maxFilter ∧ options.glitch ≤ maxFilter := by
  -- The filters are checked last.
  have hfilters :
      (checkFilter .debounce options.debounce >>= fun _ => checkFilter .glitch options.glitch) = .ok () := by
    unfold check at hcheck
    cases hchannel : pin.digitalChannel? with
    | none =>
        rw [hchannel] at hcheck
        contradiction
    | some channel =>
        rw [hchannel] at hcheck
        dsimp only at hcheck
        split at hcheck
        · contradiction
        · exact hcheck
  cases hdebounce : checkFilter .debounce options.debounce with
  | error e =>
      rw [hdebounce] at hfilters
      contradiction
  | ok _ =>
      rw [hdebounce] at hfilters
      exact ⟨range_of_checkFilter hdebounce, range_of_checkFilter hfilters⟩

/-- **A port that is made has programmed its pin.** -/
theorem programming_of_made {pin : Pin} {options : BidirectionalOptions}
    (hmade : (create pin options).run h = (.ok p, h')) :
    (p.debounce ≤ maxFilter ∧ p.glitch ≤ maxFilter) ∧ p.Programming h p.direction (.ok ()) h' := by
  obtain ⟨_, h₁, hcheck, hmade₁⟩ := attempt_eq_ok hmade
  obtain ⟨claim, h₂, hclaim, hmade₂⟩ := attempt_eq_ok hmade₁
  obtain ⟨_, h₃, hfinish, hmade₃⟩ := attempt_eq_ok hmade₂
  obtain rfl : h₁ = h := (congrArg Prod.snd hcheck).symm
  obtain rfl : h₃ = h' := congrArg Prod.snd hmade₃
  obtain ⟨rfl, hdriver⟩ := Port.claim_of_acquireBy hclaim
  obtain rfl : BidirectionalPort.mk claim options options.direction options.debounce options.glitch .ofNotices = p :=
    Except.ok.inj (congrArg Prod.fst hmade₃)
  have hprogramming := programming_program
    ⟨claim, options, options.direction, options.debounce, options.glitch, .ofNotices⟩ options.direction h₂
  have hprogram : (program claim.pin options options.debounce options.glitch options.direction).run h₂ = (.ok (), h₃) :=
    Port.run_of_orRelease hfinish
  rw [pin, hprogram] at hprogramming
  exact ⟨range_of_check (congrArg Prod.fst hcheck), hprogramming.congr hdriver.symm rfl⟩

/-! ## What the port describes -/

/-- **The pin is programmed as the port describes it.** -/
structure Described (p : BidirectionalPort) (calls : List Driver.Record) : Prop where
  /-- No filter is longer than a second. -/
  debounce : p.debounce ≤ maxFilter
  glitch : p.glitch ≤ maxFilter
  /-- The last configuration of an input has its resistor and its interrupts, and the filters in whole milliseconds. -/
  input : p.direction = .input → ∃ before r, Driver.Latest (Driver.Record.Configures p.pin.key) calls before r ∧
    r.flags = (Port.inputFlags p.options.resistor p.options.interrupt).toByte ∧
    ∃ debounce glitch : UInt16, r.tx = Bytes.ofWord16 debounce ++ Bytes.ofWord16 glitch ∧
      debounce.toNat = p.debounce.millis ∧ glitch.toNat = p.glitch.millis
  /-- The last configuration of an output is directly preceded by one without interrupts and filters. -/
  output : p.direction = .output → ∃ before quiet r,
    Driver.Latest (Driver.Record.Configures p.pin.key) calls (before ++ [quiet]) r ∧
    r.flags = (Port.outputFlags p.options.initial p.options.kind).toByte ∧ r.tx = [] ∧
    quiet.Configures p.pin.key ∧ (Driver.PinFlags.ofByte quiet.flags).interrupts = false ∧ quiet.tx = [0, 0, 0, 0]

/-- **The driver does what the port describes.** -/
structure Obeyed (p : BidirectionalPort) (h : Hardware) : Prop where
  /-- The pin is configured, and as an output just if the port is one. -/
  configured : ∃ flags, h.driver.configured.get? p.pin.key = some flags ∧
    (flags.output = true ↔ p.direction = .output)
  /-- The line is read as it is written, if neither call fails. -/
  read_write : ∀ level, Taken h ((p.write level h).1.2.read (p.write level h).2).2 →
    ((p.write level h).1.2.read (p.write level h).2).1.1 = .ok level

/-- The milliseconds of a filter in range fit into a word. -/
theorem toNat_millis {value : Duration} (hrange : value ≤ maxFilter) :
    (UInt16.ofNat value.millis).toNat = value.millis := by
  have hnanos : value.nanos ≤ 1000 * 1000000 := hrange
  rw [UInt16.toNat_ofNat', Duration.millis]
  omega

theorem described_of_kept (hkept : Kept (p, h)) : p.Described h.calls := by
  have hshown := hkept.shown
  refine ⟨hkept.debounce, hkept.glitch, fun hinput => ?_, fun houtput => ?_⟩
  · rw [Shown, hinput] at hshown
    obtain ⟨before, hlatest⟩ := hshown
    exact ⟨before, _, hlatest, rfl, _, _, rfl, toNat_millis hkept.debounce, toNat_millis hkept.glitch⟩
  · rw [Shown, houtput] at hshown
    obtain ⟨before, hlatest⟩ := hshown
    refine ⟨before, _, _, hlatest, rfl, rfl, ⟨rfl, rfl⟩, ?_, rfl⟩
    have hflags : (p.quieting.record 0).flags = (Port.inputFlags p.options.resistor .none).toByte := rfl
    rw [hflags, Driver.PinFlags.ofByte_toByte]
    rfl

theorem obeyed_of_inForce (hforce : InForce (p, h)) : p.Obeyed h := by
  refine ⟨⟨p.flags, hforce.configured, ?_⟩, fun level htaken => BidirectionalPort.read_write hforce.willing htaken⟩
  unfold flags
  cases p.direction with
  | input => simp [Port.inputFlags]
  | output => simp [Port.outputFlags]

/-- **A pin is programmed as its port describes it**, from the making of the port on and after any number of uses, as
long as no call fails: so say the calls on record. The driver obeys if it was not told to answer any call with zero
instead of doing what the call is for. -/
theorem described_of_made {pin : Pin} {options : BidirectionalOptions} {h₀ : Hardware}
    (hmade : (create pin options).run h₀ = (.ok p, h)) (uses : List AnyPort.Use)
    (htaken : Taken h (AnyPort.handleAll (.bidirectional p) uses h).2) :
    ∃ q, (AnyPort.handleAll (.bidirectional p) uses h).1 = .bidirectional q ∧
      q.Described (AnyPort.handleAll (.bidirectional p) uses h).2.calls ∧
      (h₀.driver.Willing → q.Obeyed (AnyPort.handleAll (.bidirectional p) uses h).2) := by
  obtain ⟨⟨hdebounce, hglitch⟩, hprogramming⟩ := programming_of_made hmade
  obtain ⟨q, hq, hmoves⟩ := AnyPort.moves_handleAll htaken
  have hkept : Kept (p, h) := ⟨hdebounce, hglitch, hprogramming.shown⟩
  refine ⟨q, hq, described_of_kept (kept_of_moves hmoves hkept), fun hwilling => ?_⟩
  exact obeyed_of_inForce (inForce_of_moves hmoves (hprogramming.inForce hwilling))

/-- A pin that goes both ways and raises interrupts. -/
def bellPin : Pin := ⟨"D00", 0, [.digital true true true]⟩

/-- An input with interrupts and a filter. -/
def bellOptions : BidirectionalOptions := ⟨true, .both, .pullUp, .input, .ofMillis 20, .zero, .openDrain⟩

/-- The port. -/
def bell : BidirectionalPort :=
  ⟨⟨bellPin, ⟨"D00", .digitalInput, 0⟩⟩, bellOptions, .input, .ofMillis 20, .zero, .ofNotices⟩

/-- The hardware once the port is made. -/
def bellHardware : Hardware := ((create bellPin bellOptions).run Hardware.empty).2

/-- A filter is set while the line goes out, and waits until it goes in again. -/
def bellUses : List AnyPort.Use := [.write false, .setFilter .debounce (.ofMillis 300), .read]

/-- No call fails, and the driver was not told anything. -/
theorem described_of_made_bell :
    (create bellPin bellOptions).run Hardware.empty = (.ok bell, bellHardware) ∧
      Taken bellHardware (AnyPort.handleAll (.bidirectional bell) bellUses bellHardware).2 ∧
      ∃ q, (AnyPort.handleAll (.bidirectional bell) bellUses bellHardware).1 = .bidirectional q ∧
        q.Described (AnyPort.handleAll (.bidirectional bell) bellUses bellHardware).2.calls ∧
        q.Obeyed (AnyPort.handleAll (.bidirectional bell) bellUses bellHardware).2 := by
  have hmade : (create bellPin bellOptions).run Hardware.empty = (.ok bell, bellHardware) := rfl
  have htaken : Taken bellHardware (AnyPort.handleAll (.bidirectional bell) bellUses bellHardware).2 :=
    ⟨(AnyPort.handleAll (.bidirectional bell) bellUses bellHardware).2.calls.drop 1, by decide +kernel,
      by decide +kernel⟩
  have hcandid (o : Driver.Opcode) : Hardware.empty.driver.Candid o := fun _ hcode => absurd hcode List.not_mem_nil
  obtain ⟨q, hq, hdescribed, hobeyed⟩ := described_of_made hmade bellUses htaken
  exact ⟨hmade, htaken, q, hq, hdescribed, hobeyed ⟨hcandid _, hcandid _, hcandid _⟩⟩

end BidirectionalPort

end Peripherals
