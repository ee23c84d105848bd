import Peripherals.Proofs.Port.Making

/-!
# `Proofs.Port.Failing` — what has been called when a port cannot be made

An attempt to make a port that fails leaves no port behind, and so nothing that would later undo what was done to the
pin. That does no harm if the driver took nothing of what was called (`Driver.Refused`). But a bidirectional port that
starts out as an output configures its pin twice; if the driver takes the first configuration and refuses the second,
the pin stays configured (`Driver.Halfway`). There is no third way (`Device.calls_port`).

* `Driver.Undone` — in a record of calls, every configuration of a pin that the driver took is undone by a later call;
* `Hardware.Calls` — what an attempt calls if it succeeds, and if it fails; an attempt is taken apart by `calls_bind`;
* `PortRequest.Failed` — what the attempt to make a port has called when it fails.
-/

namespace Peripherals

open Hardware

/-! ## Configurations on record -/

namespace Driver

/-- The driver took a configuration of the pin with this key. -/
def Record.SetsUp (key : UInt16) (r : Record) : Prop := r.opcode = .pinConfigure ∧ r.target = key ∧ r.status = 0

/-- A call to undo the configuration of the pin with this key, whatever its status. -/
def Record.TakesDown (key : UInt16) (r : Record) : Prop := r.opcode = .pinUnconfigure ∧ r.target = key

/-- **Every configuration of the pin with this key is undone**: each one that the driver took is followed by a call
that undoes it. -/
def Undone (key : UInt16) (calls : List Record) : Prop :=
  ∀ before r after, calls = before ++ r :: after → r.SetsUp key → ∃ r' ∈ after, r'.TakesDown key

variable {key : UInt16} {r : Record} {calls added : List Record}

theorem undone_nil (key : UInt16) : Undone key [] := by
  intro before r after h
  exact absurd h.symm (List.append_ne_nil_of_right_ne_nil before (List.cons_ne_nil r after))

/-- **More calls** leave every configuration undone if the new ones are, and if the old ones were or one of the new
calls undoes them. -/
theorem undone_append :
    Undone key (calls ++ added) ↔ Undone key added ∧ (Undone key calls ∨ ∃ r ∈ added, r.TakesDown key) := by
  constructor
  · intro h
    constructor
    · intro before r after heq hup
      exact h (calls ++ before) r after (by rw [heq, List.append_assoc]) hup
    · by_cases hdown : ∃ r ∈ added, r.TakesDown key
      · exact .inr hdown
      · refine .inl fun before r after heq hup => ?_
        obtain ⟨r', hr', hdown'⟩ := h before r (after ++ added) (by rw [heq, List.append_assoc, List.cons_append]) hup
        rcases List.mem_append.mp hr' with hold | hnew
        · exact ⟨r', hold, hdown'⟩
        · exact absurd ⟨r', hnew, hdown'⟩ hdown
  · rintro ⟨hadded, hcalls⟩ before r after heq hup
    -- The configuration stands among the new calls or among the old ones.
    rcases List.append_eq_append_iff.mp heq with ⟨middle, -, hnew⟩ | ⟨middle, hold, hrest⟩
    · exact hadded middle r after hnew hup
    · rcases List.cons_eq_append_iff.mp hrest with ⟨-, hnew⟩ | ⟨rest, rfl, rfl⟩
      · exact hadded [] r after hnew hup
      · rcases hcalls with hcalls | ⟨r', hr', hdown⟩
        · obtain ⟨r', hr', hdown⟩ := hcalls before r rest hold hup
          exact ⟨r', List.mem_append_left _ hr', hdown⟩
        · exact ⟨r', List.mem_append_right _ hr', hdown⟩

/-- Calls that set nothing up leave nothing to undo. -/
theorem undone_of_not_setsUp (h : ∀ r ∈ added, ¬ r.SetsUp key) : Undone key added := by
  intro before r after heq hup
  exact absurd hup (h r (heq ▸ List.mem_append_right _ List.mem_cons_self))

/-- A configuration that the driver took is not undone by anything that is no such call. -/
theorem not_undone_cons (hup : r.SetsUp key) (h : ∀ r' ∈ added, ¬ r'.TakesDown key) : ¬ Undone key (r :: added) := by
  intro hundone
  obtain ⟨r', hr', hdown⟩ := hundone [] r added rfl hup
  exact h r' hr' hdown

/-- A call says nothing of whether the pin with this key is configured. -/
def Record.Passes (key : UInt16) (r : Record) : Prop := ¬ r.SetsUp key ∧ ¬ r.TakesDown key

/-- The driver took nothing of what was called, and nothing was called to undo a configuration. -/
def Refused (calls : List Record) : Prop := ∀ r ∈ calls, r.status ≠ 0 ∧ r.opcode ≠ .pinUnconfigure

/-- **Of two configurations of the pin with this key, the driver took the first and refused the second.** -/
def Halfway (key : UInt16) (calls : List Record) : Prop :=
  ∃ first second, calls = [first, second] ∧ first.SetsUp key ∧ second.opcode = .pinConfigure ∧ second.status ≠ 0

theorem passes_of_refused (h : Refused calls) : ∀ r ∈ calls, r.Passes key := by
  intro r hr
  obtain ⟨hstatus, hopcode⟩ := h r hr
  exact ⟨fun hup => hstatus hup.2.2, fun hdown => hopcode hdown.1⟩

theorem Halfway.not_takesDown (h : Halfway key calls) : ∀ r ∈ calls, ∀ key', ¬ r.TakesDown key' := by
  obtain ⟨first, second, rfl, hup, hsecond, -⟩ := h
  intro r hr key' hdown
  rcases List.mem_pair.mp hr with rfl | rfl
  · exact absurd (hup.1.symm.trans hdown.1) Opcode.noConfusion
  · exact absurd (hsecond.symm.trans hdown.1) Opcode.noConfusion

/-- To the other pins, what was called halfway is nothing. -/
theorem Halfway.passes {key' : UInt16} (h : Halfway key calls) (hkey : key ≠ key') : ∀ r ∈ calls, r.Passes key' := by
  intro r hr
  refine ⟨?_, h.not_takesDown r hr key'⟩
  obtain ⟨first, second, rfl, hup, -, hstatus⟩ := h
  rcases List.mem_pair.mp hr with rfl | rfl
  · exact fun hup' => hkey (hup.2.1.symm.trans hup'.2.1)
  · exact fun hup' => hstatus hup'.2.2

/-- What was called halfway is not undone. -/
theorem Halfway.not_undone (h : Halfway key calls) : ¬ Undone key calls := by
  have hkeeps := h.not_takesDown
  obtain ⟨first, second, rfl, hup, -, -⟩ := h
  exact not_undone_cons hup fun r hr => hkeeps r (List.mem_cons_of_mem _ hr) key

end Driver

/-! ## What an attempt calls -/

namespace Hardware

variable {α β ε : Type} {S S' F F' : List Driver.Record → Prop}

/-- **What an attempt calls**: its calls satisfy `S` if it succeeds and `F` if it fails. -/
def Calls (S F : List Driver.Record → Prop) (x : Attempt ε α) : Prop :=
  ∀ h, ∃ added, (x.run h).2.calls = h.calls ++ added ∧
    match (x.run h).1 with
    | .ok _ => S added
    | .error _ => F added

theorem Calls.mono {x : Attempt ε α} (hx : Calls S F x) (hS : ∀ l, S l → S' l) (hF : ∀ l, F l → F' l) :
    Calls S' F' x := by
  intro h
  obtain ⟨added, hcalls, hadded⟩ := hx h
  refine ⟨added, hcalls, ?_⟩
  cases hresult : (x.run h).1 with
  | ok a =>
      rw [hresult] at hadded
      exact hS added hadded
  | error e =>
      rw [hresult] at hadded
      exact hF added hadded

theorem calls_pure (a : α) : Calls (· = []) F (pure a : Attempt ε α) :=
  fun _ => ⟨[], (List.append_nil _).symm, rfl⟩

/-- **One attempt after another.** If the second one fails, the calls of the first stay called. -/
theorem calls_bind {x : Attempt ε α} {f : α → Attempt ε β} (hx : Calls S F x) (hf : ∀ a, Calls S' F' (f a)) :
    Calls (fun l => ∃ l₁ l₂, l = l₁ ++ l₂ ∧ S l₁ ∧ S' l₂) (fun l => F l ∨ ∃ l₁ l₂, l = l₁ ++ l₂ ∧ S l₁ ∧ F' l₂)
      (x >>= f) := by
  intro h
  obtain ⟨first, hfirst, hx⟩ := hx h
  cases hrun : x.run h with
  | mk result h₁ =>
      rw [hrun] at hfirst hx
      cases result with
      | error e =>
          rw [attempt_error hrun]
          exact ⟨first, hfirst, .inl hx⟩
      | ok a =>
          rw [attempt_ok hrun]
          obtain ⟨second, hsecond, ha⟩ := hf a h₁
          refine ⟨first ++ second, ?_, ?_⟩
          · rw [hsecond, hfirst, List.append_assoc]
          · cases hresult : ((f a).run h₁).1 with
            | ok b =>
                rw [hresult] at ha
                exact ⟨first, second, rfl, hx, ha⟩
            | error e =>
                rw [hresult] at ha
                exact .inr ⟨first, second, rfl, hx, ha⟩

/-- What follows calls nothing and cannot fail. -/
theorem calls_andThen {x : Attempt ε α} {f : α → Attempt ε β} (hx : Calls S F x)
    (hf : ∀ a, Calls (· = []) (fun _ => False) (f a)) : Calls S F (x >>= f) := by
  refine (calls_bind hx hf).mono ?_ ?_
  · rintro l ⟨l₁, l₂, rfl, hl₁, rfl⟩
    rw [List.append_nil]
    exact hl₁
  · rintro l (hl | ⟨-, -, -, -, hfalse⟩)
    · exact hl
    · exact hfalse.elim

/-- What comes before calls nothing. -/
theorem calls_after {x : Attempt ε α} {f : α → Attempt ε β} (hx : Calls (· = []) (· = []) x)
    (hf : ∀ a, Calls S F (f a)) (hF : F []) : Calls S F (x >>= f) := by
  refine (calls_bind hx hf).mono ?_ ?_
  · rintro l ⟨l₁, l₂, rfl, rfl, hl₂⟩
    exact hl₂
  · rintro l (rfl | ⟨l₁, l₂, rfl, rfl, hl₂⟩)
    · exact hF
    · exact hl₂

theorem calls_issue (c : Driver.Call) :
    Calls (· = [c.record 0]) (fun l => ∃ status, status ≠ 0 ∧ l = [c.record status]) (issue c) := by
  intro h
  rcases issue_cases c h with ⟨rx, h', hrun, -, hcalls⟩ | ⟨status, h', hstatus, hrun, -, hcalls⟩
  · rw [hrun]
    exact ⟨_, hcalls, rfl⟩
  · rw [hrun]
    exact ⟨_, hcalls, status, hstatus, rfl⟩

theorem calls_tell (lines : List Log.Line) : Calls (· = []) F (liftM (tell lines) : Attempt ε Unit) :=
  fun _ => ⟨[], (List.append_nil _).symm, rfl⟩

end Hardware

/-! ## What making a port calls -/

namespace Port

variable {α β : Type} {S S' F : List Driver.Record → Prop} {pin : Pin}

theorem calls_configure (pin : Pin) (flags : Driver.PinFlags) (payload : Bytes) :
    Calls (fun l => ∃ r, l = [r] ∧ r.SetsUp pin.key)
      (fun l => ∃ r, l = [r] ∧ r.opcode = .pinConfigure ∧ r.status ≠ 0) (configure pin flags payload) := by
  refine (calls_andThen (calls_issue _) fun _ => calls_pure ()).mono ?_ ?_
  · rintro l rfl
    exact ⟨_, rfl, rfl, rfl, rfl⟩
  · rintro l ⟨status, hstatus, rfl⟩
    exact ⟨_, rfl, rfl, hstatus⟩

/-- A single configuration that fails was refused. -/
theorem refused_of_configure {l : List Driver.Record}
    (h : ∃ r : Driver.Record, l = [r] ∧ r.opcode = .pinConfigure ∧ r.status ≠ 0) : Driver.Refused l := by
  obtain ⟨r, rfl, hopcode, hstatus⟩ := h
  intro r' hr'
  rw [List.mem_singleton.mp hr']
  exact ⟨hstatus, fun hdown => absurd (hopcode.symm.trans hdown) Driver.Opcode.noConfusion⟩

theorem calls_configureOutput (pin : Pin) (options : BidirectionalOptions) :
    Calls (fun _ => True) (fun l => Driver.Refused l ∨ Driver.Halfway pin.key l)
      (BidirectionalPort.configureOutput pin options) := by
  refine (calls_bind (calls_configure pin _ _) fun _ => calls_configure pin _ _).mono (fun _ _ => trivial) ?_
  rintro l (hfirst | ⟨l₁, l₂, rfl, ⟨first, rfl, hup⟩, second, rfl, hopcode, hstatus⟩)
  · exact .inl (refused_of_configure hfirst)
  · exact .inr ⟨first, second, rfl, hup, hopcode, hstatus⟩

theorem calls_acquireBy (pin : Pin) (request : Arbiter → Arbiter.Outcome Token) :
    Calls (· = []) (· = []) (Claim.acquireBy pin request) := by
  intro h
  obtain ⟨h₁, hrun, -, hdriver⟩ := run_acquireBy pin request h
  have hcalls : h₁.calls = h.calls ++ [] := by rw [List.append_nil, calls, hdriver, calls]
  rw [hrun]
  refine ⟨[], hcalls, ?_⟩
  split
  · rfl
  · rfl

/-- A pin is given back without a call to the driver. -/
theorem calls_orRelease (c : Claim) {finish : Attempt Bus.Error α} (h : Calls S F finish) :
    Calls S F (c.orRelease finish) := by
  intro h₀
  obtain ⟨added, hcalls, hadded⟩ := h h₀
  rw [run_orRelease]
  cases hresult : (finish.run h₀).1 with
  | ok a =>
      rw [hresult] at hadded
      exact ⟨added, hcalls, hadded⟩
  | error e =>
      rw [hresult] at hadded
      exact ⟨added, (arbiter_release c _).2.trans hcalls, hadded⟩

/-- A pin that is claimed, and then a port that is finished or given up: all calls are those of the finish. -/
theorem calls_claimed {request : Arbiter → Arbiter.Outcome Token} {finish : Attempt Bus.Error α}
    {k : Claim → α → Attempt Error β} (h : Calls S F finish) (hF : F [])
    (hk : ∀ c a, Calls (· = []) (fun _ => False) (k c a)) :
    Calls S F (Claim.acquireBy pin request >>= fun c => c.orRelease finish >>= k c) :=
  calls_after (calls_acquireBy pin request) (fun c => calls_andThen (calls_orRelease c h) (hk c)) hF

end Port

namespace PortRequest

/-- A bidirectional port that is to start out as an output. -/
def StartsOut (r : PortRequest) : Prop := ∃ options, r = .bidirectional options ∧ options.direction = .output

/-- **What has been called when a port cannot be made**: nothing that the driver took, unless the port is to start out
as an output. -/
def Failed (r : PortRequest) (key : UInt16) (calls : List Driver.Record) : Prop :=
  Driver.Refused calls ∨ (r.StartsOut ∧ Driver.Halfway key calls)

theorem failed_nil (r : PortRequest) (key : UInt16) : r.Failed key [] := .inl fun _ hr => absurd hr List.not_mem_nil

end PortRequest

namespace Port

variable {β : Type} {pin : Pin}

/-- A pin that is claimed, and then configured once. -/
theorem calls_configured {use : PinUse} {flags : Driver.PinFlags} {payload : Bytes}
    {k : Claim → Unit → Attempt Error β} (hk : ∀ c a, Calls (· = []) (fun _ => False) (k c a)) :
    Calls (fun _ => True) Driver.Refused
      (Claim.acquire pin use >>= fun c => c.orRelease (configure pin flags payload) >>= k c) :=
  calls_claimed ((calls_configure pin flags payload).mono (fun _ _ => trivial) fun _ => refused_of_configure)
    (fun _ hr => absurd hr List.not_mem_nil) hk

theorem calls_output (pin : Pin) (initial : Bool) (kind : OutputKind) :
    Calls (fun _ => True) Driver.Refused (OutputPort.create pin initial kind) :=
  calls_configured fun _ _ => calls_andThen (calls_tell _) fun _ => calls_pure _

theorem calls_input (pin : Pin) (resistor : Resistor) :
    Calls (fun _ => True) Driver.Refused (InputPort.create pin resistor) :=
  calls_configured fun _ _ => calls_pure _

theorem calls_check (pin : Pin) (options : BidirectionalOptions) :
    Calls (· = []) (· = []) (ExceptT.mk (pure (BidirectionalPort.check pin options)) : Attempt Error Unit) := by
  refine fun h => ⟨[], (List.append_nil _).symm, ?_⟩
  split
  · rfl
  · rfl

theorem calls_bidirectional (pin : Pin) (options : BidirectionalOptions) :
    Calls (fun _ => True) ((PortRequest.bidirectional options).Failed pin.key)
      (BidirectionalPort.create pin options) := by
  have hprogram : Calls (fun _ => True) ((PortRequest.bidirectional options).Failed pin.key)
      (BidirectionalPort.program pin options options.debounce options.glitch options.direction) := by
    cases hdirection : options.direction with
    | input => exact (calls_configure pin _ _).mono (fun _ _ => trivial) fun _ hl => .inl (refused_of_configure hl)
    | output =>
        exact (calls_configureOutput pin options).mono (fun _ _ => trivial) fun _ hl =>
          hl.imp_right fun hhalfway => ⟨⟨options, rfl, hdirection⟩, hhalfway⟩
  refine calls_after (calls_check pin options) (fun _ => ?_) (PortRequest.failed_nil _ _)
  exact calls_claimed hprogram (PortRequest.failed_nil _ _) fun _ _ => calls_pure _

theorem calls_analog (converter : Converter) (pin : Pin) (options : AnalogOptions) :
    Calls (fun _ => True) Driver.Refused (AnalogPort.create converter pin options) := by
  have hnone : ∀ l : List Driver.Record, l = [] → Driver.Refused l := by
    rintro l rfl r hr
    exact absurd hr List.not_mem_nil
  unfold AnalogPort.create
  split
  · exact fun h => ⟨[], (List.append_nil _).symm, hnone [] rfl⟩
  · exact (calls_andThen (calls_acquireBy pin _) fun _ => calls_pure _).mono (fun _ _ => trivial) hnone

end Port

namespace Device

variable {d : Device} {name : String} {pin : Pin} {α : Type} {S F : List Driver.Record → Prop}

theorem calls_named (hpin : d.pin name = .ok pin) {create : Pin → Attempt Port.Error α} (g : α → AnyPort)
    (h : Calls S F (create pin)) :
    Calls S F (do pure (g (← (do (create (← d.findPin name)).adapt Error.port))) : Attempt Error AnyPort) := by
  intro h₀
  obtain ⟨added, hcalls, hadded⟩ := h h₀
  rw [run_named hpin create g h₀]
  refine ⟨added, hcalls, ?_⟩
  cases hresult : ((create pin).run h₀).1 with
  | ok a =>
      rw [hresult] at hadded
      exact hadded
  | error e =>
      rw [hresult] at hadded
      exact hadded

/-- **What a board has called when it cannot make a port.** -/
theorem calls_port (hpin : d.pin name = .ok pin) (r : PortRequest) :
    Calls (fun _ => True) (r.Failed pin.key) (d.port name r) := by
  have hclean {x : Attempt Error AnyPort} (h : Calls (fun _ => True) Driver.Refused x) :
      Calls (fun _ => True) (r.Failed pin.key) x := h.mono (fun _ => id) fun _ => .inl
  cases r with
  | output initial kind => exact hclean (calls_named hpin .output (Port.calls_output pin initial kind))
  | input resistor => exact hclean (calls_named hpin .input (Port.calls_input pin resistor))
  | bidirectional options => exact calls_named hpin .bidirectional (Port.calls_bidirectional pin options)
  | analog options => exact hclean (calls_named hpin .analog (Port.calls_analog d.converter pin _))

end Device

end Peripherals
