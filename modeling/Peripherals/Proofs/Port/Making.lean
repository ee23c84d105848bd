import Peripherals.Device
import Peripherals.Proofs.Pin.Custody
import Peripherals.Proofs.Port.Conduct

/-!
# `Proofs.Port.Making` — how ports begin and end

A port of any sort begins with a claim on its pin; then the pin is configured, and given back if that fails. Each
constructor checks something else first and configures its pin in another way, but there are only three ways for an
attempt to come to an end (`Made`): nothing was claimed; the pin was claimed and given back; or there is a port that
holds the token. `Device.made_port` says so of a board, for requests of every sort.

What is known of a pin once it is claimed depends on the request (`PortRequest.Admits`). That is all that the checks
of the constructors establish.
-/

namespace Peripherals

open Hardware

/-! ## Claims -/

namespace Port

variable {α β ε ε' : Type} {h h₁ : Hardware} {pin : Pin} {use : PinUse}

/-- A request to the arbiter changes nothing else, and the log. -/
theorem run_arbitrate (request : Arbiter → Arbiter.Outcome α) (h : Hardware) :
    ∃ h₁, arbitrate request h = ((request h.arbiter).result, h₁) ∧ h₁.arbiter = (request h.arbiter).arbiter ∧
      h₁.driver = h.driver :=
  ⟨{ h with arbiter := (request h.arbiter).arbiter, log := h.log ++ (request h.arbiter).lines.toArray }, rfl, rfl, rfl⟩

/-- Giving a pin back is a request to the arbiter, whatever its answer. -/
theorem arbiter_release (c : Claim) (h : Hardware) :
    (c.release h).2.arbiter = (h.arbiter.release c.token).arbiter ∧ (c.release h).2.calls = h.calls := by
  obtain ⟨h₁, hrun, harbiter, hdriver⟩ := run_arbitrate (·.release c.token) h
  have hcalls : h₁.calls = h.calls := congrArg (·.records.toList) hdriver
  rw [Claim.release, run_bind, hrun, ← harbiter, ← hcalls]
  cases (h.arbiter.release c.token).result with
  | ok _ => exact ⟨rfl, rfl⟩
  | error e => exact ⟨rfl, rfl⟩

/-- A claim is the answer of the arbiter. -/
theorem run_acquireBy (pin : Pin) (request : Arbiter → Arbiter.Outcome Token) (h : Hardware) :
    ∃ h₁, (Claim.acquireBy pin request).run h =
        (((request h.arbiter).result.map (Claim.mk pin)).mapError .reservation, h₁) ∧
      h₁.arbiter = (request h.arbiter).arbiter ∧ h₁.driver = h.driver := by
  obtain ⟨h₁, hrun, harbiter, hdriver⟩ := run_arbitrate request h
  refine ⟨h₁, ?_, harbiter, hdriver⟩
  have hlift : (liftM (arbitrate request) : Attempt Error (Except ReservationError Token)).run h =
      (Except.ok (arbitrate request h).1, (arbitrate request h).2) := rfl
  rw [hrun] at hlift
  unfold Claim.acquireBy
  rw [attempt_ok hlift]
  cases (request h.arbiter).result with
  | ok token => rfl
  | error e => rfl

/-- A claim ends, or goes on, with the attempt to finish the port. -/
theorem run_orRelease (c : Claim) (finish : Attempt Bus.Error α) (h : Hardware) :
    (c.orRelease finish).run h =
      match (finish.run h).1 with
      | .ok a => (.ok a, (finish.run h).2)
      | .error e => (.error (.native e), (c.release (finish.run h).2).2) := by
  have horRelease : (c.orRelease finish).run h = (match (finish.run h).1 with
      | .ok a => pure a
      | .error e => do
        c.release
        throw (.native e) : Attempt Error α).run (finish.run h).2 := rfl
  rw [horRelease]
  cases (finish.run h).1 with
  | ok a => rfl
  | error e => rfl

/-! ## Three ways to come to an end -/

/-- **How an attempt to make a port comes to an end.** Either nothing was claimed and nothing called; or the pin was
claimed and given back; or there is a port that fits the claim. What is called satisfies `P`, and `fit` holds of every
pin that is claimed. -/
inductive Made (h : Hardware) (pin : Pin) (use : PinUse) (fit : Prop) (P : Driver.Record → Prop)
    (good : Claim → α → Prop) : Except ε α × Hardware → Prop
  | refused {e : ε} {h' : Hardware} (arbiter : h'.arbiter = h.arbiter) (calls : h'.calls = h.calls) :
    Made h pin use fit P good (.error e, h')
  | undone {e : ε} {h' : Hardware} {token : Token} (hfit : fit)
    (granted : (h.arbiter.reserve pin use).result = .ok token)
    (arbiter : h'.arbiter = ((h.arbiter.reserve pin use).arbiter.release token).arbiter) (called : Called P h h') :
    Made h pin use fit P good (.error e, h')
  | made {a : α} {h' : Hardware} {token : Token} (hfit : fit)
    (granted : (h.arbiter.reserve pin use).result = .ok token) (hgood : good ⟨pin, token⟩ a)
    (arbiter : h'.arbiter = (h.arbiter.reserve pin use).arbiter) (called : Called P h h') :
    Made h pin use fit P good (.ok a, h')

variable {fit : Prop} {P : Driver.Record → Prop} {good : Claim → α → Prop}

/-- An attempt that begins with a request to the arbiter, if the request is for the pin and nothing else. -/
theorem made_of_request {request : Arbiter → Arbiter.Outcome Token} {k : Claim → Attempt Error α}
    (hrequest : ∀ token, (request h.arbiter).result = .ok token → fit ∧ request h.arbiter = h.arbiter.reserve pin use)
    (hfailed : ∀ e, (request h.arbiter).result = .error e → (request h.arbiter).arbiter = h.arbiter)
    (hk : ∀ token h₁, fit → (h.arbiter.reserve pin use).result = .ok token →
      h₁.arbiter = (h.arbiter.reserve pin use).arbiter → h₁.calls = h.calls →
      Made h pin use fit P good ((k ⟨pin, token⟩).run h₁)) :
    Made h pin use fit P good ((Claim.acquireBy pin request >>= k).run h) := by
  obtain ⟨h₁, hrun, harbiter, hdriver⟩ := run_acquireBy pin request h
  have hcalls : h₁.calls = h.calls := congrArg (·.records.toList) hdriver
  cases hresult : (request h.arbiter).result with
  | error e =>
      rw [hresult] at hrun
      rw [attempt_error hrun]
      exact .refused (harbiter.trans (hfailed e hresult)) hcalls
  | ok token =>
      rw [hresult] at hrun
      rw [attempt_ok hrun]
      obtain ⟨hfit, heq⟩ := hrequest token hresult
      rw [heq] at harbiter hresult
      exact hk token h₁ hfit hresult harbiter hcalls

/-- A checked claim is granted only if the pin supports the use. -/
theorem made_of_acquire {k : Claim → Attempt Error α}
    (hk : ∀ token h₁, pin.supports use = true → (h.arbiter.reserve pin use).result = .ok token →
      h₁.arbiter = (h.arbiter.reserve pin use).arbiter → h₁.calls = h.calls →
      Made h pin use (pin.supports use = true) P good ((k ⟨pin, token⟩).run h₁)) :
    Made h pin use (pin.supports use = true) P good ((Claim.acquire pin use >>= k).run h) := by
  refine made_of_request (fun token hok => ?_) (fun e => Arbiter.reserveChecked_failed) hk
  have hsupports := (Arbiter.reserveChecked_ok_iff.mp ⟨token, hok⟩).2
  exact ⟨hsupports, Arbiter.reserveChecked_of_supports hsupports⟩

/-- An unchecked claim says nothing of the pin. -/
theorem made_of_acquireUnchecked {k : Claim → Attempt Error α} (hfit : fit)
    (hk : ∀ token h₁, fit → (h.arbiter.reserve pin use).result = .ok token →
      h₁.arbiter = (h.arbiter.reserve pin use).arbiter → h₁.calls = h.calls →
      Made h pin use fit P good ((k ⟨pin, token⟩).run h₁)) :
    Made h pin use fit P good ((Claim.acquireUnchecked pin use >>= k).run h) :=
  made_of_request (fun _ _ => ⟨hfit, rfl⟩) (fun _ => Arbiter.reserve_failed) hk

/-- A claimed pin is given back if the port cannot be finished. -/
theorem made_of_orRelease {finish : Attempt Bus.Error β} {k : β → Attempt Error α} {token : Token} (hfit : fit)
    (hgranted : (h.arbiter.reserve pin use).result = .ok token)
    (harbiter : h₁.arbiter = (h.arbiter.reserve pin use).arbiter) (hcalls : h₁.calls = h.calls)
    (hfinish : Within P (fun _ => True) finish.run)
    (hk : ∀ b h₂, h₂.arbiter = (h.arbiter.reserve pin use).arbiter → Called P h h₂ →
      Made h pin use fit P good ((k b).run h₂)) :
    Made h pin use fit P good ((Claim.orRelease ⟨pin, token⟩ finish >>= k).run h₁) := by
  obtain ⟨htouched, -⟩ := hfinish h₁
  have hcalled : Called P h (finish.run h₁).2 := (called_of_eq hcalls).trans htouched.called
  have hrun := run_orRelease ⟨pin, token⟩ finish h₁
  cases hresult : (finish.run h₁).1 with
  | ok b =>
      rw [hresult] at hrun
      rw [attempt_ok hrun]
      exact hk b _ (htouched.arbiter.trans harbiter) hcalled
  | error e =>
      rw [hresult] at hrun
      rw [attempt_error hrun]
      obtain ⟨hreleased, hsame⟩ := arbiter_release ⟨pin, token⟩ (finish.run h₁).2
      refine .undone hfit hgranted ?_ (hcalled.trans (called_of_eq hsame))
      rw [hreleased, htouched.arbiter, harbiter]

/-- A checked claim, and then one configuration of the pin. -/
theorem made_of_configured {flags : Driver.PinFlags} {k : Claim → Attempt Error α}
    (hk : ∀ token h₂, pin.supports use = true → (h.arbiter.reserve pin use).result = .ok token →
      h₂.arbiter = (h.arbiter.reserve pin use).arbiter → Called (Programs pin.key [flags]) h h₂ →
      Made h pin use (pin.supports use = true) (Programs pin.key [flags]) good ((k ⟨pin, token⟩).run h₂)) :
    Made h pin use (pin.supports use = true) (Programs pin.key [flags]) good
      ((do
        let claim ← Claim.acquire pin use
        claim.orRelease (configure pin flags [])
        k claim).run h) := by
  refine made_of_acquire fun token h₁ hfit hgranted harbiter hcalls => ?_
  refine made_of_orRelease hfit hgranted harbiter hcalls (within_configure [] List.mem_cons_self) fun _ h₂ => ?_
  exact hk token h₂ hfit hgranted

/-- What else an attempt does to its error or its port makes no difference. -/
theorem Made.convert {r : Except ε α × Hardware} (f : ε → ε') (g : α → β) {good' : Claim → β → Prop}
    (hgood : ∀ c a, good c a → good' c (g a)) (hmade : Made h pin use fit P good r) :
    Made h pin use fit P good' ((r.1.map g).mapError f, r.2) := by
  cases hmade with
  | refused arbiter calls => exact .refused arbiter calls
  | undone hfit granted arbiter called => exact .undone hfit granted arbiter called
  | made hfit granted ha arbiter called => exact .made hfit granted (hgood _ _ ha) arbiter called

/-! ## Ports of each sort -/

theorem made_output (h : Hardware) (pin : Pin) (initial : Bool) (kind : OutputKind) :
    Made h pin .digitalOutput (pin.supports .digitalOutput = true) (Programs pin.key [outputFlags initial kind])
      (fun c p => p.claim = c) ((OutputPort.create pin initial kind).run h) :=
  made_of_configured fun _ _ hfit hgranted harbiter hcalled => .made hfit hgranted rfl harbiter hcalled

theorem made_input (h : Hardware) (pin : Pin) (resistor : Resistor) :
    Made h pin .digitalInput (pin.supports .digitalInput = true) (Programs pin.key [inputFlags resistor .none])
      (fun c p => p.claim = c) ((InputPort.create pin resistor).run h) :=
  made_of_configured fun _ _ hfit hgranted harbiter hcalled => .made hfit hgranted rfl harbiter hcalled

theorem made_bidirectional (h : Hardware) (pin : Pin) (options : BidirectionalOptions) :
    Made h pin .digitalInput (BidirectionalPort.check pin options = .ok ())
      (Programs pin.key (BidirectionalPort.programs options)) (fun c p => p.claim = c ∧ p.options = options)
      ((BidirectionalPort.create pin options).run h) := by
  have hcheck : (ExceptT.mk (pure (BidirectionalPort.check pin options)) : Attempt Error Unit).run h
      = (BidirectionalPort.check pin options, h) := rfl
  unfold BidirectionalPort.create
  cases hresult : BidirectionalPort.check pin options with
  | error e =>
      rw [hresult] at hcheck
      rw [attempt_error hcheck]
      exact .refused rfl rfl
  | ok _ =>
      rw [hresult] at hcheck
      rw [attempt_ok hcheck]
      refine made_of_acquireUnchecked rfl fun token h₁ hfit hgranted harbiter hcalls => ?_
      refine made_of_orRelease hfit hgranted harbiter hcalls
        (BidirectionalPort.within_program pin options _ _ _) fun _ h₂ harb₂ hcalled => ?_
      exact .made hfit hgranted ⟨rfl, rfl⟩ harb₂ hcalled

theorem made_analog (h : Hardware) (converter : Converter) (pin : Pin) (options : AnalogOptions) :
    Made h pin .analogInput (pin.supports .analogInput = true) (Programs pin.key []) (fun c p => p.claim = c)
      ((AnalogPort.create converter pin options).run h) := by
  unfold AnalogPort.create
  split
  · exact .refused rfl rfl
  · refine made_of_acquire fun token h₁ hfit hgranted harbiter hcalls => ?_
    exact .made hfit hgranted rfl harbiter (called_of_eq hcalls)

end Port

/-! ## The end of a port -/

/-- The calls that end a port, the last of them answered with this status: a digital port unconfigures its pin. -/
def AnyPort.ending (p : AnyPort) (status : Int32) : List Driver.Record :=
  if p.use = .analogInput then [] else [(Port.unconfiguration p.pin).record status]

/-- **A port that ends gives its pin back**, whatever becomes of the call that unconfigures it. -/
theorem AnyPort.ends (p : AnyPort) (h : Hardware) :
    (p.close h).2.arbiter = (h.arbiter.release p.claim.token).arbiter ∧
      ∃ status, (p.close h).2.calls = h.calls ++ p.ending status := by
  have hdigital (c : Port.Claim) :
      (Port.close c h).2.arbiter = (h.arbiter.release c.token).arbiter ∧
        ∃ status, (Port.close c h).2.calls = h.calls ++ [(Port.unconfiguration c.pin).record status] := by
    obtain ⟨hsame, status, hunconfigured⟩ := Port.calls_unconfigure c.pin h
    obtain ⟨harbiter, hcalls⟩ := Port.arbiter_release c (Port.unconfigure c.pin h).2
    rw [hsame] at harbiter
    exact ⟨harbiter, status, hcalls.trans hunconfigured⟩
  cases p with
  | output p => exact hdigital p.claim
  | input p => exact hdigital p.claim
  | bidirectional p => exact hdigital p.claim
  | analog p =>
      obtain ⟨harbiter, hcalls⟩ := Port.arbiter_release p.claim h
      exact ⟨harbiter, 0, hcalls.trans (List.append_nil _).symm⟩

/-! ## Ports of a board -/

/-- What a board can be asked to make on a pin. -/
inductive PortRequest where
  | output (initial : Bool) (kind : OutputKind)
  | input (resistor : Resistor)
  | bidirectional (options : BidirectionalOptions)
  | analog (options : Option AnalogOptions)

namespace PortRequest

/-- What the pin of such a port is held as. -/
def use : PortRequest → PinUse
  | .output .. => .digitalOutput
  | .input _ | .bidirectional _ => .digitalInput
  | .analog _ => .analogInput

/-- The configurations that such a port may program, now or later. -/
def programs : PortRequest → List Driver.PinFlags
  | .output initial kind => [Port.outputFlags initial kind]
  | .input resistor => [Port.inputFlags resistor .none]
  | .bidirectional options => BidirectionalPort.programs options
  | .analog _ => []

/-- **What the checks of a constructor establish** of a pin that it claims. -/
def Admits (pin : Pin) : PortRequest → Prop
  | .bidirectional options => BidirectionalPort.check pin options = .ok ()
  | r => pin.supports r.use = true

end PortRequest

namespace Device

/-- The port that is asked for, on the named pin. -/
def port (d : Device) (name : String) : PortRequest → Attempt Error AnyPort
  | .output initial kind => do pure (.output (← d.outputPort name initial kind))
  | .input resistor => do pure (.input (← d.inputPort name resistor))
  | .bidirectional options => do pure (.bidirectional (← d.bidirectionalPort name options))
  | .analog options => do pure (.analog (← d.analogPort name options))

/-- A port fits a request. -/
structure Answers (r : PortRequest) (c : Port.Claim) (p : AnyPort) : Prop where
  claim : p.claim = c
  use : p.use = r.use
  programs : p.programs ⊆ r.programs

/-- Looking for a pin does nothing to the hardware. -/
theorem run_findPin (d : Device) (name : String) (h : Hardware) : (d.findPin name).run h = (d.pin name, h) := rfl

/-- A name that no pin has is refused before anything else. -/
theorem port_unknown {d : Device} {name : String} {e : Error} (hpin : d.pin name = .error e) (r : PortRequest)
    (h : Hardware) : (d.port name r).run h = (.error e, h) := by
  have hfind : (d.findPin name).run h = (.error e, h) := by rw [run_findPin, hpin]
  cases r with
  | output initial kind => exact attempt_error (attempt_error hfind)
  | input resistor => exact attempt_error (attempt_error hfind)
  | bidirectional options => exact attempt_error (attempt_error hfind)
  | analog options => exact attempt_error (attempt_error hfind)

variable {d : Device} {name : String} {pin : Pin} {α : Type}

/-- On a named pin, a board makes what the constructor makes of the pin. -/
theorem run_named (hpin : d.pin name = .ok pin) (create : Pin → Attempt Port.Error α) (g : α → AnyPort)
    (h : Hardware) :
    (do pure (g (← (do (create (← d.findPin name)).adapt Error.port))) : Attempt Error AnyPort).run h
      = ((((create pin).run h).1.map g).mapError .port, ((create pin).run h).2) := by
  have hfind : (d.findPin name).run h = (.ok pin, h) := by rw [run_findPin, hpin]
  have hadapt : (d.findPin name >>= fun pin => (create pin).adapt Error.port).run h
      = (((create pin).run h).1.mapError .port, ((create pin).run h).2) := attempt_ok hfind
  cases hresult : ((create pin).run h).1 with
  | ok a =>
      rw [hresult] at hadapt
      exact attempt_ok hadapt
  | error e =>
      rw [hresult] at hadapt
      exact attempt_error hadapt

/-- **How the attempt to make a port on a board comes to an end**, whatever is asked for. -/
theorem made_port (hpin : d.pin name = .ok pin) (r : PortRequest) (h : Hardware) :
    Port.Made h pin r.use (r.Admits pin) (Port.Programs pin.key r.programs) (Answers r) ((d.port name r).run h) := by
  cases r with
  | output initial kind =>
      have hrun := run_named hpin (OutputPort.create · initial kind) .output h
      refine hrun ▸ (Port.made_output h pin initial kind).convert _ _ fun _ _ hclaim => ?_
      exact ⟨hclaim, rfl, List.nil_subset _⟩
  | input resistor =>
      have hrun := run_named hpin (InputPort.create · resistor) .input h
      refine hrun ▸ (Port.made_input h pin resistor).convert _ _ fun _ _ hclaim => ?_
      exact ⟨hclaim, rfl, List.nil_subset _⟩
  | bidirectional options =>
      have hrun := run_named hpin (BidirectionalPort.create · options) .bidirectional h
      refine hrun ▸ (Port.made_bidirectional h pin options).convert _ _ fun _ _ ⟨hclaim, hoptions⟩ => ?_
      refine ⟨hclaim, rfl, ?_⟩
      rw [AnyPort.programs, hoptions]
      exact List.Subset.refl _
  | analog options =>
      have hrun := run_named hpin
        (AnalogPort.create d.converter · (options.getD (Config.analogOptions d.config.analog))) .analog h
      refine hrun ▸ (Port.made_analog h d.converter pin _).convert _ _ fun _ _ hclaim => ?_
      exact ⟨hclaim, rfl, List.nil_subset _⟩

end Device

end Peripherals
