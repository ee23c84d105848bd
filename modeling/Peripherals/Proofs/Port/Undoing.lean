import Mathlib.Data.List.Induction
import Peripherals.Proofs.Port.Capability
import Peripherals.Proofs.Port.Failing

/-!
# `Proofs.Port.Undoing` — configurations that nobody undoes

A digital port configures its pin when it is made and unconfigures it when it is dropped. So a pin on which no port
is alive should not be configured: in the record of calls, every configuration of the pin that the driver took is
followed by a call that undoes it (`Driver.Undone`).

The end of a port undoes whatever the port has configured. What an attempt has configured that made no port is undone
by nobody, unless another port is made and dropped on the pin later. `Panel.left_configured_iff` says that this is the
only way for a pin to stay configured; `halfway` is such a history.

* `Panel.Touch`, `Panel.touch_act` — all that a step can do to the configuration of one pin;
* `Panel.Abandons`, `Panel.Abandoned` — the attempt that leaves its pin configured, and a history with such an attempt.
-/

namespace Peripherals

open Hardware

/-! ## What a step does to the configuration of a pin -/

namespace Panel

variable {d : Device} {p : Panel} {pin : Pin} {s : Step}

/-- **No digital port is alive on the pin.** -/
def Vacant (p : Panel) (pin : Pin) : Prop := ∀ q ∈ p.ports, q.pin = pin → q.use = .analogInput

/-- No port is alive on another pin with the key of this one. -/
def Single (p : Panel) (pin : Pin) : Prop := ∀ q ∈ p.ports, q.pin.key = pin.key → q.pin = pin

/-- A step makes no port on another pin with the key of this one. -/
def Step.Spares (d : Device) (pin : Pin) (s : Step) : Prop :=
  ∀ name r pin', s = .make name r → d.pin name = .ok pin' → pin'.key = pin.key → pin' = pin

/-- **A step leaves the pin configured**: it asks for a bidirectional port on it that starts out as an output, and of
the two configurations that this takes, the driver takes the first and refuses the second. -/
def Abandons (d : Device) (p : Panel) (pin : Pin) (s : Step) : Prop :=
  ∃ name r, s = .make name r ∧ d.pin name = .ok pin ∧ r.StartsOut ∧ Driver.Halfway pin.key (added d p s)

theorem added_eq {l : List Driver.Record} (h : (p.act d s).hardware.calls = p.hardware.calls ++ l) :
    added d p s = l := by
  rw [added, h, List.drop_left]

/-- Every step adds to the record. -/
theorem calls_added (d : Device) (p : Panel) (s : Step) :
    (p.act d s).hardware.calls = p.hardware.calls ++ added d p s := by
  have hadds : ∃ l, (p.act d s).hardware.calls = p.hardware.calls ++ l := by
    have houtcome := outcome_act d p s
    generalize p.act d s = p' at houtcome
    cases houtcome with
    | idle _ hcalls => exact ⟨[], hcalls.trans (List.append_nil _).symm⟩
    | undone _ _ _ _ hcalled => exact ⟨_, hcalled.choose_spec.1⟩
    | made _ _ _ _ _ hcalled => exact ⟨_, hcalled.choose_spec.1⟩
    | used _ _ htouched => exact ⟨_, htouched.called.choose_spec.1⟩
    | dropped _ _ hcalls => exact ⟨_, hcalls⟩
  obtain ⟨l, hl⟩ := hadds
  rw [added_eq hl]
  exact hl

/-- What a port calls says nothing of the pins with another key, and nothing at all if it configures no pin. -/
theorem passes_of_programs {key key' : UInt16} {programs : List Driver.PinFlags} {r : Driver.Record}
    (h : Port.Programs key programs r) (hkey : key ≠ key' ∨ programs = []) : r.Passes key' := by
  refine ⟨fun hup => ?_, fun hdown => h.2 hdown.1⟩
  obtain ⟨htarget, hflags⟩ := h.1 hup.1
  rcases hkey with hne | rfl
  · exact hne (htarget.symm.trans hup.2.1)
  · exact absurd hflags List.not_mem_nil

/-- A port that only reads configures no pin. -/
theorem programs_of_analog {q : AnyPort} (h : q.use = .analogInput) : q.programs = [] := by
  cases q with
  | output _ => contradiction
  | input _ => contradiction
  | bidirectional _ => contradiction
  | analog _ => rfl

theorem programs_of_analog_request {r : PortRequest} (h : r.use = .analogInput) : r.programs = [] := by
  cases r with
  | output _ _ => contradiction
  | input _ => contradiction
  | bidirectional _ => contradiction
  | analog _ => rfl

/-- A port that was alive before a use is the one that was used, or alive after it. -/
theorem mem_set {ports : List AnyPort} {place : Nat} {q x : AnyPort} (q' : AnyPort) (hq : ports[place]? = some q)
    (hx : x ∈ ports) : x = q ∨ x ∈ ports.set place q' := by
  obtain ⟨i, hi⟩ := List.mem_iff_getElem?.mp hx
  by_cases hplace : place = i
  · subst hplace
    exact .inl (Option.some.inj (hi.symm.trans hq))
  · refine .inr (List.mem_of_getElem? (i := i) ?_)
    rw [List.getElem?_set_ne hplace, hi]

/-- A port that was alive before a drop is the one that was dropped, or alive after it. -/
theorem mem_eraseIdx {ports : List AnyPort} {place : Nat} {q x : AnyPort} (hq : ports[place]? = some q)
    (hx : x ∈ ports) : x = q ∨ x ∈ ports.eraseIdx place := by
  obtain ⟨hlt, rfl⟩ := List.getElem?_eq_some_iff.mp hq
  have hperm := List.getElem_cons_eraseIdx_perm hlt
  exact List.mem_cons.mp (hperm.mem_iff.mpr hx)

/-- **Everything that a step can do to the configuration of a pin.** It says nothing of it; or there is a digital port
on the pin after it; or it drops such a port, and the configuration is undone; or it abandons the pin. -/
inductive Touch (d : Device) (p : Panel) (pin : Pin) (s : Step) : Prop
  | passed (vacant : (p.act d s).Vacant pin → p.Vacant pin) (passes : ∀ r ∈ added d p s, r.Passes pin.key)
  | held (held : ¬ (p.act d s).Vacant pin)
  | ended (held : ¬ p.Vacant pin) (down : ∃ r, r.TakesDown pin.key ∧ added d p s = [r])
  | abandoned (vacant : (p.act d s).Vacant pin → p.Vacant pin) (abandons : Abandons d p pin s)

/-- Calls that are not made say nothing. -/
theorem Touch.of_idle (hports : (p.act d s).ports = p.ports) (hcalls : (p.act d s).hardware.calls = p.hardware.calls) :
    Touch d p pin s := by
  have hadded : added d p s = [] := added_eq (hcalls.trans (List.append_nil _).symm)
  refine .passed (fun h q hq => h q (hports ▸ hq)) fun c hc => ?_
  rw [hadded] at hc
  exact absurd hc List.not_mem_nil

/-- An attempt to make a port that has failed. -/
theorem touch_failed {name : String} {r : PortRequest} {pin' : Pin} (hspares : (Step.make name r).Spares d pin)
    (hpin : d.pin name = .ok pin') (hports : (p.act d (.make name r)).ports = p.ports)
    (hfailed : r.Failed pin'.key (added d p (.make name r))) : Touch d p pin (.make name r) := by
  have hvacant : (p.act d (.make name r)).Vacant pin → p.Vacant pin := fun h q hq => h q (hports ▸ hq)
  rcases hfailed with hrefused | ⟨hout, hhalfway⟩
  · exact .passed hvacant (Driver.passes_of_refused hrefused)
  · by_cases hkey : pin'.key = pin.key
    · obtain rfl := hspares name r pin' rfl hpin hkey
      exact .abandoned hvacant ⟨name, r, rfl, hpin, hout, hhalfway⟩
    · exact .passed hvacant (hhalfway.passes hkey)

/-- An attempt to make a port that has succeeded. A port that is made on the pin holds it, unless it only reads. -/
theorem touch_made {name : String} {r : PortRequest} {pin' : Pin} {token : Token} {q : AnyPort}
    (hspares : (Step.make name r).Spares d pin) (hpin : d.pin name = .ok pin')
    (hports : (p.act d (.make name r)).ports = q :: p.ports) (hanswers : Device.Answers r ⟨pin', token⟩ q)
    (hprograms : ∀ c ∈ added d p (.make name r), Port.Programs pin'.key r.programs c) :
    Touch d p pin (.make name r) := by
  have hq : q.pin = pin' := congrArg Port.Claim.pin hanswers.claim
  by_cases hheld : q.pin = pin ∧ q.use ≠ .analogInput
  · refine .held fun h => hheld.2 (h q ?_ hheld.1)
    rw [hports]
    exact List.mem_cons_self
  · refine .passed (fun h x hx => h x ?_) fun c hc => passes_of_programs (hprograms c hc) ?_
    · rw [hports]
      exact List.mem_cons_of_mem _ hx
    · by_cases hkey : pin'.key = pin.key
      · obtain rfl := hspares name r pin' rfl hpin hkey
        have huse : q.use = .analogInput := not_not.mp fun huse => hheld ⟨hq, huse⟩
        exact .inr (programs_of_analog_request (hanswers.use ▸ huse))
      · exact .inl hkey

/-- An attempt to make a port. -/
theorem touch_make {name : String} {r : PortRequest} (hspares : (Step.make name r).Spares d pin) :
    Touch d p pin (.make name r) := by
  cases hpin : d.pin name with
  | error e =>
      have hact : p.act d (.make name r) = p := by
        rw [act, Device.port_unknown hpin]
        rfl
      exact .of_idle (by rw [hact]) (by rw [hact])
  | ok pin' =>
      have hmade := Device.made_port hpin r p.hardware
      obtain ⟨l, hcalls, hfailed⟩ := Device.calls_port hpin r p.hardware
      have hact : p.act d (.make name r) = p.keep ((d.port name r).run p.hardware) := rfl
      generalize (d.port name r).run p.hardware = result at hmade hcalls hfailed hact
      cases hmade with
      | refused _ _ =>
          have hadded : added d p (.make name r) = l := added_eq (by rw [hact]; exact hcalls)
          exact touch_failed hspares hpin (by rw [hact, keep]) (hadded.symm ▸ hfailed)
      | undone _ _ _ _ =>
          have hadded : added d p (.make name r) = l := added_eq (by rw [hact]; exact hcalls)
          exact touch_failed hspares hpin (by rw [hact, keep]) (hadded.symm ▸ hfailed)
      | made _ _ hanswers _ hcalled =>
          obtain ⟨records, hrecords, hprograms⟩ := hcalled
          have hadded : added d p (.make name r) = records := added_eq (by rw [hact]; exact hrecords)
          exact touch_made hspares hpin (by rw [hact, keep]) hanswers (hadded.symm ▸ hprograms)

/-- The use of a port. -/
theorem touch_use {place : Nat} {u : AnyPort.Use} (hsingle : p.Single pin) : Touch d p pin (.use place u) := by
  cases hq : p.ports[place]? with
  | none =>
      have hact : p.act d (.use place u) = p := by rw [act, hq]
      exact .of_idle (by rw [hact]) (by rw [hact])
  | some q =>
      obtain ⟨⟨-, records, hrecords, hprograms⟩, hsame⟩ := q.within_handle u p.hardware
      have hact : p.act d (.use place u) =
          ⟨(q.handle u p.hardware).2, p.ports.set place (q.handle u p.hardware).1⟩ := by rw [act, hq]
      generalize (q.handle u p.hardware) = result at hrecords hsame hact
      obtain ⟨q', h'⟩ := result
      have hports : (p.act d (.use place u)).ports = p.ports.set place q' := by rw [hact]
      have hadded : added d p (.use place u) = records := added_eq (by rw [hact]; exact hrecords)
      have hmem : q' ∈ p.ports.set place q' := by
        obtain ⟨hlt, -⟩ := List.getElem?_eq_some_iff.mp hq
        exact List.mem_set hlt q'
      have hpin' : q'.pin = q.pin := congrArg Port.Claim.pin hsame.claim
      by_cases hheld : q.pin = pin ∧ q.use ≠ .analogInput
      · refine .held fun h => hheld.2 (hsame.use ▸ h q' ?_ (hpin'.trans hheld.1))
        rw [hports]
        exact hmem
      · refine .passed (fun h x hx hxpin => ?_) fun c hc => ?_
        · rcases mem_set q' hq hx with rfl | hx'
          · exact not_not.mp fun huse => hheld ⟨hxpin, huse⟩
          · exact h x (hports ▸ hx') hxpin
        · refine passes_of_programs (hprograms c (hadded ▸ hc)) ?_
          by_cases hkey : q.pin.key = pin.key
          · have hpin := hsingle q (List.mem_of_getElem? hq) hkey
            exact .inr (programs_of_analog (not_not.mp fun huse => hheld ⟨hpin, huse⟩))
          · exact .inl hkey

/-- The end of a port. -/
theorem touch_drop {place : Nat} (hsingle : p.Single pin) : Touch d p pin (.drop place) := by
  cases hq : p.ports[place]? with
  | none =>
      have hact : p.act d (.drop place) = p := by rw [act, hq]
      exact .of_idle (by rw [hact]) (by rw [hact])
  | some q =>
      obtain ⟨-, status, hcalls⟩ := q.ends p.hardware
      have hact : p.act d (.drop place) = ⟨(q.close p.hardware).2, p.ports.eraseIdx place⟩ := by rw [act, hq]
      have hports : (p.act d (.drop place)).ports = p.ports.eraseIdx place := by rw [hact]
      have hadded : added d p (.drop place) = q.ending status := added_eq (by rw [hact]; exact hcalls)
      by_cases hheld : q.pin = pin ∧ q.use ≠ .analogInput
      · refine .ended (fun h => hheld.2 (h q (List.mem_of_getElem? hq) hheld.1)) ?_
        rw [hadded, AnyPort.ending, if_neg hheld.2, ← hheld.1]
        exact ⟨_, ⟨rfl, rfl⟩, rfl⟩
      · refine .passed (fun h x hx hxpin => ?_) fun c hc => ?_
        · rcases mem_eraseIdx hq hx with rfl | hx'
          · exact not_not.mp fun huse => hheld ⟨hxpin, huse⟩
          · exact h x (hports ▸ hx') hxpin
        · rw [hadded, AnyPort.ending] at hc
          split at hc
          · contradiction
          · next huse =>
            rw [List.mem_singleton.mp hc]
            refine ⟨fun hup => absurd hup.1 Driver.Opcode.noConfusion, fun hdown => ?_⟩
            exact hheld ⟨hsingle q (List.mem_of_getElem? hq) hdown.2, huse⟩

theorem touch_act (hsingle : p.Single pin) (hspares : s.Spares d pin) : Touch d p pin s := by
  cases s with
  | make name r => exact touch_make hspares
  | use place u => exact touch_use hsingle
  | drop place => exact touch_drop hsingle
  | arrange driver => exact .of_idle rfl rfl

/-! ## Over a history -/

theorem run_append (d : Device) (p : Panel) (steps steps' : List Step) :
    p.run d (steps ++ steps') = (p.run d steps).run d steps' := List.foldl_append

theorem run_snoc (d : Device) (p : Panel) (steps : List Step) (s : Step) :
    p.run d (steps ++ [s]) = (p.run d steps).act d s := run_append d p steps [s]

/-- **The pin shares its key with no other pin of the history.** -/
def Apart (d : Device) (pin : Pin) (steps : List Step) : Prop := ∀ s ∈ steps, s.Spares d pin

theorem single_act (h : p.Single pin) (hspares : s.Spares d pin) : (p.act d s).Single pin := by
  have houtcome := outcome_act d p s
  generalize p.act d s = p' at houtcome
  cases houtcome with
  | idle _ _ => exact h
  | undone _ _ _ _ _ => exact h
  | made hknown _ _ hanswers _ _ =>
      refine List.forall_mem_cons.mpr ⟨fun hkey => ?_, h⟩
      have hclaim := congrArg Port.Claim.pin hanswers.claim
      rw [AnyPort.pin, hclaim] at hkey ⊢
      exact hspares _ _ _ rfl hknown hkey
  | @used _ _ q q' _ halive hsame _ =>
      intro x hx
      rcases List.mem_or_eq_of_mem_set hx with hold | rfl
      · exact h x hold
      · rw [AnyPort.pin, hsame.claim]
        exact h q (List.mem_of_getElem? halive)
  | dropped _ _ _ => exact fun x hx => h x (List.mem_of_mem_eraseIdx hx)

theorem single_run (driver : Driver.Simulated) {steps : List Step} (hapart : Apart d pin steps) :
    ((start driver).run d steps).Single pin := by
  induction steps using List.reverseRecOn with
  | nil => exact fun _ hq => absurd hq List.not_mem_nil
  | append_singleton steps s ih =>
      obtain ⟨hbefore, hlast⟩ := List.forall_mem_append.mp hapart
      rw [run_snoc]
      exact single_act (ih hbefore) (hlast s (List.mem_singleton_self s))

/-- **The pin was abandoned**: a step has left it configured, and no digital port was on the pin from then on. -/
def Abandoned (d : Device) (driver : Driver.Simulated) (pin : Pin) (steps : List Step) : Prop :=
  ∃ before s after, steps = before ++ s :: after ∧ Abandons d ((start driver).run d before) pin s ∧
    ∀ later, later <+: after → ((start driver).run d (before ++ s :: later)).Vacant pin

variable {driver : Driver.Simulated} {steps : List Step}

theorem Abandoned.snoc (h : Abandoned d driver pin steps)
    (hvacant : ((start driver).run d (steps ++ [s])).Vacant pin) : Abandoned d driver pin (steps ++ [s]) := by
  obtain ⟨before, s', after, rfl, habandons, hsince⟩ := h
  refine ⟨before, s', after ++ [s], by simp, habandons, fun later hlater => ?_⟩
  rcases List.prefix_concat_iff.mp hlater with rfl | hearlier
  · rw [List.append_assoc, List.cons_append] at hvacant
    exact hvacant
  · exact hsince later hearlier

/-- **A pin on which no port is alive** is not left configured, unless it was abandoned. -/
theorem undone_or_abandoned (hapart : Apart d pin steps) (hvacant : ((start driver).run d steps).Vacant pin) :
    Driver.Undone pin.key ((start driver).run d steps).hardware.calls ∨ Abandoned d driver pin steps := by
  induction steps using List.reverseRecOn with
  | nil => exact .inl (Driver.undone_nil pin.key)
  | append_singleton steps s ih =>
      obtain ⟨hbefore, hlast⟩ := List.forall_mem_append.mp hapart
      have htouch := touch_act (single_run driver hbefore) (hlast s (List.mem_singleton_self s))
      rw [run_snoc] at hvacant ⊢
      rw [calls_added, Driver.undone_append]
      cases htouch with
      | passed hbefore' hpasses =>
          have hnew := Driver.undone_of_not_setsUp fun r hr => (hpasses r hr).1
          rcases ih hbefore (hbefore' hvacant) with hundone | habandoned
          · exact .inl ⟨hnew, .inl hundone⟩
          · exact .inr (habandoned.snoc (run_snoc d _ steps s ▸ hvacant))
      | held hheld => exact absurd hvacant hheld
      | ended _ hdown =>
          obtain ⟨r, hdown, hadded⟩ := hdown
          rw [hadded]
          refine .inl ⟨Driver.undone_of_not_setsUp fun r' hr' hup => ?_, .inr ⟨r, List.mem_singleton_self r, hdown⟩⟩
          rw [List.mem_singleton.mp hr'] at hup
          exact absurd (hup.1.symm.trans hdown.1) Driver.Opcode.noConfusion
      | abandoned _ habandons =>
          refine .inr ⟨steps, s, [], rfl, habandons, fun later hlater => ?_⟩
          rw [List.prefix_nil.mp hlater, run_snoc]
          exact hvacant

/-- **A pin that was abandoned stays configured.** -/
theorem Abandoned.not_undone (hapart : Apart d pin steps) (h : Abandoned d driver pin steps) :
    ¬ Driver.Undone pin.key ((start driver).run d steps).hardware.calls := by
  obtain ⟨before, s, after, rfl, habandons, hsince⟩ := h
  induction after using List.reverseRecOn with
  | nil =>
      obtain ⟨-, -, -, -, -, hhalfway⟩ := habandons
      rw [run_snoc, calls_added, Driver.undone_append]
      exact fun hundone => hhalfway.not_undone hundone.1
  | append_singleton after s' ih =>
      rw [← List.cons_append, ← List.append_assoc] at hapart ⊢
      obtain ⟨hbefore, hlast⟩ := List.forall_mem_append.mp hapart
      have hundone := ih hbefore fun later hlater => hsince later (hlater.trans (List.prefix_append _ _))
      have hfree := hsince after (List.prefix_append _ _)
      have hstill := hsince (after ++ [s']) (List.prefix_refl _)
      rw [← List.cons_append, ← List.append_assoc, run_snoc] at hstill
      have htouch := touch_act (single_run driver hbefore) (hlast s' (List.mem_singleton_self s'))
      -- No step that finds the pin free, and leaves it free, undoes a configuration.
      have hkeeps : ∀ r ∈ added d ((start driver).run d (before ++ s :: after)) s', ¬ r.TakesDown pin.key := by
        cases htouch with
        | passed _ hpasses => exact fun r hr => (hpasses r hr).2
        | held hheld => exact absurd hstill hheld
        | ended hheld _ => exact absurd hfree hheld
        | abandoned _ habandons =>
            obtain ⟨-, -, -, -, -, hhalfway⟩ := habandons
            exact fun r hr => hhalfway.not_takesDown r hr pin.key
      rw [run_snoc, calls_added, Driver.undone_append]
      rintro ⟨-, hold | ⟨r, hr, hdown⟩⟩
      · exact hundone hold
      · exact hkeeps r hr hdown

/-- **Which pins are left configured.** When no digital port is alive on a pin, which shares its key with no other pin
of the history, some configuration of it that the driver took is not undone exactly if the pin was abandoned: a
bidirectional port was to start out on it as an output, the driver took the first of its two configurations and
refused the second, and no port that would have been dropped was on the pin after that. -/
theorem left_configured_iff (hapart : Apart d pin steps) (hvacant : ((start driver).run d steps).Vacant pin) :
    ¬ Driver.Undone pin.key ((start driver).run d steps).hardware.calls ↔ Abandoned d driver pin steps := by
  constructor
  · intro hleft
    exact (undone_or_abandoned hapart hvacant).resolve_left hleft
  · exact Abandoned.not_undone hapart

/-! ## A pin that is left configured -/

/-- A pin that goes both ways. -/
def plainPin : Pin := ⟨"D00", 0, [.digital true true true]⟩

/-- A board with that pin. -/
def plain : Device := ⟨[plainPin], default, .new 4095⟩

/-- A bidirectional port is to start out as an output. The driver takes the first configuration of the pin and
refuses the second one. -/
def halfway : List Step :=
  [.arrange ((Driver.Simulated.empty.injectFault .pinConfigure 0).injectFault .pinConfigure 5),
    .make "D00" (.bidirectional BidirectionalPort.driving)]

/-- All calls that are made. -/
theorem calls_halfway :
    ((start .empty).run plain halfway).hardware.calls =
      [(Port.configuration plainPin {} (BidirectionalPort.filterPayload .zero .zero)).record 0,
        (Port.configuration plainPin { output := true } []).record 5] := rfl

theorem not_undone_halfway : ¬ Driver.Undone plainPin.key ((start .empty).run plain halfway).hardware.calls := by
  rw [calls_halfway]
  refine Driver.Halfway.not_undone ⟨_, _, rfl, ⟨rfl, rfl, rfl⟩, rfl, ?_⟩
  decide

theorem apart_halfway : Apart plain plainPin halfway := by
  intro s _ name r pin' _ hpin _
  unfold Device.pin at hpin
  split at hpin
  · next found hfound =>
    obtain rfl := Except.ok.inj hpin
    exact List.mem_singleton.mp (List.mem_of_find?_eq_some hfound)
  · contradiction

/-- The pin was abandoned, as its configuration shows. -/
theorem left_configured_iff_halfway :
    Apart plain plainPin halfway ∧ ((start .empty).run plain halfway).Vacant plainPin ∧
      Abandoned plain .empty plainPin halfway := by
  have hvacant : ((start .empty).run plain halfway).Vacant plainPin := fun _ hq => absurd hq List.not_mem_nil
  exact ⟨apart_halfway, hvacant, (left_configured_iff apart_halfway hvacant).mp not_undone_halfway⟩

/-- **No pin is left configured without an owner**, if it shares its key with no other pin of the history. -/
def Tidy (d : Device) (driver : Driver.Simulated) (steps : List Step) : Prop :=
  ∀ name pin, d.pin name = .ok pin → Apart d pin steps → ((start driver).run d steps).on name = [] →
    Driver.Undone pin.key ((start driver).run d steps).hardware.calls

/-- **This pin is.** -/
theorem not_tidy_halfway : ¬ Tidy plain .empty halfway := fun h =>
  not_undone_halfway (h "D00" plainPin rfl apart_halfway rfl)

end Panel

end Peripherals
