import Peripherals.Proofs.Port.Capability

/-!
# `Proofs.Port.Setting` — settings that are refused

The direction of a bidirectional port and its two filters can be changed while the port is alive. A change of
direction is recorded once the driver has taken it. A filter is recorded first, and the pin is programmed after that;
so a filter that the driver refuses is reported all the same, while the pin still has the old one.

* `BidirectionalPort.Setting`, `BidirectionalPort.set` — one change of a setting;
* `BidirectionalPort.Refusal` — all the ways in which a change fails;
* `BidirectionalPort.reports_changed_iff` — the failures that change what the port reports;
* `Panel.Steadfast` — no failure on a board ever does, which is not so.
-/

namespace Peripherals

open Hardware

namespace BidirectionalPort

/-! ## Settings -/

/-- A change of a setting. -/
inductive Setting where
  | filter (filter : Port.Filter) (value : Duration)
  | direction (direction : Direction)

/-- What a port reports of its settings. -/
structure Reports where
  direction : Direction
  debounce : Duration
  glitch : Duration
  deriving DecidableEq

/-- The settings that a port reports. -/
def reports (p : BidirectionalPort) : Reports := ⟨p.direction, p.debounce, p.glitch⟩

/-- The value that a port reports of a filter. -/
def filterValue (p : BidirectionalPort) : Port.Filter → Duration
  | .debounce => p.debounce
  | .glitch => p.glitch

/-- Changes a setting. -/
def set (p : BidirectionalPort) : Setting → Action (Except Port.Error Unit × BidirectionalPort)
  | .filter filter value => p.setFilter filter value
  | .direction direction => do
    let (result, p) ← p.setDirection direction
    pure (result.mapError .native, p)

/-- The call that programs an input with the filters that a port reports. -/
def filtering (p : BidirectionalPort) : Driver.Call :=
  Port.configuration p.pin (Port.inputFlags p.options.resistor p.options.interrupt) (filterPayload p.debounce p.glitch)

variable {p p' : BidirectionalPort} {s : Setting} {e : Port.Error} {h h' : Hardware}

/-- Another value of a filter is reported, and nothing else changes. -/
theorem reports_withFilter_iff (p : BidirectionalPort) (filter : Port.Filter) (value : Duration) :
    (p.withFilter filter value).reports = p.reports ↔ p.filterValue filter = value := by
  cases filter with
  | debounce => simp [withFilter, reports, filterValue, eq_comm]
  | glitch => simp [withFilter, reports, filterValue, eq_comm]

theorem direction_withFilter (p : BidirectionalPort) (filter : Port.Filter) (value : Duration) :
    (p.withFilter filter value).direction = p.direction := by
  cases filter with
  | debounce => rfl
  | glitch => rfl

/-! ## How a change fails -/

/-- **All the ways in which a change of a setting fails**, with the port and the hardware that it leaves behind. -/
inductive Refusal (p : BidirectionalPort) (h : Hardware) :
    Setting → Port.Error → BidirectionalPort → Hardware → Prop
  /-- A filter out of range is refused before anything is done. -/
  | outOfRange {filter : Port.Filter} {value : Duration} (range : ¬ value ≤ maxFilter) :
    Refusal p h (.filter filter value) (.durationOutOfRange filter value) p h
  /-- The driver refuses the pin for another direction. -/
  | turn {direction : Direction} {cause : Bus.Error} {h' : Hardware} (turns : p.direction ≠ direction) :
    Refusal p h (.direction direction) (.native cause) p h'
  /-- The driver refuses to program a filter, which the port has already recorded. -/
  | filter {filter : Port.Filter} {value : Duration} {status : Int32} {h' : Hardware} (range : value ≤ maxFilter)
    (input : p.direction = .input) (status_ne : status ≠ 0)
    (calls : h'.calls = h.calls ++ [(p.withFilter filter value).filtering.record status]) :
    Refusal p h (.filter filter value) (.native (.ofStatus status p.pin.key)) (p.withFilter filter value) h'

/-- An input is programmed by one call. -/
theorem reprogram_of_input (hinput : p.direction = .input) :
    p.reprogram = (do let _ ← issue p.filtering) := by
  rw [reprogram, hinput]
  rfl

theorem refusal_of_setFilter {filter : Port.Filter} {value : Duration}
    (hrun : p.setFilter filter value h = ((.error e, p'), h')) : Refusal p h (.filter filter value) e p' h' := by
  -- The range is judged before anything is recorded.
  by_cases hrange : value ≤ maxFilter
  case neg =>
    have hcheck : checkFilter filter value = .error (.durationOutOfRange filter value) := if_neg hrange
    rw [setFilter, hcheck] at hrun
    cases hrun
    exact .outOfRange hrange
  case pos =>
    have hcheck : checkFilter filter value = .ok () := if_pos hrange
    have hdirection := p.direction_withFilter filter value
    have hpin : (p.withFilter filter value).pin = p.pin := congrArg Port.Claim.pin (p.same_withFilter filter value).1
    simp only [setFilter, hcheck, run_bind] at hrun
    cases hturned : p.direction with
    | output =>
        -- An output has nothing to program, so nothing can fail.
        rw [reprogram, hdirection, hturned] at hrun
        cases hrun
    | input =>
        rw [reprogram_of_input (hdirection.trans hturned)] at hrun
        rcases issue_cases (p.withFilter filter value).filtering h with
          ⟨rx, h₁, hissue, -, -⟩ | ⟨status, h₁, hstatus, hissue, -, hcalls⟩
        · rw [attempt_ok hissue] at hrun
          cases hrun
        · rw [attempt_error hissue] at hrun
          cases hrun
          have htarget : (p.withFilter filter value).filtering.target = p.pin.key := congrArg Pin.key hpin
          rw [htarget]
          exact .filter hrange hturned hstatus hcalls

theorem refusal_of_setDirection {direction : Direction} {cause : Bus.Error}
    (hrun : p.setDirection direction h = ((.error cause, p'), h')) :
    Refusal p h (.direction direction) (.native cause) p' h' := by
  unfold setDirection at hrun
  split at hrun
  · cases hrun
  · next hturns =>
    rw [run_bind] at hrun
    -- The port is the old one unless the driver has taken the new direction.
    cases hresult : ((program p.pin p.options p.debounce p.glitch direction).run h).1 with
    | ok _ =>
        rw [hresult] at hrun
        cases hrun
    | error cause' =>
        rw [hresult] at hrun
        cases hrun
        exact .turn hturns

/-- **A change that fails does so in one of these ways.** -/
theorem refusal_of_set (hrun : p.set s h = ((.error e, p'), h')) : Refusal p h s e p' h' := by
  cases s with
  | filter filter value => exact refusal_of_setFilter hrun
  | direction direction =>
      rw [set, run_bind] at hrun
      cases hturned : p.setDirection direction h with
      | mk outcome h₁ =>
          obtain ⟨result, q⟩ := outcome
          rw [hturned] at hrun
          cases result with
          | ok _ => cases hrun
          | error cause =>
              cases hrun
              exact refusal_of_setDirection hturned

/-! ## What is reported after a failure -/

/-- **Which failures change what a port reports**: whatever the port and the hardware, just those of a filter that is
in range, on a line that goes in, when the filter is not the one that was reported before. It is the driver, then, that
has refused the filter; and the port reports it. -/
theorem reports_changed_iff (hrun : p.set s h = ((.error e, p'), h')) :
    p'.reports ≠ p.reports ↔
      ∃ filter value, s = .filter filter value ∧ value ≤ maxFilter ∧ p.direction = .input ∧
        p.filterValue filter ≠ value ∧ p' = p.withFilter filter value ∧
        ∃ status, status ≠ 0 ∧ h'.calls = h.calls ++ [p'.filtering.record status] := by
  cases refusal_of_set hrun with
  | outOfRange hrange =>
      refine iff_of_false (fun hchanged => hchanged rfl) ?_
      rintro ⟨filter, value, hs, hvalue, -⟩
      cases hs
      exact hrange hvalue
  | turn _ =>
      refine iff_of_false (fun hchanged => hchanged rfl) ?_
      rintro ⟨filter, value, hs, -⟩
      cases hs
  | @filter filter value status _ hrange hinput hstatus hcalls =>
      rw [Ne, reports_withFilter_iff]
      constructor
      · intro hother
        exact ⟨filter, value, rfl, hrange, hinput, hother, rfl, status, hstatus, hcalls⟩
      · rintro ⟨filter', value', hs, -, -, hother, -⟩
        cases hs
        exact hother

end BidirectionalPort

/-! ## A filter that is refused -/

namespace Panel

open BidirectionalPort

/-- **A change of a setting that fails changes nothing that is reported**, of any bidirectional port that is alive after
these steps. -/
def Steadfast (d : Device) (driver : Driver.Simulated) (steps : List Step) : Prop :=
  ∀ p, .bidirectional p ∈ ((start driver).run d steps).ports → ∀ s e p' h',
    p.set s ((start driver).run d steps).hardware = ((.error e, p'), h') → p'.reports = p.reports

/-- A board with a pin that goes both ways. -/
def single : Device := ⟨[⟨"D00", 0, [.digital true true true]⟩], default, .new 4095⟩

/-- A port is made on that pin, as an input without filters. From then on the driver refuses the next configuration. -/
def untaken : List Step :=
  [.make "D00" (.bidirectional { driving with direction := .input }),
    .arrange (Driver.Simulated.empty.injectFault .pinConfigure 5)]

/-- The port. -/
def untakenPort : BidirectionalPort :=
  ⟨⟨⟨"D00", 0, [.digital true true true]⟩, ⟨"D00", .digitalInput, 0⟩⟩, { driving with direction := .input }, .input,
    .zero, .zero, .ofNotices⟩

/-- A debounce filter of twenty milliseconds. -/
def untakenSetting : Setting := .filter .debounce (.ofMillis 20)

/-- The filter is refused. -/
theorem set_untaken :
    ∃ h', untakenPort.set untakenSetting ((start .empty).run single untaken).hardware =
      ((.error (.native (.ofStatus 5 0)), untakenPort.withFilter .debounce (.ofMillis 20)), h') :=
  ⟨_, rfl⟩

/-- The port reports the filter that the driver has refused. -/
theorem reports_changed_iff_untaken :
    ∃ h', untakenPort.set untakenSetting ((start .empty).run single untaken).hardware =
        ((.error (.native (.ofStatus 5 0)), untakenPort.withFilter .debounce (.ofMillis 20)), h') ∧
      (untakenPort.withFilter .debounce (.ofMillis 20)).debounce = .ofMillis 20 ∧
      ∃ status, status ≠ 0 ∧ h'.calls = ((start .empty).run single untaken).hardware.calls ++
        [(untakenPort.withFilter .debounce (.ofMillis 20)).filtering.record status] := by
  obtain ⟨h', hrun⟩ := set_untaken
  have hchanged : (untakenPort.withFilter .debounce (.ofMillis 20)).reports ≠ untakenPort.reports := by decide
  obtain ⟨_, _, -, -, -, -, -, hrefused⟩ := (reports_changed_iff hrun).mp hchanged
  exact ⟨h', hrun, rfl, hrefused⟩

/-- **This failure changes what is reported.** -/
theorem not_steadfast_untaken : ¬ Steadfast single .empty untaken := by
  intro h
  obtain ⟨h', hrun⟩ := set_untaken
  have hmem : .bidirectional untakenPort ∈ ((start .empty).run single untaken).ports := List.mem_singleton_self _
  exact absurd (h untakenPort hmem untakenSetting _ _ h' hrun) (by decide)

end Panel

end Peripherals
