import Peripherals.Proofs.Port.Conduct

/-!
# `Proofs.Analog.Probe` — an analog port at work

Loops are started and told to stop at any moments, and each of them comes to its turns at any moments. A loop that was
told to stop need not be over: another one may have been started by then, and the two take turns. Readings on demand use
the same converter, and so may anything else.

* `Probe` — a port with its hardware, `Probe.Move`, what can happen, and `Probe.act`, which makes it happen;
* `Probe.sampled`, `Probe.told`, `Probe.called` — the sample that a loop takes in a move, what the subscribers of the
  port are told by it, and what the loops call in it;
* `AnalogPort.Moved` — everything that a move can do to a port. No later proof opens a move (`Probe.moved_act`).
-/

namespace Peripherals

open Hardware

/-- What a sample comes to. -/
abbrev Conversion := Except Bus.Error Voltage

/-- The samples that a loop has taken for its batch. -/
def Sampler.taken (s : Sampler) : List Voltage :=
  match s.stage with
  | .fresh => []
  | .waiting taken _ => taken

namespace AnalogPort

variable (p : AnalogPort)

/-! ## One sample -/

/-- The call of a sample. -/
def conversion : Driver.Call := { opcode := .convert, target := p.pin.key, rx := Bytes.zeros 4 }

/-- The voltage that the converter's answer stands for. -/
def reading (rx : Bytes) : Voltage :=
  p.converter.toVoltage (((Bytes.takeWord32? rx).map (·.1)).getD 0) p.reference

theorem run_sample (h : Hardware) :
    p.sample.run h = (((issue p.conversion).run h).1.map p.reading, ((issue p.conversion).run h).2) := by
  cases hrun : (issue p.conversion).run h with
  | mk result h' =>
      cases result with
      | ok rx =>
          have hraw : (Converter.readRaw p.pin).run h = (.ok (((Bytes.takeWord32? rx).map (·.1)).getD 0), h') :=
            attempt_ok hrun
          exact attempt_ok hraw
      | error e =>
          have hraw : (Converter.readRaw p.pin).run h = (.error e, h') := attempt_error hrun
          exact attempt_error hraw

/-- What has been written to the log does not matter to a sample. -/
theorem sample_tell (lines : List Log.Line) (h : Hardware) :
    (p.sample.run (tell lines h).2).1 = (p.sample.run h).1 := by
  rw [run_sample, run_sample, issue_tell]

/-- The record of a sample that came to `o`. -/
def Converted (o : Conversion) (r : Driver.Record) : Prop :=
  ∃ status, r = p.conversion.record status ∧ (status = 0 ↔ ∃ v, o = .ok v)

/-- **A sample is one conversion**, and its status decides. -/
theorem calls_sample (h : Hardware) :
    ∃ r, p.Converted (p.sample.run h).1 r ∧ (p.sample.run h).2.calls = h.calls ++ [r] := by
  rw [run_sample]
  rcases issue_cases p.conversion h with ⟨rx, h', hrun, -, hcalls⟩ | ⟨status, h', hstatus, hrun, -, hcalls⟩
  · rw [hrun]
    exact ⟨_, ⟨0, rfl, iff_of_true rfl ⟨_, rfl⟩⟩, hcalls⟩
  · rw [hrun]
    exact ⟨_, ⟨status, rfl, iff_of_false hstatus nofun⟩, hcalls⟩

/-! ## A turn of a loop -/

/-- **A loop takes a turn.** It may find at once that it was told to stop and that its time has come. Then either may
decide, and `late` says that its time does. -/
def poll (number now wall : Nat) (late : Bool) : Action AnalogPort :=
  match p.loops.get? number with
  | some ⟨.fresh, _⟩ => p.enterLoop number now wall
  | some ⟨.waiting taken wake, throttle⟩ =>
    -- Otherwise a stop goes first, as in every turn that is not told which of the two decides.
    if late ∧ wake ≤ now then p.takeSample number ⟨.waiting taken wake, throttle⟩ taken now wall
    else do pure (p.turned (← p.turnLoop number now wall))
  | none => pure p

/-- The loop whose turn it is, if it takes a sample. -/
def due? (number now : Nat) (late : Bool) : Option Sampler :=
  match p.loops.get? number with
  | some ⟨.fresh, throttle⟩ => some ⟨.fresh, throttle⟩
  | some ⟨.waiting taken wake, throttle⟩ =>
    if wake ≤ now ∧ (late ∨ ¬ p.isLeaving number) then some ⟨.waiting taken wake, throttle⟩ else none
  | none => none

/-- **Everything that a move can do to a port**, with the sample that a loop takes in it and the changes that are
told. -/
inductive Moved : AnalogPort → Option (Nat × Conversion) → List VoltageChange → Prop where
  | same : Moved p none []
  /-- A loop is started. -/
  | started (interval : Duration) (throttle : Throttle) (hidle : p.running = none) :
    Moved { p with
      updateInterval := interval
      loops := p.loops.set p.nextLoop ⟨.fresh, throttle⟩
      running := some p.nextLoop
      nextLoop := p.nextLoop + 1 } none []
  /-- The loop that runs is told to stop. -/
  | stopped : Moved { p with running := none } none []
  /-- A loop that was told to stop is over. -/
  | left (number : Nat) (hleaving : p.isLeaving number) : Moved { p with loops := p.loops.erase number } none []
  /-- A sample fails, and with it the batch. -/
  | failed {number : Nat} {s : Sampler} (hloop : p.loops.get? number = some s) (e : Bus.Error) (wake : Nat)
    (throttle : Throttle) :
    Moved { p with loops := p.loops.set number ⟨.waiting [] wake, throttle⟩ } (some (number, .error e)) []
  /-- A sample is not the last one of its batch. -/
  | more {number : Nat} {s : Sampler} (hloop : p.loops.get? number = some s) (v : Voltage) (wake : Nat)
    (throttle : Throttle) (hshort : (s.taken ++ [v]).length < p.count) :
    Moved { p with loops := p.loops.set number ⟨.waiting (s.taken ++ [v]) wake, throttle⟩ }
      (some (number, .ok v)) []
  /-- A sample is the last one of its batch. -/
  | whole {number : Nat} {s : Sampler} (hloop : p.loops.get? number = some s) (v : Voltage) (wake : Nat)
    (throttle : Throttle) (hlong : p.count ≤ (s.taken ++ [v]).length) (mean : Voltage)
    (hmean : Voltage.mean? (s.taken ++ [v]) = some mean) :
    Moved { p with
      loops := p.loops.set number ⟨.waiting [] wake, throttle⟩
      buffer := s.taken ++ [v]
      previous := some mean
      changes := p.changes.send ⟨mean, p.previous⟩ } (some (number, .ok v)) [⟨mean, p.previous⟩]

variable {p} {number : Nat}

/-- The conversions of a port stay what they are. -/
theorem Moved.conversion {p' : AnalogPort} {sampled : Option (Nat × Conversion)} {told : List VoltageChange}
    (hmoved : p.Moved p' sampled told) : p'.conversion = p.conversion := by
  cases hmoved with
  | _ => rfl

/-- What has been told is what was sent. -/
theorem Moved.news {p' : AnalogPort} {sampled : Option (Nat × Conversion)} {told : List VoltageChange}
    (hmoved : p.Moved p' sampled told) : p.changes.news p'.changes = told := by
  cases hmoved with
  | whole hloop v wake throttle hlong mean hmean => exact p.changes.news_send _
  | _ => exact p.changes.news_self

theorem publish_of_mean {batch : List Voltage} {mean : Voltage} (hmean : Voltage.mean? batch = some mean) :
    p.publish batch =
      { p with buffer := batch, previous := some mean, changes := p.changes.send ⟨mean, p.previous⟩ } := by
  unfold publish
  rw [hmean]
  rfl

/-- **A loop takes a sample.** -/
theorem moved_takeSample {s : Sampler} (hloop : p.loops.get? number = some s) (now wall : Nat) (h : Hardware) :
    (∃ told, p.Moved (p.takeSample number s s.taken now wall h).1 (some (number, (p.sample.run h).1)) told) ∧
      (p.takeSample number s s.taken now wall h).2.calls = (p.sample.run h).2.calls := by
  unfold takeSample
  rw [run_bind]
  cases hrun : p.sample.run h with
  | mk o h' =>
      cases o with
      | error e => exact ⟨⟨[], .failed hloop e _ _⟩, rfl⟩
      | ok v =>
          dsimp only
          split
          · next hshort => exact ⟨⟨[], .more hloop v _ _ hshort⟩, rfl⟩
          · next hlong =>
            refine ⟨?_, rfl⟩
            -- A batch with this reading in it has a mean, so it is published.
            cases hmean : Voltage.mean? (s.taken ++ [v]) with
            | none => exact absurd (Voltage.mean?_eq_none_iff.mp hmean) (by simp)
            | some mean =>
                rw [publish_of_mean hmean]
                exact ⟨_, .whole hloop v _ _ (Nat.not_lt.mp hlong) mean hmean⟩

variable {taken : List Voltage} {wake now : Nat} {throttle : Throttle} {late : Bool}

/-- The first turn of a loop. -/
theorem poll_fresh (hloop : p.loops.get? number = some ⟨.fresh, throttle⟩) (now wall : Nat) (late : Bool)
    (h : Hardware) :
    ∃ lines, p.poll number now wall late h =
      p.takeSample number ⟨.fresh, throttle⟩ [] now wall (tell lines h).2 := by
  unfold poll
  rw [hloop]
  dsimp only
  unfold enterLoop
  rw [hloop]
  exact ⟨_, rfl⟩

/-- A turn in which the time of a loop has come. -/
theorem poll_awake (hloop : p.loops.get? number = some ⟨.waiting taken wake, throttle⟩) (hwake : wake ≤ now)
    (hstays : late ∨ ¬ p.isLeaving number) (wall : Nat) (h : Hardware) :
    p.poll number now wall late h = p.takeSample number ⟨.waiting taken wake, throttle⟩ taken now wall h := by
  unfold poll
  rw [hloop]
  by_cases hlate : late
  · simp only [hlate, hwake, true_and, if_true]
  · have hrunning : ¬ p.isLeaving number := hstays.resolve_left hlate
    simp only [hlate, false_and, if_false, Bool.false_eq_true]
    unfold turnLoop
    rw [hloop]
    simp only [hrunning, hwake, if_true]
    rfl

/-- A turn in which a loop comes to know that it was told to stop. -/
theorem poll_leaving (hloop : p.loops.get? number = some ⟨.waiting taken wake, throttle⟩)
    (hleaving : p.isLeaving number) (hlate : ¬ (late ∧ wake ≤ now)) (wall : Nat) (h : Hardware) :
    ∃ lines, p.poll number now wall late h = ({ p with loops := p.loops.erase number }, (tell lines h).2) := by
  unfold poll
  rw [hloop]
  dsimp only
  rw [if_neg hlate]
  unfold turnLoop
  rw [hloop]
  dsimp only
  rw [if_pos hleaving]
  exact ⟨_, rfl⟩

/-- A turn in which a loop has nothing to do. -/
theorem poll_waits (hloop : p.loops.get? number = some ⟨.waiting taken wake, throttle⟩)
    (hstays : ¬ p.isLeaving number) (hwake : ¬ wake ≤ now) (wall : Nat) (late : Bool) (h : Hardware) :
    p.poll number now wall late h = (p, h) := by
  unfold poll
  rw [hloop]
  dsimp only
  rw [if_neg fun hlate => hwake hlate.2]
  unfold turnLoop
  rw [hloop]
  dsimp only
  rw [if_neg hstays, if_neg hwake]
  rfl

/-- A turn of a loop that is over. -/
theorem poll_over (hloop : p.loops.get? number = none) (now wall : Nat) (late : Bool) (h : Hardware) :
    p.poll number now wall late h = (p, h) := by
  unfold poll
  rw [hloop]
  rfl

/-- **A turn in which a loop takes a sample.** -/
theorem moved_of_due {s : Sampler} (hdue : p.due? number now late = some s) (wall : Nat) (h : Hardware) :
    (∃ told, p.Moved (p.poll number now wall late h).1 (some (number, (p.sample.run h).1)) told) ∧
      ∃ r, p.Converted (p.sample.run h).1 r ∧ (p.poll number now wall late h).2.calls = h.calls ++ [r] := by
  unfold due? at hdue
  split at hdue
  · next throttle hloop =>
    -- The loop writes to the log that it has started, and only then takes its first sample.
    obtain ⟨lines, hpoll⟩ := poll_fresh hloop now wall late h
    obtain ⟨hmoved, hcalls⟩ := moved_takeSample hloop now wall (tell lines h).2
    obtain ⟨r, hr, hrecord⟩ := p.calls_sample (tell lines h).2
    rw [sample_tell] at hmoved hr
    rw [hpoll]
    exact ⟨hmoved, r, hr, hcalls.trans hrecord⟩
  · next taken wake throttle hloop =>
    split at hdue
    · next hawake =>
      rw [poll_awake hloop hawake.1 hawake.2 wall h]
      obtain ⟨hmoved, hcalls⟩ := moved_takeSample hloop now wall h
      obtain ⟨r, hr, hrecord⟩ := p.calls_sample h
      exact ⟨hmoved, r, hr, hcalls.trans hrecord⟩
    · contradiction
  · contradiction

/-- **A turn in which no loop takes a sample.** At most, a loop that was told to stop is over. -/
theorem poll_of_not_due (hdue : p.due? number now late = none) (wall : Nat) (h : Hardware) :
    ((p.poll number now wall late h).1 = p ∨
      (p.isLeaving number ∧ (p.poll number now wall late h).1 = { p with loops := p.loops.erase number })) ∧
    (p.poll number now wall late h).2.calls = h.calls := by
  unfold due? at hdue
  split at hdue
  · contradiction
  · next taken wake throttle hloop =>
    split at hdue
    · contradiction
    · next hasleep =>
      -- The loop waits: it comes to know that it was told to stop, or its time has not come.
      by_cases hleaving : p.isLeaving number
      · have hlate : ¬ (late ∧ wake ≤ now) := fun hlate => hasleep ⟨hlate.2, .inl hlate.1⟩
        obtain ⟨lines, hpoll⟩ := poll_leaving hloop hleaving hlate wall h
        rw [hpoll]
        exact ⟨.inr ⟨hleaving, rfl⟩, rfl⟩
      · have hwake : ¬ wake ≤ now := fun hwake => hasleep ⟨hwake, .inr hleaving⟩
        rw [poll_waits hloop hleaving hwake wall late h]
        exact ⟨.inl rfl, rfl⟩
  · next hloop =>
    rw [poll_over hloop now wall late h]
    exact ⟨.inl rfl, rfl⟩

/-- Starting a loop. -/
theorem moved_started (p : AnalogPort) (runtime : Bool) (interval : Option Duration) (wall : Nat) :
    p.Moved (p.started runtime interval wall) none [] := by
  unfold started
  split
  · next p' hstart =>
    unfold start at hstart
    split at hstart
    · rw [← Except.ok.inj hstart]
      exact .same
    · next hidle =>
      split at hstart
      · contradiction
      · rw [← Except.ok.inj hstart]
        exact .started _ _ (by simpa [isSampling] using hidle)
  · exact .same

end AnalogPort

/-! ## Making a port -/

/-- A port begins with nothing published, and no loop. -/
theorem AnalogPort.create_eq_ok {converter : Converter} {pin : Pin} {options : AnalogOptions} {p : AnalogPort}
    {h h' : Hardware} (hmade : (create converter pin options).run h = (.ok p, h')) :
    0 < options.count ∧ ∃ claim, p =
      { claim, converter
        count := options.count
        sampleInterval := options.sampleInterval
        updateInterval := options.updateInterval
        reference := options.reference
        buffer := []
        previous := none
        changes := .ofNotices
        loops := .empty
        running := none
        nextLoop := 0 } := by
  unfold create at hmade
  split at hmade
  · exact absurd (Prod.mk.inj hmade).1 nofun
  · next hcount =>
    obtain ⟨claim, h₁, -, hport⟩ := attempt_eq_ok hmade
    exact ⟨Nat.pos_of_ne_zero hcount, claim, (Except.ok.inj (Prod.mk.inj hport).1).symm⟩

/-! ## Moves -/

/-- **An analog port at work.** -/
structure Probe where
  hardware : Hardware
  port : AnalogPort

namespace Probe

/-- What can happen to a port. -/
inductive Move where
  /-- A loop is to be started. -/
  | start (runtime : Bool) (interval : Option Duration) (wall : Nat)
  /-- The loop that runs is to stop. -/
  | stop
  /-- A loop takes a turn. -/
  | poll (number now wall : Nat) (late : Bool)
  /-- A reading on demand takes a step. -/
  | read (reading : Reading) (now : Nat)
  /-- Anything else becomes of the hardware. -/
  | arrange (hardware : Hardware)

/-- **Makes a move.** -/
def act (s : Probe) : Move → Probe
  | .start runtime interval wall => { s with port := s.port.started runtime interval wall }
  | .stop => { s with port := s.port.stop }
  | .poll number now wall late =>
    let (port, hardware) := s.port.poll number now wall late s.hardware
    ⟨hardware, port⟩
  | .read reading now => { s with hardware := (s.port.stepReading reading now s.hardware).2 }
  | .arrange hardware => { s with hardware }

/-- The sample that a loop takes in a move, if one does: the number of the loop, and what the sample comes to. -/
def sampled (s : Probe) : Move → Option (Nat × Conversion)
  | .poll number now _ late => (s.port.due? number now late).map fun _ => (number, (s.port.sample.run s.hardware).1)
  | _ => none

/-- What the subscribers of the port are told by a move. -/
def told (s : Probe) (m : Move) : List VoltageChange := s.port.changes.news (s.act m).port.changes

/-- What the loops call in a move. -/
def called (s : Probe) : Move → List Driver.Record
  | .poll number now wall late =>
    (s.act (.poll number now wall late)).hardware.calls.drop s.hardware.calls.length
  | _ => []

/-- **What a move does to the port.** -/
theorem moved_act (s : Probe) (m : Move) : s.port.Moved (s.act m).port (s.sampled m) (s.told m) := by
  have hmoved : ∃ told, s.port.Moved (s.act m).port (s.sampled m) told := by
    cases m with
    | start runtime interval wall => exact ⟨[], s.port.moved_started runtime interval wall⟩
    | stop => exact ⟨[], .stopped⟩
    | poll number now wall late =>
        cases hdue : s.port.due? number now late with
        | none =>
            have hport : (s.act (.poll number now wall late)).port =
                (s.port.poll number now wall late s.hardware).1 := rfl
            rw [sampled, hdue, hport]
            rcases (AnalogPort.poll_of_not_due hdue wall s.hardware).1 with hsame | ⟨hleaving, hover⟩
            · rw [hsame]
              exact ⟨[], .same⟩
            · rw [hover]
              exact ⟨[], .left number hleaving⟩
        | some loop =>
            rw [sampled, hdue]
            exact (AnalogPort.moved_of_due hdue wall s.hardware).1
    | read reading now => exact ⟨[], .same⟩
    | arrange hardware => exact ⟨[], .same⟩
  obtain ⟨told, hmoved⟩ := hmoved
  -- What has been sent can be read from the channel.
  have hnews : s.told m = told := hmoved.news
  rw [hnews]
  exact hmoved

/-- **What the loops call in a move** is the conversion of the sample that one of them takes, and nothing else. -/
theorem called_act (s : Probe) (m : Move) :
    match s.sampled m with
    | none => s.called m = []
    | some (_, o) => ∃ r, s.called m = [r] ∧ s.port.Converted o r := by
  cases m with
  | poll number now wall late =>
      cases hdue : s.port.due? number now late with
      | none =>
          have hcalls := (AnalogPort.poll_of_not_due hdue wall s.hardware).2
          rw [sampled, hdue]
          show List.drop _ (s.port.poll number now wall late s.hardware).2.calls = []
          rw [hcalls, List.drop_length]
      | some loop =>
          obtain ⟨-, r, hr, hcalls⟩ := AnalogPort.moved_of_due hdue wall s.hardware
          rw [sampled, hdue]
          refine ⟨r, ?_, hr⟩
          show List.drop _ (s.port.poll number now wall late s.hardware).2.calls = [r]
          rw [hcalls, List.drop_left]
  | _ => rfl

/-! ## Over a history -/

end Probe

/-- A list that is split at one of its elements, seen from its end. -/
theorem append_cons_eq_snoc {α : Type} {before after history : List α} {a b : α}
    (h : before ++ a :: after = history ++ [b]) :
    (after = [] ∧ before = history ∧ a = b) ∨ ∃ rest, after = rest ++ [b] ∧ before ++ a :: rest = history := by
  rcases List.eq_nil_or_concat after with rfl | ⟨rest, x, rfl⟩
  · obtain ⟨hbefore, hlast⟩ := List.append_inj' h rfl
    exact .inl ⟨rfl, hbefore, List.singleton_inj.mp hlast⟩
  · rw [List.concat_eq_append, ← List.cons_append, ← List.append_assoc] at h
    obtain ⟨hbefore, hlast⟩ := List.append_inj' h rfl
    rw [List.concat_eq_append, List.singleton_inj.mp hlast]
    exact .inr ⟨rest, rfl, hbefore⟩

namespace Probe

/-- The port after moves. -/
def run (s : Probe) (history : List Move) : Probe := history.foldl act s

/-- Everything of a kind that comes of moves. -/
def gather {α : Type} (of : Probe → Move → List α) : Probe → List Move → List α
  | _, [] => []
  | s, m :: history => of s m ++ gather of (s.act m) history

/-- **The samples that the loops take over moves.** -/
def samples (s : Probe) (history : List Move) : List (Nat × Conversion) :=
  s.gather (fun s m => (s.sampled m).toList) history

/-- **What the subscribers of the port are told over moves.** -/
def tale (s : Probe) (history : List Move) : List VoltageChange := s.gather told history

/-- **What the loops call over moves.** -/
def calls (s : Probe) (history : List Move) : List Driver.Record := s.gather called history

theorem run_append (s : Probe) (history later : List Move) : s.run (history ++ later) = (s.run history).run later :=
  List.foldl_append

theorem run_snoc (s : Probe) (history : List Move) (m : Move) : s.run (history ++ [m]) = (s.run history).act m :=
  s.run_append history [m]

/-! ## A port to look at -/

/-- An analog pin. -/
def meterPin : Pin := ⟨"A00", 16, [.analog 0 true false]⟩

/-- Two readings in a batch, ten milliseconds apart, and a tenth of a second between two batches. -/
def meterOptions : AnalogOptions := ⟨2, .ofMillis 10, .ofMillis 100, ⟨3.3⟩⟩

/-- The port on that pin. -/
def meterPort : AnalogPort where
  claim := ⟨meterPin, "A00", .analogInput, 0⟩
  converter := .new 4095
  count := 2
  sampleInterval := .ofMillis 10
  updateInterval := .ofMillis 100
  reference := ⟨3.3⟩
  buffer := []
  previous := none
  changes := .ofNotices
  loops := .empty
  running := none
  nextLoop := 0

/-- The hardware on which it was made. -/
def meterHardware : Hardware := ((AnalogPort.create (.new 4095) meterPin meterOptions).run .empty).2

/-- The port when it has just been made. -/
def meter : Probe := ⟨meterHardware, meterPort⟩

theorem run_create_meter :
    (AnalogPort.create (.new 4095) meterPin meterOptions).run .empty = (.ok meterPort, meterHardware) := rfl

end Probe

end Peripherals
