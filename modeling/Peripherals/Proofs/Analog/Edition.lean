import Mathlib.Data.List.Forall2
import Peripherals.Proofs.Analog.Overlap

/-!
# `Proofs.Analog.Edition` — what an analog port publishes is one whole batch

Whatever the order in which loops, callers and readers come to their steps, what a port publishes is one whole batch
after the other (`Gazette.authentic_of_created`). Where one thread runs all tasks, a batch is published before anything
else happens, so that no two publications overlap (`Gazette.matches_prompt`).

* `Gazette.prompt`, `Gazette.Matches` — the steps of a thread that runs all tasks, and what they come to;
* `Gazette.Authentic`, `Gazette.authentic_of_created` — what a new port publishes;
* `Gazette.not_current_overlapping` — where the voltage is ahead of the changes, or they do not follow one another.
-/

namespace Peripherals

/-! ## A port between its writes -/

namespace AnalogPort

/-- What a port has not published yet is its last batch. -/
theorem Moved.published {p p' : AnalogPort} {sampled : Option (Nat × Conversion)} {n : VoltageChange}
    (h : p.Moved p' sampled [n]) : n = ⟨n.new, p.previous⟩ ∧ Voltage.mean? p'.buffer = some n.new ∧
      { p' with buffer := p.buffer, previous := p.previous, changes := p.changes }.publish p'.buffer = p' := by
  cases h with
  | whole hloop v wake throttle hlong mean hmean => exact ⟨rfl, hmean, publish_of_mean hmean⟩

/-- A loop that has taken a sample waits from then on, and for the interval between two batches if it holds nothing. -/
theorem waits_takeSample (p : AnalogPort) (number : Nat) (s : Sampler) (taken : List Voltage) (now wall : Nat)
    (h : Hardware) : ∃ taken' length throttle,
      (p.takeSample number s taken now wall h).1.loops.get? number =
        some ⟨.waiting taken' (now + Duration.ceilMillis length), throttle⟩ ∧
      (taken' = [] → length = (p.takeSample number s taken now wall h).1.updateInterval) := by
  unfold takeSample
  rw [Hardware.run_bind]
  cases hrun : p.sample.run h with
  | mk o h' =>
      cases o with
      | error e => exact ⟨[], p.updateInterval, _, Table.get?_set_self .., fun _ => rfl⟩
      | ok v =>
          dsimp only
          split
          · refine ⟨taken ++ [v], p.sampleInterval, _, Table.get?_set_self .., fun hnone => ?_⟩
            exact absurd hnone (List.append_ne_nil_of_right_ne_nil taken (List.cons_ne_nil v []))
          · refine ⟨[], p.updateInterval, s.throttle, ?_⟩
            unfold publish
            split
            · exact ⟨Table.get?_set_self .., fun _ => rfl⟩
            · exact ⟨Table.get?_set_self .., fun _ => rfl⟩

/-- A loop that has published a batch already waits from then on. -/
theorem rest_poll {p : AnalogPort} {number now : Nat} {late : Bool} {s : Sampler}
    (hdue : p.due? number now late = some s) (wall : Nat) (h : Hardware) {o : Conversion} {n : VoltageChange}
    {told : List VoltageChange} (hmoved : p.Moved (p.poll number now wall late h).1 (some (number, o)) (n :: told)) :
    (p.poll number now wall late h).1.rest number now = (p.poll number now wall late h).1 := by
  have hwaits : ∃ taken length throttle,
      (p.poll number now wall late h).1.loops.get? number =
        some ⟨.waiting taken (now + Duration.ceilMillis length), throttle⟩ ∧
      (taken = [] → length = (p.poll number now wall late h).1.updateInterval) := by
    unfold due? at hdue
    split at hdue
    · next throttle hloop =>
      obtain ⟨lines, hpoll⟩ := poll_fresh hloop now wall late h
      rw [hpoll]
      exact p.waits_takeSample ..
    · next taken wake throttle hloop =>
      split at hdue
      · next hawake =>
        rw [poll_awake hloop hawake.1 hawake.2 wall h]
        exact p.waits_takeSample ..
      · contradiction
    · contradiction
  obtain ⟨taken, length, throttle, hloop, hlength⟩ := hwaits
  generalize (p.poll number now wall late h).1 = p' at hmoved hloop hlength
  -- It holds nothing, since it begins its next batch.
  have hnone : taken = [] := by
    cases hmoved with
    | whole hbefore v wake throttle' hlong mean hmean =>
        have hset := (Table.get?_set_self p.loops number ⟨.waiting [] wake, throttle'⟩).symm.trans hloop
        simp only [Option.some.injEq, Sampler.mk.injEq, Sampler.Stage.waiting.injEq] at hset
        exact hset.1.1.symm
  rw [hlength hnone] at hloop
  unfold rest
  rw [hloop]
  dsimp only
  rw [Table.set_of_get? hloop]

end AnalogPort

namespace Gazette

variable {g g' : Gazette} {steps : List Step} {count : Nat} {samples : List (Nat × Conversion)}
  {tale told : List VoltageChange} {sampled : Option (Nat × Conversion)} {replaced : Option VoltageChange}

/-! ## One thread -/

theorem run_append (g : Gazette) (steps steps' : List Step) : g.run (steps ++ steps') = (g.run steps).run steps' :=
  List.foldl_append

theorem gather_append {α : Type} (of : Gazette → Step → List α) (g : Gazette) (steps steps' : List Step) :
    g.gather of (steps ++ steps') = g.gather of steps ++ (g.run steps).gather of steps' := by
  induction steps generalizing g with
  | nil => rfl
  | cons step rest ih => rw [List.cons_append, gather, ih, gather, List.append_assoc]; rfl

/-- The writes of what a move has to publish. -/
def writes (s : Probe) : Probe.Move → List Step
  | .poll number now wall late =>
    if (s.publication? (.poll number now wall late)).isSome then List.replicate 3 (.write number now) else []
  | _ => []

/-- **The steps of a thread that runs all tasks**: what a move has to publish is published before anything else
happens. -/
def prompt : Probe → List Probe.Move → List Step
  | _, [] => []
  | s, m :: history => .move m :: (writes s m ++ prompt (s.act m) history)

/-- What is told of steps, what they take, and whether publications overlap. -/
structure Matches (g : Gazette) (steps : List Step) (g' : Gazette) (samples : List (Nat × Conversion))
    (tale : List VoltageChange) : Prop where
  run : g.run steps = g'
  samples : g.samples steps = samples
  tale : g.tale steps = tale
  apart : g.Apart steps

theorem Matches.append {steps' : List Step} {g'' : Gazette} {samples' : List (Nat × Conversion)}
    {tale' : List VoltageChange} (h : g.Matches steps g' samples tale) (h' : g'.Matches steps' g'' samples' tale') :
    g.Matches (steps ++ steps') g'' (samples ++ samples') (tale ++ tale') := by
  obtain ⟨rfl, rfl, rfl, hapart⟩ := h
  obtain ⟨rfl, rfl, rfl, hapart'⟩ := h'
  refine ⟨g.run_append .., gather_append .., gather_append .., ?_⟩
  induction steps generalizing g with
  | nil => exact hapart'
  | cons step rest ih => exact ⟨hapart.1, ih hapart.2 hapart'⟩

/-- One step. -/
theorem Matches.single {step : Step} (hact : g.act step = g') (hsampled : g.sampled step = sampled)
    (htold : g.told step = told) (hone : g'.pending.entries.length ≤ 1) :
    g.Matches [step] g' sampled.toList told := by
  subst hact hsampled htold
  refine ⟨rfl, ?_, ?_, hone, trivial⟩
  · exact List.append_nil _
  · exact List.append_nil _

/-- A move, if no publication is under way. -/
theorem matches_idle (s : Probe) (m : Probe.Move) (hone : ((idle s).enlist m).entries.length ≤ 1) :
    (idle s).Matches [.move m] ⟨s.enter m, (idle s).enlist m⟩ (s.sampled m).toList [] := by
  have hfree : (idle s).busy m = false := by cases m <;> rfl
  refine .single (act_free (by rw [hfree]; exact nofun)) ?_ (told_of_same ((idle s).published_move m).2.2) hone
  simp only [Gazette.sampled, hfree, Bool.false_eq_true, if_false]
  rfl

/-- A move that publishes nothing. -/
theorem matches_quiet {s : Probe} {m : Probe.Move} (htold : s.told m = []) :
    (idle s).Matches (.move m :: writes s m) (idle (s.act m)) (s.sampled m).toList [] := by
  have hnone : s.publication? m = none := by rw [Probe.publication?, htold]
  have hwrites : writes s m = [] := by
    cases m with
    | poll number now wall late => simp [writes, hnone]
    | _ => rfl
  have hempty : (idle s).enlist m = Table.empty := by simp [enlist, idle, hnone]
  have henter : s.enter m = s.act m := by
    have hmoved := s.moved_act m
    rw [htold] at hmoved
    unfold Probe.enter
    rw [hmoved.unpublished]
  have hmove := matches_idle s m (by rw [hempty]; exact Nat.zero_le 1)
  rw [hempty, henter] at hmove
  rw [hwrites]
  exact hmove

/-- **The three writes with nothing in between** publish the batch. -/
theorem matches_writes (s : Probe) {batch : List Voltage} {mean : Voltage} (hmean : Voltage.mean? batch = some mean)
    (number now : Nat) :
    Matches ⟨s, Table.empty.set number (.swap batch mean)⟩ (List.replicate 3 (.write number now))
      (idle { s with port := (s.port.publish batch).rest number now }) [] [⟨mean, s.port.previous⟩] := by
  have hempty : ∀ publication, (Table.empty.set number publication).erase number = (Table.empty : Table Nat Publication) :=
    fun publication => by simp [Table.set, Table.erase, Table.empty, Table.insertEntry]
  have hswap : Matches ⟨s, Table.empty.set number (.swap batch mean)⟩ [.write number now]
      ⟨{ s with port := s.port.swap batch }, Table.empty.set number (.replace mean)⟩ [] [] := by
    have hact := act_swap (g := ⟨s, Table.empty.set number (.swap batch mean)⟩) (Table.get?_set_self ..) now
    rw [Table.set_set] at hact
    exact .single hact rfl (told_of_same (by rw [hact]; rfl)) (Nat.le_refl 1)
  have hreplace : Matches ⟨{ s with port := s.port.swap batch }, Table.empty.set number (.replace mean)⟩
      [.write number now] ⟨{ s with port := ((s.port.swap batch).replace mean).2 },
        Table.empty.set number (.announce ⟨mean, s.port.previous⟩)⟩ [] [] := by
    have hact := act_replace (g := ⟨{ s with port := s.port.swap batch }, Table.empty.set number (.replace mean)⟩)
      (Table.get?_set_self ..) now
    rw [Table.set_set] at hact
    exact .single hact rfl (told_of_same (by rw [hact]; rfl)) (Nat.le_refl 1)
  have hannounce : Matches ⟨{ s with port := ((s.port.swap batch).replace mean).2 },
      Table.empty.set number (.announce ⟨mean, s.port.previous⟩)⟩ [.write number now]
      (idle { s with port := (s.port.publish batch).rest number now }) [] [⟨mean, s.port.previous⟩] := by
    have hact := act_announce (g := ⟨{ s with port := ((s.port.swap batch).replace mean).2 },
      Table.empty.set number (.announce ⟨mean, s.port.previous⟩)⟩) (Table.get?_set_self ..) now
    have htold := told_of_sent (by rw [hact]; exact AnalogPort.changes_rest ..)
    rw [hempty] at hact
    rw [AnalogPort.publish_of_mean hmean]
    exact .single hact rfl htold (Nat.zero_le 1)
  exact hswap.append (hreplace.append hannounce)

/-- A move with a batch to publish. -/
theorem matches_publishing {s : Probe} {number now wall : Nat} {late : Bool} {n : VoltageChange}
    {rest : List VoltageChange} (htold : s.told (.poll number now wall late) = n :: rest) :
    (idle s).Matches (.move (.poll number now wall late) :: writes s (.poll number now wall late))
      (idle (s.act (.poll number now wall late))) (s.sampled (.poll number now wall late)).toList (n :: rest) := by
  have hmoved := s.moved_act (.poll number now wall late)
  rw [htold] at hmoved
  obtain ⟨number', o, htaken, rfl⟩ := hmoved.sampled_of_told
  obtain ⟨loop, hdue, heq⟩ := Option.map_eq_some_iff.mp htaken
  obtain ⟨rfl, -⟩ := Prod.mk.inj heq
  rw [htaken] at hmoved
  obtain ⟨hchange, hmean, hport⟩ := hmoved.published
  let m : Probe.Move := .poll number now wall late
  have hwrites : writes s m = List.replicate 3 (.write number now) := by
    simp [writes, m, Probe.publication?, htold, htaken]
  have henlist : (idle s).enlist m = Table.empty.set number (.swap (s.act m).port.buffer n.new) := by
    simp [enlist, idle, m, Probe.publication?, htold, htaken]
  have hmove := matches_idle s m (by rw [henlist]; exact Nat.le_refl 1)
  have hpublished := matches_writes (s.enter m) hmean number now
  -- The move has the loop wait from the same moment as the last write does.
  have hrest : ((s.enter m).port.publish (s.act m).port.buffer).rest number now = (s.act m).port :=
    (congrArg (AnalogPort.rest · number now) hport).trans (AnalogPort.rest_poll hdue wall s.hardware hmoved)
  have hold : (⟨n.new, (s.enter m).port.previous⟩ : VoltageChange) = n := hchange.symm
  rw [henlist] at hmove
  rw [hrest, hold] at hpublished
  have hall := hmove.append hpublished
  rw [List.append_nil, List.nil_append] at hall
  show (idle s).Matches (.move m :: writes s m) (idle (s.act m)) (s.sampled m).toList [n]
  rw [hwrites]
  exact hall

/-- **On one thread a move and what it publishes are one.** -/
theorem matches_move (s : Probe) (m : Probe.Move) :
    (idle s).Matches (.move m :: writes s m) (idle (s.act m)) (s.sampled m).toList (s.told m) := by
  cases htold : s.told m with
  | nil => exact matches_quiet htold
  | cons n rest =>
      have hmoved := s.moved_act m
      rw [htold] at hmoved
      obtain ⟨number, o, hsampled, -⟩ := hmoved.sampled_of_told
      cases m with
      | poll number now wall late => exact matches_publishing htold
      | _ => contradiction

theorem matches_prompt (s : Probe) (history : List Probe.Move) :
    (idle s).Matches (prompt s history) (idle (s.run history)) (s.samples history) (s.tale history) := by
  induction history generalizing s with
  | nil => exact ⟨rfl, rfl, rfl, trivial⟩
  | cons m history ih => exact (matches_move s m).append (ih (s.act m))

/-! ## What a new port publishes -/

/-- The conversions of a port stay what they are. -/
theorem Acted.conversion (h : g.Acted g' sampled replaced told) : g'.port.conversion = g.port.conversion := by
  cases h with
  | same => rfl
  | moved hardware hmoved => exact hmoved.conversion
  | begun hardware hfree hmoved => exact hmoved.conversion
  | swapped hpending => rfl
  | replaced hpending => rfl
  | announced now hpending => exact AnalogPort.conversion_rest ..

/-- What the loops call in a step is the conversion of the sample that one of them takes. -/
theorem converted_act (g : Gazette) (step : Step) :
    List.Forall₂ (fun x r => g.port.Converted x.2 r) (g.sampled step).toList (g.called step) := by
  cases step with
  | write number now => exact .nil
  | move m =>
      simp only [Gazette.sampled, called]
      by_cases hbusy : g.busy m
      · simp only [hbusy, if_true]
        exact .nil
      · simp only [hbusy, Bool.false_eq_true, if_false]
        have hcalled := g.probe.called_act m
        cases hsampled : g.probe.sampled m with
        | none =>
            rw [hsampled] at hcalled
            rw [hcalled]
            exact .nil
        | some x =>
            rw [hsampled] at hcalled
            obtain ⟨r, hr, hconverted⟩ := hcalled
            rw [hr]
            exact .cons hconverted .nil

/-- **Each sample is one conversion, and there are no others.** By induction on the steps; the pin of the port stays
what it is. -/
theorem converted (g : Gazette) (steps : List Step) :
    List.Forall₂ (fun x r => g.port.Converted x.2 r) (g.samples steps) (g.calls steps) := by
  suffices h : ∀ g' : Gazette, g'.port.conversion = g.port.conversion →
      List.Forall₂ (fun x r => g.port.Converted x.2 r) (g'.samples steps) (g'.calls steps) from h g rfl
  induction steps with
  | nil => exact fun _ _ => .nil
  | cons step rest ih =>
      intro g' hsame
      refine List.rel_append ?_ (ih (g'.act step) ((g'.acted_act step).conversion.trans hsame))
      have hstep := g'.converted_act step
      simp only [AnalogPort.Converted, hsame] at hstep
      exact hstep

/-- **What an analog port publishes**, if `p` is the port that was made. -/
structure Authentic (p : AnalogPort) (count : Nat) (g : Gazette) (steps : List Step) : Prop where
  /-- The samples that the loops take are their conversions, one by one. -/
  converted : List.Forall₂ (fun x r => p.Converted x.2 r) (g.samples steps) (g.calls steps)
  /-- The buffer holds readings that some loop took as one whole batch, or else it is empty and nothing has been
  told. -/
  buffer : WholeBatch count (g.samples steps) (g.run steps).port.buffer ∨
    ((g.run steps).port.buffer = [] ∧ g.ledger steps = [] ∧ g.tale steps = [])
  /-- The voltage of the port is the mean of the buffer. -/
  voltage : (g.run steps).port.voltage? = Voltage.mean? (g.run steps).port.buffer
  /-- A move publishes nothing by itself: not the sample of a batch that is to go on, nor one that fails, nor the end of
  a loop in the middle of a batch, nor a reading on demand. -/
  untouched : ∀ m, ((g.run steps).act (.move m)).port.buffer = (g.run steps).port.buffer ∧
    ((g.run steps).act (.move m)).port.previous = (g.run steps).port.previous ∧ (g.run steps).told (.move m) = []
  /-- Only the last reading of a whole batch leaves the loop with something to publish: that batch. -/
  begun : ∀ m, ((g.run steps).act (.move m)).pending = (g.run steps).pending ∨
    ∃ number v batch mean, (g.run steps).sampled (.move m) = some (number, .ok v) ∧ batch.length = count ∧
      Underway count (ofLoop number (g.samples (steps ++ [.move m]))) batch ∧ Voltage.mean? batch = some mean ∧
      ((g.run steps).act (.move m)).pending = (g.run steps).pending.set number (.swap batch mean)
  /-- A mean that takes the place of another one is that of a whole batch. -/
  means : ∀ n ∈ g.ledger steps, OfBatch count (g.samples steps) n.new
  /-- Each of these changes begins where the one before it ended, and the first one with nothing, -/
  chained : Chained (g.ledger steps)
  /-- and each of them is told once, or is left to be told. -/
  once : (g.tale steps ++ outgoing (g.run steps).pending).Perm (g.ledger steps)
  /-- If no two publications overlap, the changes follow one another as they are told. The voltage of the port is the
  mean that was told last, or that of the publication under way. -/
  apart : g.Apart steps → Chained (g.tale steps) ∧
    ((g.run steps).port.voltage? = (g.tale steps).getLast?.map (·.new) ∨
      ∃ number publication, (g.run steps).pending.get? number = some publication ∧
        (g.run steps).port.voltage? = some publication.mean)

/-- What a move leaves to be published. -/
theorem begun_of_collected (h : Collected count samples g.port) (m : Probe.Move) :
    (g.act (.move m)).pending = g.pending ∨
    ∃ number v batch mean, g.sampled (.move m) = some (number, .ok v) ∧ batch.length = count ∧
      Underway count (ofLoop number (samples ++ [(number, .ok v)])) batch ∧ Voltage.mean? batch = some mean ∧
      (g.act (.move m)).pending = g.pending.set number (.swap batch mean) := by
  by_cases hbusy : g.busy m
  · exact .inl (by rw [act_busy hbusy])
  · rw [act_free hbusy]
    simp only [Gazette.sampled, hbusy, Bool.false_eq_true, if_false, enlist, Probe.publication?]
    rcases h.publishes (g.probe.moved_act m) with ⟨number, v, mean, hsampled, hlength, hbatch, hmean, htold⟩ | htold
    · rw [htold, hsampled]
      exact .inr ⟨number, v, _, mean, rfl, hlength, hbatch, hmean, rfl⟩
    · rw [htold]
      exact .inl rfl

theorem authentic_of_idle {s : Probe} (hcollected : Collected count [] s.port) (hprevious : s.port.previous = none)
    (hbuffer : s.port.buffer = []) (steps : List Step) : (idle s).Authentic s.port count steps := by
  have hkept : (idle s).Kept count [] [] :=
    { collected := hcollected
      previous := hprevious
      chained := chained_nil
      buffer := .inr ⟨hbuffer, rfl, nofun⟩
      means := nofun
      backed := nofun }
  have hsettled : (idle s).Settled [] := by
    refine ⟨chained_nil, ?_, hprevious⟩
    show s.port.previous = Voltage.mean? s.port.buffer
    rw [hprevious, hbuffer]
    rfl
  have hrun := hkept.run steps
  have honce := (idle s).delivered steps
  simp only [List.nil_append] at hrun
  refine
    { converted := (idle s).converted steps
      buffer := hrun.buffer.imp_right fun hblank => ⟨hblank.buffer, hblank.ledger, ?_⟩
      voltage := rfl
      untouched := fun m => ?_
      begun := fun m => ?_
      means := hrun.means
      chained := hrun.chained
      once := honce
      apart := fun hapart => ?_ }
  · -- No mean has taken the place of another one, so no change has been told.
    rw [hblank.ledger] at honce
    exact (List.append_eq_nil_iff.mp honce.eq_nil).1
  · obtain ⟨hbuffer, hprevious, hchanges⟩ := ((idle s).run steps).published_move m
    exact ⟨hbuffer, hprevious, told_of_same hchanges⟩
  · rcases begun_of_collected hrun.collected m with hsame | ⟨number, v, batch, mean, hsampled, hlength, hbatch, hbegun⟩
    · exact .inl hsame
    · refine .inr ⟨number, v, batch, mean, hsampled, hlength, ?_, hbegun⟩
      rw [Gazette.samples, gather_append]
      simp only [gather, hsampled, Option.toList_some, List.append_nil]
      exact hbatch
  · have hapart' := hsettled.run hkept hapart
    exact ⟨hapart'.chained, hapart'.voltage⟩

/-- **What an analog port publishes is one whole batch**, on whatever hardware, with loops started and told to stop at
any moments, readings on demand, and each of the three writes of a publication at any moment after the one before it. No
two publications overlap if nobody starts a loop before the last stop has returned, nor on one thread, where a move and
what it publishes are one. -/
theorem authentic_of_created {converter : Converter} {pin : Pin} {options : AnalogOptions} {p : AnalogPort}
    {h h' : Hardware} (hmade : (AnalogPort.create converter pin options).run h = (.ok p, h')) :
    (∀ steps, (idle ⟨h', p⟩).Authentic p options.count steps) ∧
    (∀ steps, (idle ⟨h', p⟩).Patient steps → (idle ⟨h', p⟩).Apart steps) ∧
    ∀ history, (idle ⟨h', p⟩).Matches (prompt ⟨h', p⟩ history) (idle (Probe.run ⟨h', p⟩ history))
      (Probe.samples ⟨h', p⟩ history) (Probe.tale ⟨h', p⟩ history) := by
  obtain ⟨-, claim, hport⟩ := AnalogPort.create_eq_ok hmade
  have hcollected := Collected.of_create hmade
  refine ⟨authentic_of_idle (s := ⟨h', p⟩) hcollected (by rw [hport]) (by rw [hport]), fun steps => ?_,
    fun history => matches_prompt _ history⟩
  refine apart_of_patient ⟨fun k n hk _ => ?_, nofun⟩
  rw [hport] at hk
  contradiction

/-! ### A batch, and a stop in the middle of the next one -/

/-- A loop takes both readings of a batch, and one of the next batch before it comes to know that it was told to
stop. -/
def interrupted : List Probe.Move :=
  [.start true none 0, .poll 0 0 0 false, .poll 0 10 0 false, .poll 0 110 0 false, .stop, .poll 0 120 0 false]

/-- Three readings have been taken, and two of them are published. -/
theorem authentic_of_created_interrupted :
    (AnalogPort.create (.new 4095) Probe.meterPin Probe.meterOptions).run .empty =
      (.ok Probe.meterPort, Probe.meterHardware) ∧
    ((idle Probe.meter).samples (prompt Probe.meter interrupted)).length = 3 ∧
    WholeBatch 2 ((idle Probe.meter).samples (prompt Probe.meter interrupted))
      ((idle Probe.meter).run (prompt Probe.meter interrupted)).port.buffer ∧
    ((idle Probe.meter).tale (prompt Probe.meter interrupted)).length = 1 ∧
    Chained ((idle Probe.meter).tale (prompt Probe.meter interrupted)) ∧
    ((idle Probe.meter).run (prompt Probe.meter interrupted)).port.loops.get? 0 = none := by
  obtain ⟨hauthentic, -, hthread⟩ := authentic_of_created Probe.run_create_meter
  have hpublished := hauthentic (prompt Probe.meter interrupted)
  have hmatches := hthread interrupted
  have htold : ((idle Probe.meter).tale (prompt Probe.meter interrupted)).length = 1 := by
    rw [show (idle Probe.meter).tale (prompt Probe.meter interrupted) = _ from hmatches.tale]
    rfl
  refine ⟨Probe.run_create_meter, ?_, hpublished.buffer.resolve_right ?_, htold,
    (hpublished.apart hmatches.apart).1, ?_⟩
  · rw [show (idle Probe.meter).samples (prompt Probe.meter interrupted) = _ from hmatches.samples]
    rfl
  · rintro ⟨-, -, hnone⟩
    have hempty : (idle Probe.meter).tale (prompt Probe.meter interrupted) = [] := hnone
    rw [hempty] at htold
    contradiction
  · rw [show (idle Probe.meter).run (prompt Probe.meter interrupted) = _ from hmatches.run]
    rfl

/-! ### Publications that overlap -/

/-- **The voltage of the port is the mean that was told last, and each change begins where the one before it ended.** -/
def Current (g : Gazette) (steps : List Step) : Prop :=
  (g.run steps).port.voltage? = (g.tale steps).getLast?.map (·.new) ∧ Chained (g.tale steps)

/-- A batch has become the buffer, and nothing more of it is published. -/
def swapped : List Step :=
  [.move (.start true none 0), .move (.poll 0 0 0 false), .move (.poll 0 10 0 false), .write 0 10]

/-- A loop is told to stop while it publishes a batch, and another one is started. It publishes one as well, and is the
first to tell. -/
def overlapping : List Step :=
  [.move (.start true none 0), .move (.poll 0 0 0 false), .move (.poll 0 10 0 false), .move .stop,
    .move (.start true none 0), .move (.poll 1 10 0 false), .move (.poll 1 20 0 false),
    .write 0 20, .write 0 20, .write 1 20, .write 1 20, .write 1 20, .write 0 20]

/-- A loop publishes many batches. -/
def plenty : List Probe.Move :=
  .start true none 0 :: (List.range 66).map fun n => .poll 0 (n * 100) 0 false

/-- **They need not be.** A reader may look at the buffer before the change is told. Of two loops, the one that was told
to stop may tell its change after the one that has taken the place of its mean. And on one thread a subscriber that does
not read in time loses the first change, and begins with one that has another before it. -/
theorem not_current_overlapping :
    (((idle Probe.meter).tale swapped = [] ∧ ((idle Probe.meter).run swapped).port.voltage?.isSome) ∧
      ¬ (idle Probe.meter).Current swapped) ∧
    (((idle Probe.meter).run overlapping).pending.entries = [] ∧
      ((idle Probe.meter).tale overlapping).map (·.old.isSome) = [true, false] ∧
      ¬ (idle Probe.meter).Current overlapping) ∧
    ((Probe.meter.tale plenty).length = 33 ∧
      (Probe.meter.run plenty).port.changes.receive 0 = some (.lagged 1, 1)) := by
  refine ⟨⟨⟨rfl, rfl⟩, fun h => ?_⟩, ⟨rfl, rfl, fun h => ?_⟩, ?_, ?_⟩
  · have hnone : ((idle Probe.meter).run swapped).port.voltage? = none := h.1
    have hsome : ((idle Probe.meter).run swapped).port.voltage?.isSome := rfl
    rw [hnone] at hsome
    contradiction
  · have hfirst : ∃ n m, (idle Probe.meter).tale overlapping = [n, m] ∧ n.old.isSome := ⟨_, _, rfl, rfl⟩
    obtain ⟨n, m, htale, hold⟩ := hfirst
    have hnone := h.2 [] n [m] htale
    rw [hnone] at hold
    contradiction
  · decide +kernel
  · have holdest : (Probe.meter.run plenty).port.changes.oldest = 1 := by decide +kernel
    simp [Broadcast.receive, holdest]

end Gazette

end Peripherals
