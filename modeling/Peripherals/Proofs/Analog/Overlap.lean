import Peripherals.Proofs.Analog.Gazette
import Peripherals.Proofs.Analog.Switching

/-!
# `Proofs.Analog.Overlap` — publications that do not overlap

The writes of a publication are made one by one, and so the changes that are told need not follow one another, and the
voltage of a port need not be the mean that was told last. They do, and it is, if no more than one publication is under
way at any time; then the voltage is at most one change ahead (`Gazette.Settled`). And that is so if nobody starts a
loop before the last stop has returned, since then there is never more than one loop (`Gazette.apart_of_patient`).

* `Gazette.Apart`, `Gazette.Settled` — publications that do not overlap;
* `Gazette.Patient`, `Gazette.Sole` — one loop after the other.
-/

namespace Peripherals

/-- A loop that waits anew is the same loop. -/
theorem AnalogPort.isSome_get?_rest (p : AnalogPort) (number now n : Nat) :
    ((p.rest number now).loops.get? n).isSome = (p.loops.get? n).isSome := by
  unfold rest
  split
  · next taken wake throttle hloop =>
    rw [Table.get?_set]
    split
    · next heq => rw [← heq, hloop, Option.isSome_some, Option.isSome_some]
    · rfl
  · rfl

namespace Gazette

variable {g g' : Gazette} {steps : List Step} {count : Nat} {samples : List (Nat × Conversion)}
  {ledger tale told : List VoltageChange} {sampled : Option (Nat × Conversion)} {replaced : Option VoltageChange}

/-! ## Publications that do not overlap -/

/-- **No two publications overlap.** -/
def Apart : Gazette → List Step → Prop
  | _, [] => True
  | g, step :: rest => (g.act step).pending.entries.length ≤ 1 ∧ Apart (g.act step) rest

/-- **What the buffer, the mean and the changes told have to do with each other**, while no more than one publication is
under way. -/
def Fits (buffer : List Voltage) (previous : Option Voltage) (tale : List VoltageChange) :
    List (Nat × Publication) → Prop
  | [] | [(_, .swap _ _)] => previous = Voltage.mean? buffer ∧ previous = tale.getLast?.map (·.new)
  | [(_, .replace mean)] => Voltage.mean? buffer = some mean ∧ previous = tale.getLast?.map (·.new)
  | [(_, .announce change)] =>
    Voltage.mean? buffer = some change.new ∧ previous = some change.new ∧ change.old = tale.getLast?.map (·.new)
  | _ :: _ :: _ => False

/-- What holds between two steps, if no two publications overlap. -/
structure Settled (tale : List VoltageChange) (g : Gazette) : Prop where
  chained : Chained tale
  fits : Fits g.port.buffer g.port.previous tale g.pending.entries

namespace Settled

variable {number : Nat} {publication : Publication}

/-- The publication under way is the only one. -/
theorem entries_eq (h : g.Settled tale) (hpending : g.pending.get? number = some publication) :
    g.pending.entries = [(number, publication)] := by
  have hmem := Table.get?_eq_some_iff.mp hpending
  have hfits := h.fits
  cases hentries : g.pending.entries with
  | nil =>
      rw [hentries] at hmem
      contradiction
  | cons e rest =>
      cases rest with
      | nil =>
          rw [hentries] at hmem
          rw [List.mem_singleton.mp hmem]
      | cons e' rest =>
          rw [hentries] at hfits
          simp only [Fits] at hfits

/-- Another one is left to the same loop. -/
theorem entries_set (h : g.Settled tale) (hpending : g.pending.get? number = some publication)
    (publication' : Publication) : (g.pending.set number publication').entries = [(number, publication')] := by
  simp [Table.set, h.entries_eq hpending, Table.insertEntry]

/-- **A step with no more than one publication under way.** -/
theorem acted (h : g.Settled tale) (hkept : g.Kept count samples ledger) (hacted : g.Acted g' sampled replaced told)
    (hone : g'.pending.entries.length ≤ 1) : g'.Settled (tale ++ told) := by
  have hfits := h.fits
  cases hacted with
  | same =>
      rw [List.append_nil]
      exact h
  | @moved p sampled hardware hmoved =>
      rw [List.append_nil]
      refine ⟨h.chained, ?_⟩
      show Fits p.buffer p.previous tale g.pending.entries
      rw [← hmoved.unpublished]
      exact hfits
  | @begun p number o mean old hardware hfree hmoved =>
      -- There was no publication under way, or there would be two now.
      have hperm := g.pending.entries_set_perm number (.swap p.buffer mean)
      rw [Table.entries_erase_of_get? hfree] at hperm
      have hlength : (g.pending.set number (.swap p.buffer mean)).entries.length = g.pending.entries.length + 1 :=
        hperm.length_eq
      have hfew : (g.pending.set number (.swap p.buffer mean)).entries.length ≤ 1 := hone
      have hempty : g.pending.entries = [] := List.eq_nil_of_length_eq_zero (by omega)
      rw [List.append_nil]
      refine ⟨h.chained, ?_⟩
      rw [hempty] at hperm hfits
      show Fits g.port.buffer g.port.previous tale (g.pending.set number (.swap p.buffer mean)).entries
      rw [List.perm_singleton.mp hperm]
      exact hfits
  | @swapped number batch mean hpending =>
      -- From here on the buffer is ahead of the mean, until that takes the place of the one before.
      rw [List.append_nil]
      refine ⟨h.chained, ?_⟩
      rw [h.entries_eq hpending] at hfits
      show Fits batch g.port.previous tale (g.pending.set number (.replace mean)).entries
      rw [h.entries_set hpending]
      exact ⟨(hkept.backed _ _ hpending).2, hfits.2⟩
  | @replaced number mean hpending =>
      rw [List.append_nil]
      refine ⟨h.chained, ?_⟩
      rw [h.entries_eq hpending] at hfits
      show Fits g.port.buffer (some mean) tale (g.pending.set number (.announce ⟨mean, g.port.previous⟩)).entries
      rw [h.entries_set hpending]
      exact ⟨hfits.1, rfl, hfits.2⟩
  | @announced number change now hpending =>
      rw [h.entries_eq hpending] at hfits
      obtain ⟨hbuffer, hprevious, hold⟩ := hfits
      -- The change began where the last one told had ended, since no other has been told meanwhile.
      refine ⟨h.chained.snoc hold, ?_⟩
      have hempty : (g.pending.erase number).entries = [] := by simp [Table.erase, h.entries_eq hpending]
      have hport : Fits g.port.buffer g.port.previous (tale ++ [change]) [] := by
        refine ⟨hprevious.trans hbuffer.symm, ?_⟩
        rw [hprevious, List.getLast?_concat]
        rfl
      show Fits ((g.port.announce change).rest number now).buffer ((g.port.announce change).rest number now).previous
        (tale ++ [change]) (g.pending.erase number).entries
      rw [hempty, AnalogPort.buffer_rest, AnalogPort.previous_rest]
      exact hport

/-- By induction on the steps. -/
theorem run (h : g.Settled tale) (hkept : g.Kept count samples ledger) (hapart : g.Apart steps) :
    (g.run steps).Settled (tale ++ g.tale steps) := by
  induction steps generalizing g samples ledger tale with
  | nil =>
      show g.Settled (tale ++ [])
      rw [List.append_nil]
      exact h
  | cons step rest ih =>
      obtain ⟨hone, hrest⟩ := hapart
      have hacted := g.acted_act step
      have hsettled := ih (h.acted hkept hacted hone) (hkept.acted hacted) hrest
      rw [List.append_assoc] at hsettled
      exact hsettled

/-- The voltage of the port is the mean that was told last, or the one that is to be told next. -/
theorem voltage (h : g.Settled tale) : g.port.voltage? = tale.getLast?.map (·.new) ∨
    ∃ number publication, g.pending.get? number = some publication ∧ g.port.voltage? = some publication.mean := by
  have hfits := h.fits
  simp only [AnalogPort.voltage?, Table.get?_eq_some_iff]
  cases hentries : g.pending.entries with
  | nil =>
      rw [hentries] at hfits
      exact .inl (hfits.1.symm.trans hfits.2)
  | cons e rest =>
      obtain ⟨number, publication⟩ := e
      rw [hentries] at hfits
      cases rest with
      | nil =>
          cases publication with
          | swap batch mean => exact .inl (hfits.1.symm.trans hfits.2)
          | replace mean => exact .inr ⟨number, _, List.mem_singleton_self _, hfits.1⟩
          | announce change => exact .inr ⟨number, _, List.mem_singleton_self _, hfits.1⟩
      | cons e' rest => simp only [Fits] at hfits

end Settled

/-! ## One loop after the other -/

/-- **Nobody starts a loop before the last stop has returned.** -/
def Patient : Gazette → List Step → Prop
  | _, [] => True
  | g, step :: rest =>
    (∀ runtime interval wall, step = .move (.start runtime interval wall) → g.port.Calm) ∧ Patient (g.act step) rest

/-- There is no more than one loop, and publications are made by loops. -/
structure Sole (g : Gazette) : Prop where
  one : ∀ m n, (g.port.loops.get? m).isSome → (g.port.loops.get? n).isSome → m = n
  pending : ∀ n, (g.pending.get? n).isSome → (g.port.loops.get? n).isSome

theorem Sole.length_le (h : g.Sole) : g.pending.entries.length ≤ 1 := by
  have hnodup := g.pending.nodup_keys
  have hloop : ∀ e ∈ g.pending.entries, (g.port.loops.get? e.1).isSome := fun e he =>
    h.pending e.1 (Option.isSome_iff_exists.mpr ⟨e.2, Table.get?_eq_some_iff.mpr he⟩)
  cases hentries : g.pending.entries with
  | nil => exact Nat.zero_le 1
  | cons e rest =>
      cases rest with
      | nil => exact Nat.le_refl 1
      | cons e' rest =>
          rw [hentries] at hnodup hloop
          have hne : e.1 ≠ e'.1 := by
            intro heq
            simp [heq] at hnodup
          exact absurd (h.one _ _ (hloop e (by simp)) (hloop e' (by simp))) hne

/-- The publications after a move, if it is no turn of a loop that has one under way. -/
theorem isSome_enlist {m : Probe.Move} {n : Nat} (h : ((g.enlist m).get? n).isSome) :
    (g.pending.get? n).isSome ∨ ∃ o, g.probe.sampled m = some (n, o) := by
  unfold enlist Probe.publication? at h
  cases htold : g.probe.told m with
  | nil =>
      rw [htold] at h
      exact .inl h
  | cons c rest =>
      rw [htold] at h
      cases hsampled : g.probe.sampled m with
      | none =>
          rw [hsampled] at h
          exact .inl h
      | some x =>
          rw [hsampled] at h
          simp only [Option.map_some, Table.get?_set] at h
          split at h
          · next hn => exact .inr ⟨x.2, by rw [← hn]⟩
          · exact .inl h

/-- A move in which no loop takes a sample. -/
theorem enlist_of_not_sampled {m : Probe.Move} (h : g.probe.sampled m = none) : g.enlist m = g.pending := by
  unfold enlist Probe.publication?
  rw [h]
  cases g.probe.told m with
  | nil => rfl
  | cons n rest => rfl

/-- Nothing has become of the loops. -/
theorem Sole.of_loops_eq (h : g.Sole) (hloops : ∀ n, (g'.port.loops.get? n).isSome = (g.port.loops.get? n).isSome)
    (hpending : ∀ n, (g'.pending.get? n).isSome → (g.pending.get? n).isSome) : g'.Sole := by
  refine ⟨fun k n hk hn => ?_, fun n hn => ?_⟩
  · rw [hloops] at hk hn
    exact h.one k n hk hn
  · rw [hloops]
    exact h.pending n (hpending n hn)

/-- The loop that makes a publication goes on with it. -/
theorem isSome_get?_set {pending : Table Nat Publication} {number : Nat} {publication : Publication}
    (h : pending.get? number = some publication) (publication' : Publication) (n : Nat)
    (hn : ((pending.set number publication').get? n).isSome) : (pending.get? n).isSome := by
  rw [Table.get?_set] at hn
  split at hn
  · next heq => rw [← heq, h]; rfl
  · exact hn

/-- A loop is started while there is none. -/
theorem Sole.started (h : g.Sole) (hcalm : g.port.Calm) (runtime : Bool) (interval : Option Duration) (wall : Nat)
    (hloops : g'.port.loops = (g.port.started runtime interval wall).loops) (hpending : g'.pending = g.pending) :
    g'.Sole := by
  have hkept : ∀ n, (g'.pending.get? n).isSome → (g.pending.get? n).isSome := fun n hn => hpending ▸ hn
  by_cases hsampling : g.port.isSampling
  · rw [AnalogPort.started_of_sampling hsampling] at hloops
    exact h.of_loops_eq (fun n => by rw [hloops]) hkept
  · cases runtime with
    | false =>
        rw [AnalogPort.started_of_no_runtime] at hloops
        exact h.of_loops_eq (fun n => by rw [hloops]) hkept
    | true =>
        have hnone : g.port.running = none := by simpa [AnalogPort.isSampling] using hsampling
        have hgone : ∀ n, g.port.loops.get? n = none := fun n => by
          cases hloop : g.port.loops.get? n with
          | none => rfl
          | some s =>
              have hrunning := hcalm n s hloop
              rw [hnone] at hrunning
              contradiction
        have hset : g'.port.loops = g.port.loops.set g.port.nextLoop ⟨.fresh, .ofLoop wall⟩ := by
          rw [hloops]
          unfold AnalogPort.started AnalogPort.start
          rw [if_neg hsampling]
          rfl
        have honly : ∀ n, (g'.port.loops.get? n).isSome → g.port.nextLoop = n := by
          intro n hn
          rw [hset, Table.get?_set] at hn
          split at hn
          · next heq => exact heq
          · rw [hgone] at hn
            contradiction
        refine ⟨fun k n hk hn => (honly k hk).symm.trans (honly n hn), fun n hn => ?_⟩
        -- A publication under way would have a loop, and there was none.
        have hloop := h.pending n (hkept n hn)
        rw [hgone] at hloop
        contradiction

/-- A loop takes a turn. -/
theorem Sole.polled (h : g.Sole) {number now wall : Nat} {late : Bool} (hfree : ¬ g.busy (.poll number now wall late)) :
    Sole ⟨g.probe.enter (.poll number now wall late), g.enlist (.poll number now wall late)⟩ := by
  have hloops : (g.probe.enter (.poll number now wall late)).port.loops =
      (g.port.poll number now wall late g.probe.hardware).1.loops := rfl
  -- It does not make another one.
  have hold : ∀ n, ((g.probe.enter (.poll number now wall late)).port.loops.get? n).isSome →
      (g.port.loops.get? n).isSome := by
    intro n hn
    rw [hloops] at hn
    by_cases hne : number = n
    · subst hne
      cases hgone : g.port.loops.get? number with
      | some s => rfl
      | none =>
          rw [AnalogPort.poll_over hgone, hgone] at hn
          contradiction
    · rw [AnalogPort.get?_poll_of_ne hne] at hn
      exact hn
  refine ⟨fun k n hk hn => h.one k n (hold k hk) (hold n hn), fun n hn => ?_⟩
  rcases isSome_enlist hn with hpending | ⟨o, hsampled⟩
  · -- The turn is that of another loop.
    have hne : number ≠ n := by
      rintro rfl
      exact hfree hpending
    show ((g.probe.enter (.poll number now wall late)).port.loops.get? n).isSome
    rw [hloops, AnalogPort.get?_poll_of_ne hne]
    exact h.pending n hpending
  · -- The publication is that of this turn, whose loop waits after its sample.
    have hmoved := g.probe.moved_act (.poll number now wall late)
    rw [hsampled] at hmoved
    obtain ⟨taken, wake, throttle, hwaits⟩ := hmoved.waits_of_sampled
    show ((g.probe.act (.poll number now wall late)).port.loops.get? n).isSome
    rw [hwaits]
    rfl

/-- **One loop after the other.** A step does not make a second one, unless it starts one while a stop is under way. -/
theorem Sole.act (h : g.Sole) (step : Step)
    (hcalm : ∀ runtime interval wall, step = .move (.start runtime interval wall) → g.port.Calm) : (g.act step).Sole := by
  cases step with
  | move m =>
      by_cases hbusy : g.busy m
      · rw [act_busy hbusy]
        exact h
      · rw [act_free hbusy]
        cases m with
        | start runtime interval wall =>
            exact h.started (hcalm runtime interval wall rfl) runtime interval wall rfl (enlist_of_not_sampled rfl)
        | poll number now wall late => exact h.polled hbusy
        | stop => exact h.of_loops_eq (fun _ => rfl) fun _ hn => (isSome_enlist hn).resolve_right nofun
        | read reading now => exact h.of_loops_eq (fun _ => rfl) fun _ hn => (isSome_enlist hn).resolve_right nofun
        | arrange hardware => exact h.of_loops_eq (fun _ => rfl) fun _ hn => (isSome_enlist hn).resolve_right nofun
  | write number now =>
      cases hpending : g.pending.get? number with
      | none =>
          rw [act_idling hpending]
          exact h
      | some publication =>
          cases publication with
          | swap batch mean =>
              rw [act_swap hpending]
              exact h.of_loops_eq (fun _ => rfl) (isSome_get?_set hpending _)
          | replace mean =>
              rw [act_replace hpending]
              exact h.of_loops_eq (fun _ => rfl) (isSome_get?_set hpending _)
          | announce change =>
              rw [act_announce hpending]
              refine h.of_loops_eq (fun n => AnalogPort.isSome_get?_rest ..) fun n hn => ?_
              rw [Table.get?_erase] at hn
              split at hn
              · contradiction
              · exact hn

/-- **Publications do not overlap if nobody starts a loop before the last stop has returned.** -/
theorem apart_of_patient (h : g.Sole) (hpatient : g.Patient steps) : g.Apart steps := by
  induction steps generalizing g with
  | nil => trivial
  | cons step rest ih =>
      have hstep := h.act step hpatient.1
      exact ⟨hstep.length_le, ih hstep hpatient.2⟩

end Gazette

end Peripherals
