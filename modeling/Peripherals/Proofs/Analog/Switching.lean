import Mathlib.Data.List.Induction
import Peripherals.Proofs.Analog.Probe

/-!
# `Proofs.Analog.Switching` — starting and stopping the loop of an analog port

A start while a loop runs does nothing, not even to the interval that it names, and so does a stop while none runs. A
stop that is not needless only tells the loop; it returns when the loop is over. As long as nobody calls before the last
stop has returned, there is never more than one loop, and none at all after a stop has returned.

* `Probe.needed` — a history without the starts and stops that were needless when they were made;
* `Probe.Orderly` — a history in which no call is made before the last stop has returned;
* `Probe.gone_of_polled` — a stop returns, once the loop has come to its turns;
* `Probe.sampling_started_and_stopped` — what starts and stops do, over every history.
-/

namespace Peripherals

open Hardware

namespace AnalogPort

variable {p : AnalogPort}

/-- A start while a loop runs. -/
theorem started_of_sampling (h : p.isSampling) (runtime : Bool) (interval : Option Duration) (wall : Nat) :
    p.started runtime interval wall = p := by
  unfold started start
  rw [if_pos h]

/-- A start while no loop runs, where there is nothing to run it. -/
theorem started_of_no_runtime (interval : Option Duration) (wall : Nat) : p.started false interval wall = p := by
  unfold started start
  by_cases h : p.isSampling
  · rw [if_pos h]
  · rw [if_neg h]
    rfl

/-- A stop while no loop runs. -/
theorem stop_of_not_sampling (h : ¬ p.isSampling) : p.stop = p := by
  have hnone : p.running = none := by simpa [isSampling] using h
  unfold stop
  rw [← hnone]

theorem isSampling_started (runtime : Bool) (interval : Option Duration) (wall : Nat) :
    (p.started runtime interval wall).isSampling = (p.isSampling || runtime) := by
  by_cases h : p.isSampling
  · rw [started_of_sampling h, h, Bool.true_or]
  · cases runtime with
    | false => rw [started_of_no_runtime, Bool.or_false]
    | true =>
        rw [Bool.or_true]
        unfold started start
        rw [if_neg h]
        rfl

/-- A sample does not decide which loop runs. -/
theorem Moved.running_of_sampled {p' : AnalogPort} {x : Nat × Conversion} {told : List VoltageChange}
    (h : p.Moved p' (some x) told) : p'.running = p.running := by
  cases h with
  | _ => rfl

/-- A sample of a loop leaves the other loops where they stand. -/
theorem Moved.get?_of_sampled {p' : AnalogPort} {number n : Nat} {o : Conversion} {told : List VoltageChange}
    (h : p.Moved p' (some (number, o)) told) (hne : number ≠ n) : p'.loops.get? n = p.loops.get? n := by
  cases h with
  | _ => exact Table.get?_set_of_ne _ _ hne

/-- A loop that has taken a sample waits. -/
theorem Moved.waits_of_sampled {p' : AnalogPort} {number : Nat} {o : Conversion} {told : List VoltageChange}
    (h : p.Moved p' (some (number, o)) told) :
    ∃ taken wake throttle, p'.loops.get? number = some ⟨.waiting taken wake, throttle⟩ := by
  cases h with
  | _ => exact ⟨_, _, _, Table.get?_set_self _ _ _⟩

/-- A turn of a loop leaves the other loops where they stand. -/
theorem get?_poll_of_ne {number n : Nat} (hne : number ≠ n) (now wall : Nat) (late : Bool) (h : Hardware) :
    (p.poll number now wall late h).1.loops.get? n = p.loops.get? n := by
  cases hdue : p.due? number now late with
  | none =>
      rcases (poll_of_not_due hdue wall h).1 with hsame | ⟨-, hover⟩
      · rw [hsame]
      · rw [hover, Table.get?_erase, if_neg hne]
  | some s =>
      obtain ⟨⟨told, hmoved⟩, -⟩ := moved_of_due hdue wall h
      exact hmoved.get?_of_sampled hne

/-- A turn of a loop does not decide which loop runs. -/
theorem running_poll (number now wall : Nat) (late : Bool) (h : Hardware) :
    (p.poll number now wall late h).1.running = p.running := by
  cases hdue : p.due? number now late with
  | none =>
      rcases (poll_of_not_due hdue wall h).1 with hsame | ⟨-, hover⟩
      · rw [hsame]
      · rw [hover]
  | some s =>
      obtain ⟨⟨told, hmoved⟩, -⟩ := moved_of_due hdue wall h
      exact hmoved.running_of_sampled

/-- **No stop is under way**: the only loop that is not over, if there is one, is the one that runs. -/
def Calm (p : AnalogPort) : Prop := ∀ n s, p.loops.get? n = some s → p.running = some n

end AnalogPort

namespace Probe

variable {s : Probe} {m : Move} {n : Nat}

/-! ## Needless calls -/

/-- A start while a loop runs, or a stop while none does. -/
def Needless (s : Probe) : Move → Prop
  | .start _ _ _ => s.port.isSampling
  | .stop => ¬ s.port.isSampling
  | _ => False

instance (s : Probe) : (m : Move) → Decidable (s.Needless m)
  | .start _ _ _ => inferInstanceAs (Decidable (s.port.isSampling = true))
  | .stop => inferInstanceAs (Decidable (¬ s.port.isSampling = true))
  | .poll _ _ _ _ | .read _ _ | .arrange _ => inferInstanceAs (Decidable False)

/-- **A needless call does nothing.** -/
theorem act_of_needless (h : s.Needless m) : s.act m = s := by
  cases m with
  | start runtime interval wall =>
      show (⟨s.hardware, s.port.started runtime interval wall⟩ : Probe) = s
      rw [AnalogPort.started_of_sampling h]
  | stop =>
      show (⟨s.hardware, s.port.stop⟩ : Probe) = s
      rw [AnalogPort.stop_of_not_sampling h]
  | _ => exact h.elim

/-- A history without its needless calls. -/
def needed : Probe → List Move → List Move
  | _, [] => []
  | s, m :: history => if s.Needless m then needed (s.act m) history else m :: needed (s.act m) history

theorem run_needed (s : Probe) (history : List Move) : s.run (s.needed history) = s.run history := by
  induction history generalizing s with
  | nil => rfl
  | cons m history ih =>
      have hcons : s.run (m :: history) = (s.act m).run history := rfl
      unfold needed
      split
      · next hneedless =>
        rw [hcons, ← ih, act_of_needless hneedless]
      · rw [hcons, ← ih]
        rfl

/-- What needless calls do not contribute to comes of the other moves alone. -/
theorem gather_needed {α : Type} {of : Probe → Move → List α} (hof : ∀ s m, Needless s m → of s m = []) (s : Probe)
    (history : List Move) : s.gather of (s.needed history) = s.gather of history := by
  induction history generalizing s with
  | nil => rfl
  | cons m history ih =>
      have hcons : s.gather of (m :: history) = of s m ++ (s.act m).gather of history := rfl
      unfold needed
      split
      · next hneedless =>
        rw [hcons, hof s m hneedless, List.nil_append, ← ih, act_of_needless hneedless]
      · rw [hcons, ← ih]
        rfl

/-- If the port is as it was, nothing has been told. -/
theorem told_of_same (h : (s.act m).port = s.port) : s.told m = [] := by
  unfold told
  rw [h]
  exact AnalogPort.Moved.same.news

theorem told_of_needless (h : s.Needless m) : s.told m = [] := told_of_same (by rw [act_of_needless h])

theorem sampled_of_needless (h : s.Needless m) : s.sampled m = none := by
  cases m with
  | start runtime interval wall => rfl
  | stop => rfl
  | _ => exact h.elim

/-- If no loop takes a sample, none calls anything. -/
theorem called_of_not_sampled (h : s.sampled m = none) : s.called m = [] := by
  have hcalled := s.called_act m
  rw [h] at hcalled
  exact hcalled

/-! ## When a loop runs -/

/-- A call that starts a loop. -/
def Starts (s : Probe) (m : Move) : Prop :=
  s.port.isSampling = false ∧ ∃ interval wall, m = .start true interval wall

theorem isSampling_act_iff :
    (s.act m).port.isSampling = true ↔ s.Starts m ∨ (s.port.isSampling = true ∧ m ≠ .stop) := by
  cases m with
  | start runtime interval wall =>
      show (s.port.started runtime interval wall).isSampling = true ↔ _
      rw [AnalogPort.isSampling_started]
      cases hsampling : s.port.isSampling <;> cases runtime <;> simp [Starts, hsampling]
  | stop => simp [Starts, act, AnalogPort.stop, AnalogPort.isSampling]
  | poll number now wall late =>
      show (s.port.poll number now wall late s.hardware).1.running.isSome = true ↔ _
      rw [AnalogPort.running_poll]
      simp [Starts, AnalogPort.isSampling]
  | read reading now => simp [Starts, act]
  | arrange hardware => simp [Starts, act]

/-- **A loop runs exactly between a call that starts it and the next stop.** By induction on the history, the latest
move last. -/
theorem isSampling_run_iff (hidle : s.port.isSampling = false) (history : List Move) :
    (s.run history).port.isSampling = true ↔
      ∃ before m after, history = before ++ m :: after ∧ (s.run before).Starts m ∧ .stop ∉ after := by
  induction history using List.reverseRecOn with
  | nil => simp [run, hidle]
  | append_singleton history m ih =>
      rw [run_snoc, isSampling_act_iff, ih]
      constructor
      · rintro (hstarts | ⟨⟨before, m', after, rfl, hstarts, hstop⟩, hm⟩)
        -- The latest move starts the loop, or the loop ran before and the latest move is no stop.
        · exact ⟨history, m, [], rfl, hstarts, List.not_mem_nil⟩
        · refine ⟨before, m', after ++ [m], by simp, hstarts, ?_⟩
          simp [hstop, Ne.symm hm]
      · rintro ⟨before, m', after, heq, hstarts, hstop⟩
        rcases append_cons_eq_snoc heq.symm with ⟨-, rfl, rfl⟩ | ⟨rest, rfl, rfl⟩
        · exact .inl hstarts
        · refine .inr ⟨⟨before, m', rest, rfl, hstarts, fun h => hstop (List.mem_append_left _ h)⟩, ?_⟩
          rintro rfl
          exact hstop (List.mem_append_right _ (List.mem_singleton_self _))

/-! ## After a stop -/

/-- A start or a stop. -/
def Move.IsCall : Move → Prop
  | .start _ _ _ | .stop => True
  | _ => False

/-- **Nobody calls before the last stop has returned.** -/
def Orderly : Probe → List Move → Prop
  | _, [] => True
  | s, m :: history => (m.IsCall → s.port.Calm) ∧ Orderly (s.act m) history

/-- No move of a history starts a loop. -/
def NoStart : Probe → List Move → Prop
  | _, [] => True
  | s, m :: history => ¬ s.Starts m ∧ NoStart (s.act m) history

theorem Orderly.later {before history : List Move} (h : s.Orderly (before ++ history)) :
    (s.run before).Orderly history := by
  induction before generalizing s with
  | nil => exact h
  | cons m before ih => exact ih h.2

/-- There is no loop at all. -/
structure Still (s : Probe) : Prop where
  idle : s.port.running = none
  gone : ∀ n, s.port.loops.get? n = none

/-- **Without a loop, nothing happens** until one is started. -/
theorem Still.act (h : s.Still) (hstarts : ¬ s.Starts m) : (s.act m).port = s.port ∧ s.sampled m = none := by
  have hidle : s.port.isSampling = false := by simp [AnalogPort.isSampling, h.idle]
  cases m with
  | start runtime interval wall =>
      cases runtime with
      | true => exact absurd ⟨hidle, interval, wall, rfl⟩ hstarts
      | false => exact ⟨AnalogPort.started_of_no_runtime interval wall, rfl⟩
  | stop => exact ⟨AnalogPort.stop_of_not_sampling (by simp [hidle]), rfl⟩
  | poll number now wall late =>
      have hpoll := AnalogPort.poll_over (h.gone number) now wall late s.hardware
      have hdue : s.port.due? number now late = none := by
        unfold AnalogPort.due?
        rw [h.gone number]
      refine ⟨congrArg Prod.fst hpoll, ?_⟩
      rw [sampled, hdue]
      rfl
  | read reading now => exact ⟨rfl, rfl⟩
  | arrange hardware => exact ⟨rfl, rfl⟩

/-- By induction on the history: its first move leaves no loop behind, and contributes nothing. -/
theorem Still.gather {α : Type} {of : Probe → Move → List α} (hof : ∀ s m, Still s → ¬ Starts s m → of s m = [])
    {history : List Move} (h : s.Still) (hstart : s.NoStart history) : s.gather of history = [] := by
  induction history generalizing s with
  | nil => rfl
  | cons m history ih =>
      obtain ⟨hm, hrest⟩ := hstart
      have hport := (h.act hm).1
      have hnext : (s.act m).Still := ⟨hport ▸ h.idle, hport ▸ h.gone⟩
      show of s m ++ (s.act m).gather of history = []
      rw [hof s m h hm, ih hnext hrest]
      rfl

/-- What is neither a start nor a stop makes no loop, and does not decide which one runs. -/
theorem keeps_act (hm : ¬ m.IsCall) :
    (s.act m).port.running = s.port.running ∧
      (s.port.loops.get? n = none → (s.act m).port.loops.get? n = none) := by
  cases m with
  | start runtime interval wall => exact absurd trivial hm
  | stop => exact absurd trivial hm
  | poll number now wall late =>
      refine ⟨AnalogPort.running_poll number now wall late s.hardware, fun hgone => ?_⟩
      show (s.port.poll number now wall late s.hardware).1.loops.get? n = none
      by_cases hne : number = n
      · subst hne
        rw [AnalogPort.poll_over hgone]
        exact hgone
      · rw [AnalogPort.get?_poll_of_ne hne]
        exact hgone
  | read reading now => exact ⟨rfl, id⟩
  | arrange hardware => exact ⟨rfl, id⟩

theorem keeps_run {during : List Move} (hcalls : ∀ m ∈ during, ¬ m.IsCall) :
    (s.run during).port.running = s.port.running ∧
      (s.port.loops.get? n = none → (s.run during).port.loops.get? n = none) := by
  induction during generalizing s with
  | nil => exact ⟨rfl, id⟩
  | cons m during ih =>
      obtain ⟨hm, hrest⟩ := List.forall_mem_cons.mp hcalls
      obtain ⟨hrunning, hgone⟩ := keeps_act (s := s) (n := n) hm
      obtain ⟨hrunning', hgone'⟩ := ih (s := s.act m) hrest
      exact ⟨hrunning'.trans hrunning, fun h => hgone' (hgone h)⟩

/-- **When a stop returns, there is no loop**, if no other stop was under way when it was called. -/
theorem still_of_returned {during : List Move} (hcalm : s.port.Calm) (hcalls : ∀ m ∈ during, ¬ m.IsCall)
    (hreturned : ∀ n, s.port.running = some n → ((s.act .stop).run during).port.loops.get? n = none) :
    ((s.act .stop).run during).Still := by
  refine ⟨(keeps_run (n := 0) hcalls).1, fun n => ?_⟩
  by_cases hn : s.port.running = some n
  · exact hreturned n hn
  · -- Nothing but the loop that ran was there when the stop was called, and only a start makes another one.
    refine (keeps_run hcalls).2 ?_
    show s.port.loops.get? n = none
    cases hloop : s.port.loops.get? n with
    | none => rfl
    | some loop => exact absurd (hcalm n loop hloop) hn

/-! ## A stop returns -/

/-- How many turns a loop has before it is over, if it is not to go on. -/
def turnsLeft (n : Nat) (s : Probe) : Nat :=
  match s.port.loops.get? n with
  | some ⟨.fresh, _⟩ => 2
  | some ⟨.waiting _ _, _⟩ => 1
  | none => 0

/-- A turn of the loop, in which it is not its time that decides. -/
def Move.polls (n : Nat) : Move → Bool
  | .poll number _ _ late => number == n && !late
  | _ => false

theorem turnsLeft_le (n : Nat) (s : Probe) : s.turnsLeft n ≤ 2 := by
  unfold turnsLeft
  split
  · exact Nat.le_refl 2
  · exact Nat.le_succ 1
  · exact Nat.zero_le 2

theorem turnsLeft_of_gone (h : s.port.loops.get? n = none) : s.turnsLeft n = 0 := by rw [turnsLeft, h]

theorem turnsLeft_of_waiting {taken : List Voltage} {wake : Nat} {throttle : Throttle}
    (h : s.port.loops.get? n = some ⟨.waiting taken wake, throttle⟩) : s.turnsLeft n = 1 := by rw [turnsLeft, h]

/-- If it is not to go on, a turn of a loop brings it nearer to its end, unless its time decides. -/
theorem turnsLeft_poll (hleft : s.port.running ≠ some n) (now wall : Nat) (late : Bool) :
    (s.act (.poll n now wall late)).turnsLeft n ≤ s.turnsLeft n - if late then 0 else 1 := by
  have hport : (s.act (.poll n now wall late)).port = (s.port.poll n now wall late s.hardware).1 := rfl
  have hleaving : s.port.isLeaving n := by simpa [AnalogPort.isLeaving] using hleft
  -- A loop that takes a sample in its turn waits after it.
  have hsampled : ∀ loop, s.port.due? n now late = some loop → (s.act (.poll n now wall late)).turnsLeft n = 1 := by
    intro loop hdue
    obtain ⟨⟨told, hmoved⟩, -⟩ := AnalogPort.moved_of_due hdue wall s.hardware
    obtain ⟨taken, wake, throttle, hwaits⟩ := hmoved.waits_of_sampled
    exact turnsLeft_of_waiting (hport ▸ hwaits)
  cases hloop : s.port.loops.get? n with
  | none =>
      have hgone : (s.act (.poll n now wall late)).port.loops.get? n = none := by
        rw [hport, AnalogPort.poll_over hloop]
        exact hloop
      rw [turnsLeft_of_gone hgone]
      exact Nat.zero_le _
  | some loop =>
      obtain ⟨stage, throttle⟩ := loop
      cases stage with
      | fresh =>
          have hdue : s.port.due? n now late = some ⟨.fresh, throttle⟩ := by rw [AnalogPort.due?, hloop]
          have htwo : s.turnsLeft n = 2 := by rw [turnsLeft, hloop]
          rw [hsampled _ hdue, htwo]
          split
          · exact Nat.le_succ 1
          · exact Nat.le_refl 1
      | waiting taken wake =>
          rw [turnsLeft_of_waiting hloop]
          -- Only if its time decides does the loop go on; it has as many turns left then as before.
          by_cases hlate : late ∧ wake ≤ now
          · have hdue : s.port.due? n now late = some ⟨.waiting taken wake, throttle⟩ := by
              rw [AnalogPort.due?, hloop]
              exact if_pos ⟨hlate.2, .inl hlate.1⟩
            have hnone : 1 - (if late then 0 else 1) = 1 := by simp [hlate.1]
            rw [hnone]
            exact Nat.le_of_eq (hsampled _ hdue)
          · obtain ⟨lines, hpoll⟩ := AnalogPort.poll_leaving hloop hleaving hlate wall s.hardware
            have hgone : (s.act (.poll n now wall late)).port.loops.get? n = none := by
              rw [hport, hpoll, Table.get?_erase, if_pos rfl]
            rw [turnsLeft_of_gone hgone]
            exact Nat.zero_le _

theorem turnsLeft_act (hleft : s.port.running ≠ some n) (hm : ¬ m.IsCall) :
    (s.act m).turnsLeft n ≤ s.turnsLeft n - if m.polls n then 1 else 0 := by
  cases m with
  | start runtime interval wall => exact absurd trivial hm
  | stop => exact absurd trivial hm
  | poll number now wall late =>
      by_cases hne : number = n
      · subst hne
        have hpoll := turnsLeft_poll hleft now wall late
        cases late <;> simpa [Move.polls] using hpoll
      · have hsame : (s.act (.poll number now wall late)).turnsLeft n = s.turnsLeft n := by
          show (match (s.port.poll number now wall late s.hardware).1.loops.get? n with
            | some ⟨.fresh, _⟩ => 2
            | some ⟨.waiting _ _, _⟩ => 1
            | none => 0) = _
          rw [AnalogPort.get?_poll_of_ne hne]
          rfl
        simp [Move.polls, hne, hsame]
  | read reading now => exact Nat.le_refl _
  | arrange hardware => exact Nat.le_refl _

theorem turnsLeft_run {during : List Move} (hleft : s.port.running ≠ some n) (hcalls : ∀ m ∈ during, ¬ m.IsCall) :
    (s.run during).turnsLeft n ≤ s.turnsLeft n - during.countP (Move.polls n) := by
  induction during generalizing s with
  | nil => exact Nat.le_refl _
  | cons m during ih =>
      obtain ⟨hm, hrest⟩ := List.forall_mem_cons.mp hcalls
      have hrunning := (keeps_act (s := s) (n := n) hm).1
      have hnow := turnsLeft_act hleft hm
      have hlater := ih (s := s.act m) (hrunning ▸ hleft) hrest
      have hcons : s.run (m :: during) = (s.act m).run during := rfl
      rw [hcons, List.countP_cons]
      omega

/-- **A stop returns**: a loop that is not to go on is over after two turns in which its time does not decide, whatever
comes between them. -/
theorem gone_of_polled {during : List Move} (hleft : s.port.running ≠ some n) (hcalls : ∀ m ∈ during, ¬ m.IsCall)
    (hpolls : 2 ≤ during.countP (Move.polls n)) : (s.run during).port.loops.get? n = none := by
  have hturns := turnsLeft_run hleft hcalls
  have hle := turnsLeft_le n s
  have hzero : (s.run during).turnsLeft n = 0 := by omega
  unfold turnsLeft at hzero
  split at hzero
  · contradiction
  · contradiction
  · assumption

/-! ## Starts and stops -/

/-- **What starts and stops do**, whatever happens to a port after it was made, on whatever hardware and in whatever
order its loops take their turns.

Without its needless calls, a history takes the port to the same state, makes the same conversions and tells the same
changes. A loop runs exactly between a call that starts it and the next stop. And if nobody calls before the last stop
has returned, then from the return of a stop until the next start of a loop, the loops convert nothing and nothing is
told. -/
theorem sampling_started_and_stopped {converter : Converter} {pin : Pin} {options : AnalogOptions} {p : AnalogPort}
    {h h' : Hardware} (hmade : (AnalogPort.create converter pin options).run h = (.ok p, h')) :
    let s : Probe := ⟨h', p⟩
    (∀ history, s.run (s.needed history) = s.run history ∧ s.samples (s.needed history) = s.samples history ∧
      s.calls (s.needed history) = s.calls history ∧ s.tale (s.needed history) = s.tale history) ∧
    (∀ history, (s.run history).port.isSampling = true ↔
      ∃ before m after, history = before ++ m :: after ∧ (s.run before).Starts m ∧ .stop ∉ after) ∧
    ∀ before during after, s.Orderly (before ++ .stop :: (during ++ after)) → (∀ m ∈ during, ¬ m.IsCall) →
      (∀ n, (s.run before).port.running = some n →
        (s.run (before ++ .stop :: during)).port.loops.get? n = none) →
      (s.run (before ++ .stop :: during)).NoStart after →
        (s.run (before ++ .stop :: during)).samples after = [] ∧
        (s.run (before ++ .stop :: during)).calls after = [] ∧
        (s.run (before ++ .stop :: during)).tale after = [] := by
  intro s
  obtain ⟨-, claim, rfl⟩ := AnalogPort.create_eq_ok hmade
  refine ⟨fun history => ⟨s.run_needed history, ?_, ?_, ?_⟩, isSampling_run_iff rfl, ?_⟩
  · exact gather_needed (fun s m hm => by rw [sampled_of_needless hm, Option.toList_none]) s history
  · exact gather_needed (fun s m hm => called_of_not_sampled (sampled_of_needless hm)) s history
  · exact gather_needed (fun s m hm => told_of_needless hm) s history
  · intro before during after horderly hcalls hreturned hstart
    have hcalm := horderly.later.1 trivial
    have hrun : s.run (before ++ .stop :: during) = ((s.run before).act .stop).run during := s.run_append before _
    rw [hrun] at hreturned hstart ⊢
    have hstill := still_of_returned hcalm hcalls hreturned
    refine ⟨?_, ?_, ?_⟩
    · exact hstill.gather (fun s m h hm => by rw [(h.act hm).2, Option.toList_none]) hstart
    · exact hstill.gather (fun s m h hm => called_of_not_sampled (h.act hm).2) hstart
    · exact hstill.gather (fun s m h hm => told_of_same (h.act hm).1) hstart

/-- A loop is started and takes a reading. -/
def begun : List Move := [.start true none 0, .poll 0 0 0 false]

/-- The loop has the turns that it needs to be over. -/
def ending : List Move := [.poll 0 1 0 false, .poll 0 2 0 false]

/-- Another stop, a start where nothing can run, and a turn at a time at which a reading would have been due. -/
def afterwards : List Move := [.stop, .start false none 0, .poll 0 10 0 false]

/-- Nothing is converted after the stop has returned, though a reading had been taken before. -/
theorem sampling_started_and_stopped_early :
    (AnalogPort.create (.new 4095) meterPin meterOptions).run .empty = (.ok meterPort, meterHardware) ∧
    (meter.samples begun).length = 1 ∧
    meter.Orderly (begun ++ .stop :: (ending ++ afterwards)) ∧ (∀ m ∈ ending, ¬ m.IsCall) ∧
    (meter.run (begun ++ .stop :: ending)).port.loops.get? 0 = none ∧
    (meter.run (begun ++ .stop :: ending)).NoStart afterwards ∧
    (meter.run (begun ++ .stop :: ending)).samples afterwards = [] := by
  have hempty : meter.port.Calm := nofun
  have hrunning : (meter.run begun).port.Calm := by
    intro n s hs
    by_cases hn : 0 = n
    · rw [← hn]
      rfl
    · have hnone : (meter.run begun).port.loops.get? n = none := if_neg hn
      rw [hnone] at hs
      contradiction
  have hcalls : ∀ m ∈ ending, ¬ m.IsCall := by
    simp [ending, Move.IsCall]
  have hreturned : (meter.run (begun ++ .stop :: ending)).port.loops.get? 0 = none :=
    gone_of_polled (s := (meter.run begun).act .stop) nofun hcalls (by decide)
  have hover : (meter.run (begun ++ .stop :: ending)).port.Calm := nofun
  have horderly : meter.Orderly (begun ++ .stop :: (ending ++ afterwards)) :=
    ⟨fun _ => hempty, nofun, fun _ => hrunning, nofun, nofun, fun _ => hover, fun _ => hover, nofun, trivial⟩
  have hstart : (meter.run (begun ++ .stop :: ending)).NoStart afterwards :=
    ⟨nofun, nofun, nofun, trivial⟩
  have hsettled := (sampling_started_and_stopped run_create_meter).2.2 begun ending afterwards horderly hcalls
    (fun n hn => by
      obtain rfl : 0 = n := Option.some.inj hn
      exact hreturned) hstart
  exact ⟨run_create_meter, rfl, horderly, hcalls, hreturned, hstart, hsettled.1⟩

end Probe

end Peripherals
