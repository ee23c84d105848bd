import Peripherals.Proofs.Analog.Probe

/-!
# `Proofs.Analog.Batches` — the batches of the loops of an analog port

A loop takes its samples in batches. A batch is whole once it has all its readings; it is lost if a sample fails, or if
the loop ends before that. So the samples of a loop, in the order in which they were taken, fall into whole batches and
lost ones, whatever the other loops do in between (`Rounds`). A move publishes readings only if they are a whole batch
(`Collected.publishes`).

* `Rounds`, `Underway` — what a loop has taken, read as batches;
* `WholeBatch` — readings that some loop took as one whole batch;
* `Chained` — changes of which each one begins where the one before it ended;
* `Collected` — what the loops of a port hold of their batches, after every move.
-/

namespace Peripherals

/-! ## Samples as batches -/

/-- **Samples of a loop from its start to the end of a batch**, whole or lost. -/
inductive Rounds (count : Nat) : List Conversion → Prop where
  | start : Rounds count []
  | whole {seen : List Conversion} {batch : List Voltage} (hseen : Rounds count seen) (hlength : batch.length = count) :
    Rounds count (seen ++ batch.map .ok)
  | lost {seen : List Conversion} {taken : List Voltage} (hseen : Rounds count seen) (hlength : taken.length < count)
    (e : Bus.Error) : Rounds count (seen ++ taken.map .ok ++ [.error e])

/-- **The readings that a loop has taken since the end of a batch**, if these are all its samples. -/
def Underway (count : Nat) (samples : List Conversion) (taken : List Voltage) : Prop :=
  ∃ seen, Rounds count seen ∧ samples = seen ++ taken.map .ok

variable {count : Nat} {samples : List Conversion} {taken : List Voltage}

theorem underway_start : Underway count [] [] := ⟨[], .start, rfl⟩

theorem Underway.more (h : Underway count samples taken) (v : Voltage) :
    Underway count (samples ++ [.ok v]) (taken ++ [v]) := by
  obtain ⟨seen, hseen, rfl⟩ := h
  refine ⟨seen, hseen, ?_⟩
  rw [List.map_append, List.append_assoc]
  rfl

theorem Underway.whole (h : Underway count samples taken) (hlength : taken.length = count) :
    Underway count samples [] := by
  obtain ⟨seen, hseen, rfl⟩ := h
  exact ⟨_, .whole hseen hlength, (List.append_nil _).symm⟩

theorem Underway.lost (h : Underway count samples taken) (hlength : taken.length < count) (e : Bus.Error) :
    Underway count (samples ++ [.error e]) [] := by
  obtain ⟨seen, hseen, rfl⟩ := h
  exact ⟨_, .lost hseen hlength e, (List.append_nil _).symm⟩

/-! ## The samples of one loop -/

/-- The samples of the loop of that number. -/
def ofLoop (number : Nat) (samples : List (Nat × Conversion)) : List Conversion :=
  samples.filterMap fun x => if x.1 = number then some x.2 else none

variable {number : Nat}

theorem ofLoop_append (number : Nat) (samples later : List (Nat × Conversion)) :
    ofLoop number (samples ++ later) = ofLoop number samples ++ ofLoop number later := List.filterMap_append

theorem ofLoop_self (number : Nat) (o : Conversion) : ofLoop number [(number, o)] = [o] := by simp [ofLoop]

theorem ofLoop_of_ne {number' : Nat} (o : Conversion) (h : number ≠ number') : ofLoop number' [(number, o)] = [] := by
  simp [ofLoop, h]

/-- **Readings that a loop took as one whole batch**, in their order. -/
def WholeBatch (count : Nat) (samples : List (Nat × Conversion)) (batch : List Voltage) : Prop :=
  batch.length = count ∧
    ∃ number seen later, ofLoop number samples = seen ++ later ∧ Underway count seen batch

/-- Later samples do not change what was taken. -/
theorem WholeBatch.append {samples : List (Nat × Conversion)} {batch : List Voltage}
    (h : WholeBatch count samples batch) (more : List (Nat × Conversion)) :
    WholeBatch count (samples ++ more) batch := by
  obtain ⟨hlength, number, seen, later, heq, hbatch⟩ := h
  refine ⟨hlength, number, seen, later ++ ofLoop number more, ?_, hbatch⟩
  rw [ofLoop_append, heq, List.append_assoc]

/-! ## Changes that follow one another -/

/-- **Each change begins where the one before it ended**, and the first one begins with nothing. -/
def Chained (tale : List VoltageChange) : Prop :=
  ∀ before n after, tale = before ++ n :: after → n.old = before.getLast?.map (·.new)

variable {tale : List VoltageChange} {n : VoltageChange}

theorem chained_nil : Chained [] := by
  intro before n after h
  exact absurd h.symm (List.append_ne_nil_of_right_ne_nil before (List.cons_ne_nil n after))

theorem Chained.snoc (h : Chained tale) (hold : n.old = tale.getLast?.map (·.new)) : Chained (tale ++ [n]) := by
  intro before n' after heq
  rcases append_cons_eq_snoc heq.symm with ⟨-, rfl, rfl⟩ | ⟨rest, -, hrest⟩
  · exact hold
  · exact h before n' rest hrest.symm

/-! ## One move -/

/-- **What the loops of a port hold of their batches**, if these samples have been taken since it was made. -/
structure Collected (count : Nat) (samples : List (Nat × Conversion)) (p : AnalogPort) : Prop where
  count_eq : p.count = count
  count_pos : 0 < count
  /-- A number that no loop has got yet. -/
  unborn : ∀ n, p.nextLoop ≤ n → p.loops.get? n = none ∧ ofLoop n samples = []
  /-- A loop holds what it has taken since the end of its last batch. -/
  underway : ∀ n s, p.loops.get? n = some s → Underway count (ofLoop n samples) s.taken ∧ s.taken.length < count

namespace Collected

variable {samples : List (Nat × Conversion)} {p p' : AnalogPort} {s s' : Sampler} {o : Conversion}

/-- Nothing has become of the loops. -/
theorem congr (h : Collected count samples p) (hcount : p'.count = p.count) (hloops : p'.loops = p.loops)
    (hnext : p'.nextLoop = p.nextLoop) : Collected count samples p' := by
  refine ⟨hcount.trans h.count_eq, h.count_pos, ?_, ?_⟩
  · rw [hloops, hnext]
    exact h.unborn
  · rw [hloops]
    exact h.underway

/-- **A sample is taken**, and the loop goes on with what it now has of a batch. -/
theorem sampled (h : Collected count samples p) (hloop : p.loops.get? number = some s)
    (hunderway : Underway count (ofLoop number samples ++ [o]) s'.taken) (hshort : s'.taken.length < count) :
    Collected count (samples ++ [(number, o)]) { p with loops := p.loops.set number s' } := by
  refine ⟨h.count_eq, h.count_pos, ?_, ?_⟩
  · intro n hn
    obtain ⟨hnone, hempty⟩ := h.unborn n hn
    -- The loop that took the sample has got its number.
    have hne : number ≠ n := by
      rintro rfl
      rw [hloop] at hnone
      contradiction
    refine ⟨(Table.get?_set_of_ne _ _ hne).trans hnone, ?_⟩
    rw [ofLoop_append, hempty, ofLoop_of_ne o hne]
    rfl
  · intro n s'' hs''
    by_cases hne : number = n
    · subst hne
      obtain rfl : s' = s'' := by simpa using hs''
      rw [ofLoop_append, ofLoop_self]
      exact ⟨hunderway, hshort⟩
    · rw [ofLoop_append, ofLoop_of_ne o hne, List.append_nil]
      exact h.underway n s'' ((Table.get?_set_of_ne _ _ hne).symm.trans hs'')

/-- A reading that leaves a batch no shorter than it should be is its last one. -/
theorem ends (h : Collected count samples p) (hloop : p.loops.get? number = some s) {v : Voltage}
    (hlong : p.count ≤ (s.taken ++ [v]).length) :
    (s.taken ++ [v]).length = count ∧ Underway count (ofLoop number samples ++ [.ok v]) (s.taken ++ [v]) := by
  obtain ⟨hunderway, hshort⟩ := h.underway _ _ hloop
  have hcount := h.count_eq
  refine ⟨?_, hunderway.more v⟩
  simp only [List.length_append, List.length_singleton] at hlong ⊢
  omega

/-- **What a move does to the batches of the loops.** -/
theorem moved (h : Collected count samples p) {sampled : Option (Nat × Conversion)} {told : List VoltageChange}
    (hmoved : p.Moved p' sampled told) : Collected count (samples ++ sampled.toList) p' := by
  have hnone : samples ++ (none : Option (Nat × Conversion)).toList = samples := List.append_nil _
  cases hmoved with
  | same =>
      rw [hnone]
      exact h
  | started interval throttle hidle =>
      rw [hnone]
      refine ⟨h.count_eq, h.count_pos, ?_, ?_⟩
      · intro n hn
        obtain ⟨hloop, hempty⟩ := h.unborn n (Nat.le_of_succ_le hn)
        exact ⟨(Table.get?_set_of_ne _ _ (Nat.ne_of_lt hn)).trans hloop, hempty⟩
      · intro n s hs
        by_cases hne : p.nextLoop = n
        · -- No loop has had the number of the new one, so nothing has been taken under it.
          subst hne
          obtain rfl : (⟨.fresh, throttle⟩ : Sampler) = s := by simpa using hs
          rw [(h.unborn p.nextLoop (Nat.le_refl _)).2]
          exact ⟨underway_start, h.count_pos⟩
        · exact h.underway n s ((Table.get?_set_of_ne _ _ hne).symm.trans hs)
  | stopped =>
      rw [hnone]
      exact h.congr rfl rfl rfl
  | left number hleaving =>
      rw [hnone]
      refine ⟨h.count_eq, h.count_pos, ?_, ?_⟩
      · intro n hn
        obtain ⟨hloop, hempty⟩ := h.unborn n hn
        refine ⟨?_, hempty⟩
        rw [Table.get?_erase, hloop, ite_self]
      · intro n s hs
        rw [Table.get?_erase] at hs
        split at hs
        · contradiction
        · exact h.underway n s hs
  | failed hloop e wake throttle =>
      obtain ⟨hunderway, hshort⟩ := h.underway _ _ hloop
      exact h.sampled hloop (hunderway.lost hshort e) h.count_pos
  | more hloop v wake throttle hshort =>
      obtain ⟨hunderway, -⟩ := h.underway _ _ hloop
      exact h.sampled hloop (hunderway.more v) (h.count_eq ▸ hshort)
  | @whole number s hloop v wake throttle hlong mean hmean =>
      obtain ⟨hlength, hbatch⟩ := h.ends hloop hlong
      -- The loop begins its next batch in the move that takes the last reading of this one.
      have hrest : Underway count (ofLoop number samples ++ [.ok v]) (⟨.waiting [] wake, throttle⟩ : Sampler).taken :=
        hbatch.whole hlength
      exact (h.sampled hloop hrest h.count_pos).congr rfl rfl rfl

/-- **A move publishes readings only if it takes the last one of a whole batch.** -/
theorem publishes (h : Collected count samples p) {sampled : Option (Nat × Conversion)}
    {told : List VoltageChange} (hmoved : p.Moved p' sampled told) :
    (∃ number v mean, sampled = some (number, .ok v) ∧ p'.buffer.length = count ∧
      Underway count (ofLoop number (samples ++ [(number, .ok v)])) p'.buffer ∧
      Voltage.mean? p'.buffer = some mean ∧ told = [⟨mean, p.previous⟩]) ∨
    told = [] := by
  cases hmoved with
  | @whole number s hloop v wake throttle hlong mean hmean =>
      obtain ⟨hlength, hbatch⟩ := h.ends hloop hlong
      refine .inl ⟨number, v, mean, rfl, hlength, ?_, hmean, rfl⟩
      rw [ofLoop_append, ofLoop_self]
      exact hbatch
  | _ => exact .inr rfl

/-- A port that has just been made. -/
theorem of_create {converter : Converter} {pin : Pin} {options : AnalogOptions} {h h' : Hardware}
    (hmade : (AnalogPort.create converter pin options).run h = (.ok p, h')) : Collected options.count [] p := by
  obtain ⟨hcount, claim, rfl⟩ := AnalogPort.create_eq_ok hmade
  exact ⟨rfl, hcount, fun _ _ => ⟨rfl, rfl⟩, nofun⟩

end Collected

end Peripherals
