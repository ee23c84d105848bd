import Peripherals.Bus.Engine

/-!
# `Proofs.Bus.Speed` — the speed that meets a request

`clamp` folds over the supported speeds in whatever order they are listed. What it answers does not depend on that
order: `Meets` says it of the *set* of speeds, as the greatest one that is not above the request, or the least of all
where every one is. Only one speed meets a request (`Meets.unique`), because meeting is monotone (`Meets.mono`), and
`clamp` answers with it (`meets_clamp`). Everything else is read off these three.

* `Meets` — what it is to meet a request;
* `clamp_eq_iff`, `clamp_congr`, `clamp_eq_self_iff` — `clamp` as a function of the set of speeds;
* `Engine.setFrequency_new` — an engine, which keeps an ascending copy, answers as `clamp` does on the list;
* `clamp_is_floor` — all of it, for every request and every list that is not empty.
-/

namespace Peripherals.Bus

variable {requested higher speed other x : UInt32} {supported listed : List UInt32}

/-! ## The order of speeds -/

instance lawfulMaxSpeed : Std.LawfulOrderMax UInt32 where
  max_le_iff a b c := by
    show (if a ≤ b then b else a) ≤ c ↔ a ≤ c ∧ b ≤ c
    split
    · next hab =>
      constructor
      · intro hb
        exact ⟨UInt32.le_trans hab hb, hb⟩
      · intro h
        exact h.2
    · next hab =>
      have hba : b ≤ a := UInt32.le_of_lt (UInt32.not_le.mp hab)
      constructor
      · intro ha
        exact ⟨ha, UInt32.le_trans hba ha⟩
      · intro h
        exact h.1

instance lawfulMinSpeed : Std.LawfulOrderMin UInt32 where
  le_min_iff a b c := by
    show a ≤ (if b ≤ c then b else c) ↔ a ≤ b ∧ a ≤ c
    split
    · next hbc =>
      constructor
      · intro hb
        exact ⟨hb, UInt32.le_trans hb hbc⟩
      · intro h
        exact h.1
    · next hbc =>
      have hcb : c ≤ b := UInt32.le_of_lt (UInt32.not_le.mp hbc)
      constructor
      · intro hc
        exact ⟨UInt32.le_trans hc hcb, hc⟩
      · intro h
        exact h.2

/-! ## Meeting a request -/

/-- **Meeting a request.** A supported speed meets a request if it is the greatest one not above the request. Where
every supported speed is above the request, the least one meets it. -/
structure Meets (requested : UInt32) (supported : List UInt32) (speed : UInt32) : Prop where
  mem : speed ∈ supported
  /-- As soon as some speed is not above the request, this one is not either, and none of those exceeds it. -/
  greatest : ∀ x ∈ supported, x ≤ requested → speed ≤ requested ∧ x ≤ speed
  least : (∀ x ∈ supported, requested < x) → ∀ x ∈ supported, speed ≤ x

namespace Meets

/-- A higher request is met by a speed that is no lower. -/
theorem mono (hle : requested ≤ higher) (h : Meets requested supported speed) (h' : Meets higher supported other) :
    speed ≤ other := by
  by_cases hbelow : speed ≤ requested
  · -- The speed is not above the higher request either, so it does not exceed what meets that.
    exact (h'.greatest speed h.mem (UInt32.le_trans hbelow hle)).2
  · have habove : ∀ x ∈ supported, requested < x := by
      intro x hx
      apply UInt32.not_le.mp
      intro hxr
      exact hbelow (h.greatest x hx hxr).1
    exact h.least habove other h'.mem

/-- Only one speed meets a request. -/
theorem unique (h : Meets requested supported speed) (h' : Meets requested supported other) : speed = other :=
  UInt32.le_antisymm (mono (UInt32.le_refl requested) h h') (mono (UInt32.le_refl requested) h' h)

/-- Neither the order of the speeds nor how often one is listed has to do with it. -/
theorem congr (hsame : ∀ x, x ∈ listed ↔ x ∈ supported) (h : Meets requested supported speed) :
    Meets requested listed speed := by
  refine ⟨(hsame speed).mpr h.mem, ?_, ?_⟩
  · intro x hx hxr
    exact h.greatest x ((hsame x).mp hx) hxr
  · intro habove x hx
    have habove' : ∀ y ∈ supported, requested < y := fun y hy => habove y ((hsame y).mpr hy)
    exact h.least habove' x ((hsame x).mp hx)

/-- A supported speed meets the request for itself. -/
theorem self (h : requested ∈ supported) : Meets requested supported requested := by
  refine ⟨h, ?_, ?_⟩
  · intro x _ hxr
    exact ⟨UInt32.le_refl requested, hxr⟩
  · intro habove
    exact absurd (habove requested h) (UInt32.lt_irrefl requested)

end Meets

/-! ## What is answered -/

/-- The answer meets the request, whatever the order of the list. -/
theorem meets_clamp (requested : UInt32) (h : supported ≠ []) :
    Meets requested supported (clamp requested supported) := by
  unfold clamp
  split
  · next speed hmax =>
    obtain ⟨hmem, hall⟩ := List.max?_eq_some_iff.mp hmax
    obtain ⟨hsupported, hbelow⟩ := List.mem_filter.mp hmem
    have hle : speed ≤ requested := of_decide_eq_true hbelow
    refine ⟨hsupported, ?_, ?_⟩
    · intro x hx hxr
      exact ⟨hle, hall x (List.mem_filter.mpr ⟨hx, decide_eq_true hxr⟩)⟩
    · intro habove
      exact absurd (habove speed hsupported) (UInt32.not_lt.mpr hle)
  · next hmax =>
    -- Nothing is left of the list, so every speed is above the request.
    have hnone : supported.filter (· ≤ requested) = [] := List.max?_eq_none_iff.mp hmax
    have habove : ∀ x ∈ supported, ¬ x ≤ requested := by
      intro x hx hxr
      exact List.filter_eq_nil_iff.mp hnone x hx (decide_eq_true hxr)
    cases hmin : supported.min? with
    | none => exact absurd (List.min?_eq_none_iff.mp hmin) h
    | some speed =>
      obtain ⟨hmem, hall⟩ := List.min?_eq_some_iff.mp hmin
      refine ⟨hmem, ?_, fun _ => hall⟩
      intro x hx hxr
      exact absurd hxr (habove x hx)

theorem clamp_eq_iff (h : supported ≠ []) : clamp requested supported = speed ↔ Meets requested supported speed := by
  constructor
  · rintro rfl
    exact meets_clamp requested h
  · intro hmeets
    exact (meets_clamp requested h).unique hmeets

/-- Two lists of the same speeds give the same answer. -/
theorem clamp_congr (h : supported ≠ []) (hsame : ∀ x, x ∈ listed ↔ x ∈ supported) :
    clamp requested listed = clamp requested supported := by
  have hmeets : Meets requested listed (clamp requested supported) := (meets_clamp requested h).congr hsame
  exact (clamp_eq_iff (List.ne_nil_of_mem hmeets.mem)).mpr hmeets

theorem clamp_mono (h : supported ≠ []) (hle : requested ≤ higher) :
    clamp requested supported ≤ clamp higher supported :=
  (meets_clamp requested h).mono hle (meets_clamp higher h)

theorem clamp_eq_self_iff (h : supported ≠ []) : clamp requested supported = requested ↔ requested ∈ supported := by
  constructor
  · intro heq
    have hmem := clamp_mem requested h
    rwa [heq] at hmem
  · intro hmem
    exact (clamp_eq_iff h).mpr (Meets.self hmem)

theorem isAdjusted_eq_true (h : supported ≠ []) : isAdjusted requested supported = true ↔ requested ∉ supported := by
  unfold isAdjusted
  rw [bne_iff_ne, ne_eq, clamp_eq_self_iff h]

theorem isAdjusted_eq_false (h : supported ≠ []) : isAdjusted requested supported = false ↔ requested ∈ supported := by
  rw [← Bool.not_eq_true, isAdjusted_eq_true h, Decidable.not_not]

/-! ## Engines -/

namespace Engine

/-- A change of the clock is reported iff the request is adjusted. -/
theorem lines_setFrequency (e : Engine) (requested : UInt32) :
    (e.setFrequency requested).2.2 = [] ↔ isAdjusted requested e.supported = false := by
  have hlines : (e.setFrequency requested).2.2 = if clamp requested e.supported = requested then []
      else [⟨.warn, s!"Bus {e.number}: {requested} Hz is not supported, using {clamp requested e.supported} Hz"⟩] := rfl
  rw [hlines, isAdjusted]
  by_cases h : clamp requested e.supported = requested
  · simp [h]
  · simp [h]

/-- An engine answers, and runs, as its list of speeds says, though it keeps them ascending and each once. -/
theorem setFrequency_new (h : supported ≠ []) (number : UInt8) (first requested : UInt32) :
    let e := (new number first supported).1
    e.frequency = clamp first supported ∧
      (e.setFrequency requested).1 = clamp requested supported ∧
      (e.setFrequency requested).2.1.frequency = clamp requested supported ∧
      ((e.setFrequency requested).2.2 = [] ↔ requested ∈ supported) := by
  intro e
  have hsame : ∀ x, x ∈ ascending supported ↔ x ∈ supported := fun x => mem_ascending
  have hclamp : ∀ r, clamp r (ascending supported) = clamp r supported := fun r => clamp_congr h hsame
  refine ⟨hclamp first, hclamp requested, hclamp requested, ?_⟩
  have hadjusted : isAdjusted requested e.supported = isAdjusted requested supported := by
    show (clamp requested (ascending supported) != requested) = _
    rw [hclamp]
    rfl
  rw [lines_setFrequency, hadjusted, isAdjusted_eq_false h]

end Engine

/-! ## The floor of a request -/

/-- **A request is rounded down to the supported speeds.** For every request and every list of speeds that is not
empty, in any order and with repetitions: the answer is the greatest listed speed not above the request, or the least
one where all are above it; every list of the same speeds gives the same answer, and so does an engine made with the
list, at its making and at every change of its clock; a higher request never gets a lower answer; an answer that is
requested is granted as it stands; and a request is adjusted iff it is not listed. -/
theorem clamp_is_floor (h : supported ≠ []) (requested : UInt32) :
    Meets requested supported (clamp requested supported) ∧
    (∀ listed : List UInt32, (∀ x, x ∈ listed ↔ x ∈ supported) →
      clamp requested listed = clamp requested supported) ∧
    (∀ (number : UInt8) (first : UInt32),
      let e := (Engine.new number first supported).1
      e.frequency = clamp first supported ∧
        (e.setFrequency requested).1 = clamp requested supported ∧
        (e.setFrequency requested).2.1.frequency = clamp requested supported ∧
        ((e.setFrequency requested).2.2 = [] ↔ requested ∈ supported)) ∧
    (∀ higher, requested ≤ higher → clamp requested supported ≤ clamp higher supported) ∧
    (clamp (clamp requested supported) supported = clamp requested supported ∧
      isAdjusted (clamp requested supported) supported = false) ∧
    (isAdjusted requested supported = true ↔ requested ∉ supported) := by
  have hmeets : Meets requested supported (clamp requested supported) := meets_clamp requested h
  refine ⟨hmeets, ?_, ?_, ?_, ⟨?_, ?_⟩, isAdjusted_eq_true h⟩
  · intro listed hsame
    exact clamp_congr h hsame
  · intro number first
    exact Engine.setFrequency_new h number first requested
  · intro higher hle
    exact clamp_mono h hle
  · exact (clamp_eq_self_iff h).mpr hmeets.mem
  · exact (isAdjusted_eq_false h).mpr hmeets.mem

/-- Three speeds, out of order and one of them twice: between two of them the lower one is taken, below all of them
the lowest, and only what is listed is granted as it stands. -/
theorem clamp_is_floor_unordered :
    ([400000, 100000, 1000000, 400000] : List UInt32) ≠ [] ∧
      clamp 999999 [400000, 100000, 1000000, 400000] = 400000 ∧
      clamp 99999 [400000, 100000, 1000000, 400000] = 100000 ∧
      isAdjusted 999999 [400000, 100000, 1000000, 400000] = true ∧
      clamp 999999 [1000000, 400000, 100000] = 400000 := by
  have hsome : ([400000, 100000, 1000000, 400000] : List UInt32) ≠ [] := by decide
  obtain ⟨-, hlists, -, -, -, hadjusted⟩ := clamp_is_floor hsome 999999
  have hsame : ∀ x : UInt32, x ∈ [1000000, 400000, 100000] ↔ x ∈ [400000, 100000, 1000000, 400000] := by
    intro x
    simp only [List.mem_cons, List.not_mem_nil, or_false]
    grind
  refine ⟨hsome, by decide, by decide, hadjusted.mpr (by decide), ?_⟩
  rw [hlists _ hsame]
  decide

end Peripherals.Bus
