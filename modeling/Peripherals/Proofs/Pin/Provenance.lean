import Mathlib.Data.Nat.ModEq
import Mathlib.Logic.Function.Basic
import Peripherals.Proofs.Pin.Custody

/-!
# `Proofs.Pin.Provenance` — tokens among several arbiters

An arbiter knows a token by the name of a pin and by a number, which it compares with that of the reservation that the
pin has. A token does not say who has issued it. Every arbiter numbers its own reservations, from zero and on a counter
that wraps, so that a token of one arbiter can pass for a reservation of another.

`Arbiters` are any number of arbiters and all grants that they have ever made. Which grant a reservation comes from is
known to the history (`Arbiters.behind`) but not to the arbiter. A token is taken exactly if the grant behind the
reservation of its pin has the rank of its own grant, up to the width of the counter (`Arbiters.judged_run`). So it ends
a reservation that is not its own exactly if that one is of equal rank. With a single arbiter that cannot happen before
the counter has wrapped; with two it takes no more than one reservation at each (`crossed`).

* `Arbiter.release_cases` — everything that giving a token back can come to;
* `Arbiters.Step`, `Arbiters.act`, `Arbiters.run` — what users do, each token being shown to any arbiter;
* `Arbiters.Traced` — what a reservation has to do with the grant behind it;
* `Arbiters.traced_act`, `Arbiters.traced_run` — one step and a whole history preserve that;
* `Arbiters.Judged` — which tokens an arbiter takes, and which of them wrongly.
-/

namespace Peripherals

namespace Arbiter

variable {a : Arbiter} {token : Token}

/-- **Everything that giving a token back can come to**: the pin is not held; it is held under another number; or the
reservation is ended. -/
theorem release_cases (a : Arbiter) (token : Token) :
    (a.current? token.pin = none ∧ (a.release token).result = .error (.notReserved token.pin) ∧
      (a.release token).arbiter = a) ∨
    (∃ current, a.current? token.pin = some current ∧ current.id ≠ token.id ∧
      (a.release token).result = .error (.staleToken token.pin) ∧ (a.release token).arbiter = a) ∨
    (∃ current, a.current? token.pin = some current ∧ current.id = token.id ∧
      (a.release token).result = .ok () ∧ (a.release token).arbiter = ⟨a.slots.set token.pin none, a.nextId⟩) := by
  cases hcurrent : a.current? token.pin with
  | none =>
      refine .inl ⟨rfl, ?_⟩
      unfold release
      rcases Option.join_eq_none_iff.mp hcurrent with hslot | hslot
      · rw [hslot]
        exact ⟨rfl, rfl⟩
      · rw [hslot]
        exact ⟨rfl, rfl⟩
  | some current =>
      by_cases hid : current.id = token.id
      · exact .inr (.inr ⟨current, rfl, hid, release_of_current hcurrent hid⟩)
      · have hslot : a.slots.get? token.pin = some (some current) := Option.join_eq_some_iff.mp hcurrent
        have hstale : (a.release token).result = .error (.staleToken token.pin) := by
          unfold release
          rw [hslot]
          simp only [ne_eq, hid, not_false_eq_true, if_true]
        exact .inr (.inl ⟨current, rfl, hid, hstale, release_failed hstale⟩)

/-- **A token is taken** exactly if its pin is held under its number. -/
theorem release_ok_iff :
    (a.release token).result = .ok () ↔ ∃ current, a.current? token.pin = some current ∧ current.id = token.id := by
  rcases release_cases a token with ⟨hnone, hresult, -⟩ | ⟨current, hcurrent, hid, hresult, -⟩ |
    ⟨current, hcurrent, hid, hresult, -⟩
  · rw [hresult, hnone]
    exact ⟨nofun, fun ⟨_, h, _⟩ => nomatch h⟩
  · rw [hresult, hcurrent]
    refine ⟨nofun, ?_⟩
    rintro ⟨current', hsome, hid'⟩
    exact absurd (Option.some.inj hsome ▸ hid') hid
  · exact ⟨fun _ => ⟨current, hcurrent, hid⟩, fun _ => hresult⟩

end Arbiter

/-! ## Histories -/

/-- **A reservation that was granted.** -/
structure Grant where
  /-- The arbiter that has granted it. -/
  issuer : Nat
  /-- How many reservations the issuer had granted before. -/
  rank : Nat
  token : Token
  deriving DecidableEq

/-- The reservation that a grant stands for. -/
def Grant.reservation (g : Grant) : Reservation := ⟨g.token.id, g.token.use⟩

/-- **Several arbiters, and what they have granted.** -/
structure Arbiters where
  arbiter : Nat → Arbiter
  /-- Every grant that was ever made, oldest first. -/
  granted : List Grant
  /-- The grant that the reservation of a pin at an arbiter comes from. -/
  behind : Nat → String → Option Grant

namespace Arbiters

/-- What a user can do at one of the arbiters. A token is named by the place of its grant among all. -/
inductive Step where
  | reserve (k : Nat) (pin : Pin) (use : PinUse)
  | reserveChecked (k : Nat) (pin : Pin) (use : PinUse)
  | release (k place : Nat)

/-- Arbiters that nobody has used. -/
def start : Arbiters := ⟨fun _ => .empty, [], fun _ _ => none⟩

/-- How many reservations an arbiter has granted. -/
def count (s : Arbiters) (k : Nat) : Nat := s.granted.countP (·.issuer = k)

/-- What is behind each reservation once the one of a pin has changed. -/
def note (s : Arbiters) (k : Nat) (name : String) (grant : Option Grant) : Nat → String → Option Grant :=
  fun k' name' => if k' = k ∧ name' = name then grant else s.behind k' name'

/-- The arbiters once one of them has granted a reservation. -/
def grant (s : Arbiters) (k : Nat) (arbiter : Arbiter) (token : Token) : Arbiters :=
  let g : Grant := ⟨k, s.count k, token⟩
  ⟨Function.update s.arbiter k arbiter, s.granted ++ [g], s.note k token.pin (some g)⟩

/-- What becomes of a request to an arbiter. -/
def take (s : Arbiters) (k : Nat) (o : Arbiter.Outcome Token) : Arbiters :=
  match o.result with
  | .ok token => s.grant k o.arbiter token
  | .error _ => { s with arbiter := Function.update s.arbiter k o.arbiter }

/-- **What a step does.** A token may be shown to any arbiter, also to one that has not issued it, and also again. -/
def act (s : Arbiters) : Step → Arbiters
  | .reserve k pin use => s.take k ((s.arbiter k).reserve pin use)
  | .reserveChecked k pin use => s.take k ((s.arbiter k).reserveChecked pin use)
  | .release k place =>
    match s.granted[place]? with
    | none => s
    | some g =>
      let o := (s.arbiter k).release g.token
      match o.result with
      | .ok () => { s with arbiter := Function.update s.arbiter k o.arbiter, behind := s.note k g.token.pin none }
      | .error _ => { s with arbiter := Function.update s.arbiter k o.arbiter }

/-- The arbiters after steps. -/
def run (s : Arbiters) (steps : List Step) : Arbiters := steps.foldl act s

/-! ## Reservations and grants -/

/-- **What the arbiters have to do with their grants.** A reservation has the use and the number of the grant behind it,
which is of the same arbiter and for the same pin. The number of a grant is its rank, on a counter that wraps. -/
structure Traced (s : Arbiters) : Prop where
  next : ∀ k, (s.arbiter k).nextId = UInt64.ofNat (s.count k)
  number : ∀ g ∈ s.granted, g.token.id = UInt64.ofNat g.rank
  rank_lt : ∀ g ∈ s.granted, g.rank < s.count g.issuer
  unique : ∀ g ∈ s.granted, ∀ g' ∈ s.granted, g.issuer = g'.issuer → g.rank = g'.rank → g = g'
  current : ∀ k name, (s.arbiter k).current? name = (s.behind k name).map Grant.reservation
  known : ∀ k name g, s.behind k name = some g → g ∈ s.granted ∧ g.issuer = k ∧ g.token.pin = name

variable {s : Arbiters} {k : Nat}

theorem traced_start : start.Traced where
  next _ := rfl
  number _ h := nomatch h
  rank_lt _ h := nomatch h
  unique _ h := nomatch h
  current _ _ := rfl
  known _ _ _ h := nomatch h

/-- An arbiter that is put back as it was changes nothing. -/
theorem Traced.still (h : s.Traced) (k : Nat) :
    Traced { s with arbiter := Function.update s.arbiter k (s.arbiter k) } := by
  rw [Function.update_eq_self]
  exact h

theorem count_grant (s : Arbiters) (k k' : Nat) (arbiter : Arbiter) (token : Token) :
    (s.grant k arbiter token).count k' = s.count k' + if k = k' then 1 else 0 := by
  simp only [count, grant, List.countP_append, List.countP_singleton, decide_eq_true_eq]

/-- A grant of an arbiter has fewer before it than the arbiter has made. -/
theorem Traced.rank_ne_count (h : s.Traced) {g : Grant} (hg : g ∈ s.granted) : g.rank ≠ s.count g.issuer :=
  Nat.ne_of_lt (h.rank_lt g hg)

/-- A slot is set, and what is behind it is noted down with it. -/
theorem Traced.current_note (h : s.Traced) (k : Nat) (name : String) (g? : Option Grant) (nextId : UInt64)
    (k' : Nat) (name' : String) :
    (Function.update s.arbiter k ⟨(s.arbiter k).slots.set name (g?.map Grant.reservation), nextId⟩ k').current? name' =
      (s.note k name g? k' name').map Grant.reservation := by
  unfold note
  by_cases hk : k' = k
  · subst hk
    rw [Function.update_self, Arbiter.current?_set]
    by_cases hname : name' = name
    · rw [if_pos hname.symm, if_pos ⟨rfl, hname⟩]
    · rw [if_neg (fun hn => hname hn.symm), if_neg (fun hn => hname hn.2), h.current]
  · rw [Function.update_of_ne hk, if_neg (fun hn => hk hn.1), h.current]

/-- **A new grant** is of the highest rank, and behind the reservation that has just been made. -/
theorem Traced.grant (h : s.Traced) (k : Nat) (name : String) (use : PinUse) :
    (s.grant k ⟨(s.arbiter k).slots.set name (some ⟨(s.arbiter k).nextId, use⟩), (s.arbiter k).nextId + 1⟩
      ⟨name, use, (s.arbiter k).nextId⟩).Traced where
  next k' := by
    rw [count_grant]
    by_cases hk : k' = k
    · subst hk
      simp only [Arbiters.grant, Function.update_self, if_true, h.next, UInt64.ofNat_add]
      rfl
    · simp only [Arbiters.grant, Function.update_of_ne hk, if_neg (Ne.symm hk), h.next, Nat.add_zero]
  number g hg := by
    rcases List.mem_append.mp hg with hold | hnew
    · exact h.number g hold
    · rw [List.mem_singleton.mp hnew]
      exact h.next k
  rank_lt g hg := by
    rw [count_grant]
    rcases List.mem_append.mp hg with hold | hnew
    · exact Nat.lt_of_lt_of_le (h.rank_lt g hold) (Nat.le_add_right _ _)
    · rw [List.mem_singleton.mp hnew, if_pos rfl]
      exact Nat.lt_succ_self _
  unique g hg g' hg' hissuer hrank := by
    rcases List.mem_append.mp hg with hold | hnew
    · rcases List.mem_append.mp hg' with hold' | hnew'
      · exact h.unique g hold g' hold' hissuer hrank
      · rw [List.mem_singleton.mp hnew'] at hissuer hrank
        exact absurd (hissuer ▸ hrank) (h.rank_ne_count hold)
    · rcases List.mem_append.mp hg' with hold' | hnew'
      · rw [List.mem_singleton.mp hnew] at hissuer hrank
        exact absurd (hissuer ▸ hrank.symm) (h.rank_ne_count hold')
      · rw [List.mem_singleton.mp hnew, List.mem_singleton.mp hnew']
  current := h.current_note k name (some ⟨k, s.count k, ⟨name, use, (s.arbiter k).nextId⟩⟩) _
  known k' name' g hg := by
    dsimp only [Arbiters.grant, note] at hg
    split at hg
    · next hat =>
        obtain ⟨rfl, rfl⟩ := hat
        rw [← Option.some.inj hg]
        exact ⟨List.mem_append_right _ List.mem_cons_self, rfl, rfl⟩
    · obtain ⟨hmem, hissuer, hpin⟩ := h.known k' name' g hg
      exact ⟨List.mem_append_left _ hmem, hissuer, hpin⟩

theorem Traced.reserve (h : s.Traced) (k : Nat) (pin : Pin) (use : PinUse) :
    (s.take k ((s.arbiter k).reserve pin use)).Traced := by
  unfold take
  cases hcurrent : (s.arbiter k).current? pin.name with
  | none =>
      obtain ⟨hresult, harbiter⟩ := Arbiter.reserve_of_free use hcurrent
      rw [hresult, harbiter]
      exact h.grant k pin.name use
  | some current =>
      obtain ⟨hresult, harbiter⟩ := Arbiter.reserve_of_held use hcurrent
      rw [hresult, harbiter]
      exact h.still k

/-- A reservation that was ended has nothing behind it, and every other one has what it had. -/
theorem Traced.vacate (h : s.Traced) (k : Nat) (name : String) :
    Traced { s with
      arbiter := Function.update s.arbiter k ⟨(s.arbiter k).slots.set name none, (s.arbiter k).nextId⟩
      behind := s.note k name none } where
  next k' := by
    by_cases hk : k' = k
    · subst hk
      dsimp only
      rw [Function.update_self]
      exact h.next k'
    · dsimp only
      rw [Function.update_of_ne hk]
      exact h.next k'
  number := h.number
  rank_lt := h.rank_lt
  unique := h.unique
  current := h.current_note k name none _
  known k' name' g hg := by
    dsimp only [note] at hg
    split at hg
    · contradiction
    · exact h.known k' name' g hg

/-- **One step preserves the tracing.** -/
theorem traced_act (h : s.Traced) (step : Step) : (s.act step).Traced := by
  cases step with
  | reserve k pin use => exact h.reserve k pin use
  | reserveChecked k pin use =>
      cases hsupports : pin.supports use with
      | true =>
          simp only [act, Arbiter.reserveChecked_of_supports hsupports]
          exact h.reserve k pin use
      | false =>
          obtain ⟨hresult, harbiter⟩ := Arbiter.reserveChecked_of_not_supports (a := s.arbiter k) hsupports
          simp only [act, take, hresult, harbiter]
          exact h.still k
  | release k place =>
      simp only [act]
      split
      · exact h
      · next g _ =>
          rcases Arbiter.release_cases (s.arbiter k) g.token with ⟨-, hresult, harbiter⟩ |
            ⟨_, -, -, hresult, harbiter⟩ | ⟨_, -, -, hresult, harbiter⟩
          · simp only [hresult, harbiter]
            exact h.still k
          · simp only [hresult, harbiter]
            exact h.still k
          · simp only [hresult, harbiter]
            exact h.vacate k g.token.pin

/-- **A history preserves the tracing.** -/
theorem traced_run (h : s.Traced) (steps : List Step) : (s.run steps).Traced := by
  induction steps generalizing s with
  | nil => exact h
  | cons step rest ih => exact ih (traced_act h step)

/-! ## Which tokens are taken -/

/-- A token is shown where its reservation is: the arbiter has issued it, and its grant is behind the reservation. -/
def Proves (s : Arbiters) (k : Nat) (g : Grant) : Prop := g.issuer = k ∧ s.behind k g.token.pin = some g

instance (s : Arbiters) (k : Nat) (g : Grant) : Decidable (s.Proves k g) :=
  inferInstanceAs (Decidable (g.issuer = k ∧ s.behind k g.token.pin = some g))

/-- **How an arbiter judges the token of a grant.** -/
structure Judged (s : Arbiters) (k : Nat) (g : Grant) : Prop where
  /-- A token is taken exactly if what is behind the reservation of its pin is of the same rank, on the counter. -/
  taken_iff : ((s.arbiter k).release g.token).result = .ok () ↔
    ∃ g', s.behind k g.token.pin = some g' ∧ g'.rank ≡ g.rank [MOD 2 ^ 64]
  /-- So it is taken wrongly exactly if that is another grant of the same rank. -/
  mistaken_iff : ((s.arbiter k).release g.token).result = .ok () ∧ ¬ s.Proves k g ↔
    ∃ g', s.behind k g.token.pin = some g' ∧ g' ≠ g ∧ g'.rank ≡ g.rank [MOD 2 ^ 64]
  /-- A token that proves its reservation is taken. -/
  own : s.Proves k g → ((s.arbiter k).release g.token).result = .ok ()
  /-- The issuer of a token takes it for no other reservation until its counter has wrapped. -/
  home : g.issuer = k → s.count k ≤ 2 ^ 64 → ((s.arbiter k).release g.token).result = .ok () → s.Proves k g
  /-- A token that is taken ends the reservation of its pin, and no other. -/
  ends : ((s.arbiter k).release g.token).result = .ok () → ∀ name,
    ((s.arbiter k).release g.token).arbiter.reservation? name =
      if g.token.pin = name then none else (s.arbiter k).reservation? name
  /-- A token that is not taken leaves the arbiter as it is, and the error says whether the pin is held. -/
  refused : ((s.arbiter k).release g.token).result ≠ .ok () →
    ((s.arbiter k).release g.token).result = .error (if (s.arbiter k).isReserved g.token.pin
        then .staleToken g.token.pin else .notReserved g.token.pin) ∧
      ((s.arbiter k).release g.token).arbiter = s.arbiter k

variable {g : Grant}

/-- Numbers agree exactly if ranks do, up to the width of the counter. -/
theorem Traced.number_eq_iff (h : s.Traced) {g' : Grant} (hg : g ∈ s.granted) (hg' : g' ∈ s.granted) :
    g'.token.id = g.token.id ↔ g'.rank ≡ g.rank [MOD 2 ^ 64] := by
  rw [h.number g hg, h.number g' hg', ← UInt64.toNat_inj, UInt64.toNat_ofNat', UInt64.toNat_ofNat']
  rfl

theorem Traced.taken_iff (h : s.Traced) (hg : g ∈ s.granted) (k : Nat) :
    ((s.arbiter k).release g.token).result = .ok () ↔
      ∃ g', s.behind k g.token.pin = some g' ∧ g'.rank ≡ g.rank [MOD 2 ^ 64] := by
  rw [Arbiter.release_ok_iff, h.current]
  constructor
  · rintro ⟨current, hcurrent, hid⟩
    obtain ⟨g', hbehind, rfl⟩ := Option.map_eq_some_iff.mp hcurrent
    exact ⟨g', hbehind, (h.number_eq_iff hg (h.known _ _ _ hbehind).1).mp hid⟩
  · rintro ⟨g', hbehind, hrank⟩
    rw [hbehind]
    exact ⟨g'.reservation, rfl, (h.number_eq_iff hg (h.known _ _ _ hbehind).1).mpr hrank⟩

/-- What is behind a reservation has been granted by the arbiter that the reservation is at. -/
theorem Traced.proves_iff (h : s.Traced) : s.Proves k g ↔ s.behind k g.token.pin = some g :=
  ⟨And.right, fun hbehind => ⟨(h.known _ _ _ hbehind).2.1, hbehind⟩⟩

theorem Traced.mistaken_iff (h : s.Traced) (hg : g ∈ s.granted) (k : Nat) :
    ((s.arbiter k).release g.token).result = .ok () ∧ ¬ s.Proves k g ↔
      ∃ g', s.behind k g.token.pin = some g' ∧ g' ≠ g ∧ g'.rank ≡ g.rank [MOD 2 ^ 64] := by
  rw [h.taken_iff hg, h.proves_iff]
  constructor
  · rintro ⟨⟨g', hbehind, hrank⟩, hnot⟩
    exact ⟨g', hbehind, fun heq => hnot (heq ▸ hbehind), hrank⟩
  · rintro ⟨g', hbehind, hne, hrank⟩
    exact ⟨⟨g', hbehind, hrank⟩, fun hself => hne (Option.some.inj (hbehind.symm.trans hself))⟩

/-- Two ranks that the counter has not wrapped between are equal if their numbers are. -/
theorem Traced.home (h : s.Traced) (hg : g ∈ s.granted) (hissuer : g.issuer = k) (hcount : s.count k ≤ 2 ^ 64)
    (htaken : ((s.arbiter k).release g.token).result = .ok ()) : s.Proves k g := by
  obtain ⟨g', hbehind, hrank⟩ := (h.taken_iff hg k).mp htaken
  obtain ⟨hg', hissuer', -⟩ := h.known _ _ _ hbehind
  have hlt := h.rank_lt g hg
  have hlt' := h.rank_lt g' hg'
  rw [hissuer] at hlt
  rw [hissuer'] at hlt'
  have hsame : g'.rank = g.rank :=
    hrank.eq_of_lt_of_lt (Nat.lt_of_lt_of_le hlt' hcount) (Nat.lt_of_lt_of_le hlt hcount)
  obtain rfl := h.unique g' hg' g hg (hissuer'.trans hissuer.symm) hsame
  exact ⟨hissuer, hbehind⟩

theorem Traced.judged (h : s.Traced) (hg : g ∈ s.granted) (k : Nat) : s.Judged k g where
  taken_iff := h.taken_iff hg k
  mistaken_iff := h.mistaken_iff hg k
  own hproves := (h.taken_iff hg k).mpr ⟨g, hproves.2, rfl⟩
  home hissuer hcount := h.home hg hissuer hcount
  ends htaken name := by
    obtain ⟨current, hcurrent, hid⟩ := Arbiter.release_ok_iff.mp htaken
    rw [(Arbiter.release_of_current hcurrent hid).2, Arbiter.reservation?, Arbiter.current?_set]
    split
    · rfl
    · rfl
  refused hnot := by
    rcases Arbiter.release_cases (s.arbiter k) g.token with ⟨hnone, hresult, harbiter⟩ |
      ⟨current, hcurrent, -, hresult, harbiter⟩ | ⟨_, -, -, hresult, -⟩
    · have hfree := Arbiter.isReserved_eq_false_iff.mpr hnone
      rw [hresult, hfree]
      exact ⟨rfl, harbiter⟩
    · have hheld : (s.arbiter k).isReserved g.token.pin = true := by
        rw [Arbiter.isReserved, Arbiter.reservation?, hcurrent]
        rfl
      rw [hresult, hheld]
      exact ⟨rfl, harbiter⟩
    · exact absurd hresult hnot

/-- **How tokens are judged in every history.** -/
theorem judged_run (steps : List Step) (k : Nat) (g : Grant) (hg : g ∈ (start.run steps).granted) :
    (start.run steps).Judged k g :=
  (traced_run traced_start steps).judged hg k

/-! ## Crossed tokens -/

/-- A pin that is on two boards. -/
def shared : Pin := ⟨"D00", 0, [.digital true true true]⟩

/-- **Two arbiters that have each reserved a pin of one name**, each as its first reservation. -/
def crossed : List Step := [.reserve 0 shared .digitalInput, .reserve 1 shared .digitalOutput]

/-- The second of the two grants. -/
def foreign : Grant := ⟨1, 0, ⟨"D00", .digitalOutput, 0⟩⟩

/-- **The first arbiter takes the token of the second**, and its own reservation is gone. -/
theorem judged_run_crossed :
    foreign ∈ (start.run crossed).granted ∧
      (((start.run crossed).arbiter 0).release foreign.token).result = .ok () ∧
      ((start.run crossed).arbiter 0).reservation? "D00" = some .digitalInput ∧
      (((start.run crossed).arbiter 0).release foreign.token).arbiter.reservation? "D00" = none := by
  have hmem : foreign ∈ (start.run crossed).granted := by decide
  have hjudged := judged_run crossed 0 foreign hmem
  have htaken : (((start.run crossed).arbiter 0).release foreign.token).result = .ok () :=
    hjudged.taken_iff.mpr ⟨⟨0, 0, ⟨"D00", .digitalInput, 0⟩⟩, by decide, rfl⟩
  exact ⟨hmem, htaken, by decide, hjudged.ends htaken "D00"⟩

/-- **A token releases only the reservation that it proves**: what does not prove its reservation is refused, and leaves
the arbiter as it is. -/
def OnlyOwn (s : Arbiters) : Prop :=
  ∀ k, ∀ g ∈ s.granted, (((s.arbiter k).release g.token).result = .ok () → s.Proves k g) ∧
    (¬ s.Proves k g → ∃ e, ((s.arbiter k).release g.token).result = .error e ∧
      ((s.arbiter k).release g.token).arbiter = s.arbiter k)

/-- **Crossed tokens do not.** -/
theorem not_onlyOwn_crossed : ¬ (start.run crossed).OnlyOwn := by
  intro h
  have hproves := (h 0 foreign (by decide)).1 rfl
  exact absurd hproves.1 (by decide)

end Arbiters

end Peripherals
