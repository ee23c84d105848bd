import Mathlib.Data.List.Induction
import Peripherals.Throttle

/-!
# `Proofs.Log.Throttling` — how many messages a throttle lets through

A throttle judges messages one by one, and keeps two numbers and an instant of all that it has seen. What it should do
is said by periods instead: a `Period` begins when the throttle is made, when it is reset, and with a message for which
the window is over. Of the messages of a period the first ones pass, as many as the cap allows, and the others do not.

A throttle follows its periods over every history (`follows_after`), but it counts their messages on 32 bits. So it
judges a period as it should (`Fair`) up to the last message that can be counted, and not beyond.

* `Throttle.Use`, `Throttle.after`, `Throttle.verdicts` — what is done with a throttle, and how it judges;
* `Throttle.Period`, `Throttle.period` — what has been seen since the last restart;
* `Throttle.Fair`, `Throttle.fair_of_countable` — the first messages of a period pass, and no others;
* `Throttle.KeepsCap`, `Throttle.not_keepsCap` — why that cannot be said without a bound.
-/

namespace Peripherals

namespace Throttle

/-! ## Histories -/

/-- What is done with a throttle, with the instant at which it is done. -/
inductive Use where
  | allow (now : Nat)
  | reset (now : Nat)
  deriving DecidableEq

def Use.now : Use → Nat
  | .allow now => now
  | .reset now => now

/-- A throttle after a use. -/
def handle (t : Throttle) : Use → Throttle
  | .allow now => (t.allow now).2.1
  | .reset now => t.reset now

/-- How a use is answered: only messages are judged. -/
def answers (t : Throttle) : Use → List Bool
  | .allow now => [(t.allow now).1]
  | .reset _ => []

/-- A throttle after some uses. -/
def after (t : Throttle) (uses : List Use) : Throttle := uses.foldl handle t

/-- **How the messages are judged** that come in the course of some uses, in their order. -/
def verdicts (t : Throttle) : List Use → List Bool
  | [] => []
  | u :: uses => t.answers u ++ (t.handle u).verdicts uses

variable {t : Throttle} {uses : List Use} {u : Use}

theorem after_snoc : t.after (uses ++ [u]) = (t.after uses).handle u := by
  rw [after, List.foldl_append, List.foldl_cons, List.foldl_nil, ← after]

theorem verdicts_snoc : t.verdicts (uses ++ [u]) = t.verdicts uses ++ (t.after uses).answers u := by
  induction uses generalizing t with
  | nil => exact List.append_nil _
  | cons u' uses ih =>
    rw [List.cons_append, verdicts, ih, verdicts, List.append_assoc]
    rfl

/-! ## Periods -/

/-- **What has been seen since the last restart.** -/
structure Period where
  /-- The instant of the restart. -/
  start : Nat
  /-- The messages since, with the one that was the restart. -/
  messages : Nat
  deriving DecidableEq

namespace Period

/-- The period to which a message belongs: once it `isOver`, another one begins. -/
def refresh (isOver : Duration → Bool) (p : Period) (now : Nat) : Period :=
  if isOver ⟨now - p.start⟩ then ⟨now, 0⟩ else p

/-- The period after one more use. -/
def next (isOver : Duration → Bool) (p : Period) : Use → Period
  | .allow now => ⟨(p.refresh isOver now).start, (p.refresh isOver now).messages + 1⟩
  | .reset now => ⟨now, 0⟩

end Period

/-- **The period after some uses** of a throttle that was made at an instant. -/
def period (isOver : Duration → Bool) (made : Nat) (uses : List Use) : Period :=
  uses.foldl (Period.next isOver) ⟨made, 0⟩

variable {isOver : Duration → Bool} {made window : Nat} {cap : UInt32}

theorem period_snoc : period isOver made (uses ++ [u]) = (period isOver made uses).next isOver u := by
  rw [period, List.foldl_append, List.foldl_cons, List.foldl_nil, ← period]

/-- How the messages of a period should be judged: the first ones pass. -/
def inOrder (cap messages : Nat) : List Bool :=
  List.replicate (min messages cap) true ++ List.replicate (messages - min messages cap) false

theorem inOrder_succ (cap messages : Nat) :
    inOrder cap (messages + 1) = inOrder cap messages ++ [decide (messages + 1 ≤ cap)] := by
  unfold inOrder
  by_cases hpass : messages + 1 ≤ cap
  · rw [decide_eq_true hpass, Nat.min_eq_left hpass, Nat.min_eq_left (by omega), Nat.sub_self, Nat.sub_self,
      List.replicate_succ']
    simp
  · rw [decide_eq_false hpass, Nat.min_eq_right (by omega), Nat.min_eq_right (by omega), List.append_assoc,
      ← List.replicate_succ', Nat.sub_add_comm (by omega)]

/-- **The messages of a period were judged as they should be**: these are the last of all verdicts, and the messages
that were held back are counted. -/
structure Fair (cap : Nat) (p : Period) (verdicts : List Bool) (suppressed : Nat) : Prop where
  verdicts : inOrder cap p.messages <:+ verdicts
  suppressed : suppressed = p.messages - min p.messages cap

theorem fair_fresh {cap now : Nat} {vs : List Bool} : Fair cap ⟨now, 0⟩ vs 0 := ⟨List.nil_suffix, by simp⟩

/-! ## What a throttle keeps of its period -/

/-- A span of more whole milliseconds than the window has. -/
def wholly (window : Nat) (d : Duration) : Bool := window < d.millis

/-- **A throttle has its period before it**, but for what a 32-bit counter does not tell. -/
structure Follows (t : Throttle) (window : Nat) (cap : UInt32) (p : Period) : Prop where
  window : t.window = window
  cap : t.cap = cap
  start : t.start = p.start
  count : t.count.toNat = p.messages % UInt32.size

variable {p : Period} {now : Nat}

theorem follows_new : Follows (new window cap made) window cap ⟨made, 0⟩ := ⟨rfl, rfl, rfl, rfl⟩

theorem Follows.reset (h : t.Follows window cap p) : (t.reset now).Follows window cap ⟨now, 0⟩ :=
  ⟨h.window, h.cap, rfl, rfl⟩

theorem Follows.expired (h : t.Follows window cap p) : t.expired now = wholly window ⟨now - p.start⟩ := by
  rw [Throttle.expired, age, h.window, h.start, wholly]

theorem Follows.refresh (h : t.Follows window cap p) :
    (t.refresh now).Follows window cap (p.refresh (wholly window) now) := by
  rw [Throttle.refresh, Period.refresh, h.expired]
  split
  · exact h.reset
  · exact h

theorem tally_eq (t : Throttle) :
    t.tally = (decide (t.count + 1 ≤ t.cap),
      { t with count := t.count + 1, suppressed := t.suppressed + if t.count + 1 ≤ t.cap then 0 else 1 }) := by
  unfold tally
  by_cases hpass : t.count + 1 ≤ t.cap
  · simp [hpass]
  · simp [hpass]

theorem Follows.count_succ (h : t.Follows window cap p) : (t.count + 1).toNat = (p.messages + 1) % UInt32.size := by
  rw [UInt32.toNat_add, h.count]
  exact Nat.mod_add_mod p.messages UInt32.size 1

theorem Follows.tally (h : t.Follows window cap p) : t.tally.2.Follows window cap ⟨p.start, p.messages + 1⟩ := by
  rw [tally_eq]
  exact ⟨h.window, h.cap, h.start, h.count_succ⟩

theorem Follows.handle (h : t.Follows window cap p) (u : Use) :
    (t.handle u).Follows window cap (p.next (wholly window) u) := by
  cases u with
  | allow now => exact h.refresh.tally
  | reset now => exact h.reset

/-- **A throttle follows its periods**, over every history. -/
theorem follows_after (window : Nat) (cap : UInt32) (made : Nat) (uses : List Use) :
    ((new window cap made).after uses).Follows window cap (period (wholly window) made uses) := by
  induction uses using List.reverseRecOn with
  | nil => exact follows_new
  | append_singleton uses u ih =>
    rw [after_snoc, period_snoc]
    exact ih.handle u

theorem Follows.judged (h : t.Follows window cap p) :
    t.count + 1 ≤ t.cap ↔ (p.messages + 1) % UInt32.size ≤ cap.toNat := by
  rw [UInt32.le_iff_toNat_le, h.count_succ, h.cap]

/-- **How a message is judged**, by its place in its period. -/
theorem Follows.answers (h : t.Follows window cap p) :
    t.answers (.allow now) = [decide ((p.next (wholly window) (.allow now)).messages % UInt32.size ≤ cap.toNat)] := by
  show [(t.refresh now).tally.1] = _
  rw [tally_eq]
  exact congrArg (fun passes => [passes]) (decide_eq_decide.mpr h.refresh.judged)

/-! ## Periods that can be counted -/

variable {vs : List Bool}

theorem Follows.fair_refresh (h : t.Follows window cap p)
    (hfair : p.messages < UInt32.size → Fair cap.toNat p vs t.suppressed)
    (hcountable : (p.refresh (wholly window) now).messages < UInt32.size) :
    Fair cap.toNat (p.refresh (wholly window) now) vs (t.refresh now).suppressed := by
  rw [Period.refresh] at hcountable ⊢
  rw [Throttle.refresh, h.expired]
  split
  · exact fair_fresh
  · next hopen =>
    rw [if_neg hopen] at hcountable
    exact hfair hcountable

theorem Follows.fair_tally (h : t.Follows window cap p) (hfair : Fair cap.toNat p vs t.suppressed)
    (hcountable : p.messages + 1 < UInt32.size) :
    Fair cap.toNat ⟨p.start, p.messages + 1⟩ (vs ++ [t.tally.1]) t.tally.2.suppressed := by
  have hjudged : t.count + 1 ≤ t.cap ↔ p.messages + 1 ≤ cap.toNat := by rw [h.judged, Nat.mod_eq_of_lt hcountable]
  have hsuppressed := hfair.suppressed
  obtain ⟨before, hvs⟩ := hfair.verdicts
  rw [tally_eq]
  constructor
  case verdicts =>
    refine ⟨before, ?_⟩
    rw [inOrder_succ, ← List.append_assoc, hvs, decide_eq_decide.mpr hjudged]
  case suppressed =>
    show t.suppressed + (if t.count + 1 ≤ t.cap then 0 else 1) = p.messages + 1 - min (p.messages + 1) cap.toNat
    rw [if_congr hjudged rfl rfl]
    split
    · omega
    · omega

/-- **A throttle lets through the first messages of a period, and no others**, as long as it can count them: after
every history, whatever its window and its cap. -/
theorem fair_of_countable (window : Nat) (cap : UInt32) (made : Nat) (uses : List Use)
    (hcountable : (period (wholly window) made uses).messages < UInt32.size) :
    Fair cap.toNat (period (wholly window) made uses) ((new window cap made).verdicts uses)
      ((new window cap made).after uses).suppressed := by
  induction uses using List.reverseRecOn with
  | nil => exact fair_fresh
  | append_singleton uses u ih =>
    -- A message that begins a period makes up for all that was not counted before.
    have hfollows := follows_after window cap made uses
    rw [period_snoc] at hcountable ⊢
    rw [after_snoc, verdicts_snoc]
    cases u with
    | reset now => exact fair_fresh
    | allow now =>
      have hfair := hfollows.fair_refresh ih (Nat.lt_of_succ_lt hcountable)
      exact hfollows.refresh.fair_tally hfair hcountable

/-- Five messages at once, of which three may pass. -/
theorem fair_of_five :
    (period (wholly 1000) 0 (List.replicate 5 (.allow 0))).messages < UInt32.size ∧
      [true, true, true, false, false] <:+ (new 1000 3 0).verdicts (List.replicate 5 (.allow 0)) ∧
      ((new 1000 3 0).after (List.replicate 5 (.allow 0))).suppressed = 2 := by
  have hcountable : (period (wholly 1000) 0 (List.replicate 5 (.allow 0))).messages < UInt32.size := by decide
  have hfair := fair_of_countable 1000 3 0 (List.replicate 5 (.allow 0)) hcountable
  exact ⟨hcountable, hfair.verdicts, hfair.suppressed⟩

/-! ## What cannot be promised -/

/-- **The cap is kept in every period**, if a window is over after these spans: whatever is done, in the order of
time. -/
def KeepsCap (isOver : Nat → Duration → Bool) : Prop :=
  ∀ (window : Nat) (cap : UInt32) (made : Nat) (uses : List Use), (made :: uses.map Use.now).Pairwise (· ≤ ·) →
    Fair cap.toNat (period (isOver window) made uses) ((new window cap made).verdicts uses)
      ((new window cap made).after uses).suppressed

/-- A span that is longer than the window. -/
def strictly (window : Nat) (d : Duration) : Bool := (Duration.ofMillis window).nanos < d.nanos

/-- Messages that all come at once belong to one period. -/
theorem period_replicate (window made n : Nat) :
    period (wholly window) made (List.replicate n (.allow made)) = ⟨made, n⟩ := by
  induction n with
  | zero => rfl
  | succ n ih =>
    have hopen : wholly window ⟨made - made⟩ = false := by simp [wholly, Duration.millis]
    rw [List.replicate_succ', period_snoc, ih, Period.next, Period.refresh, hopen]
    rfl

theorem verdicts_replicate (window : Nat) (cap : UInt32) (made n : Nat) :
    (new window cap made).verdicts (List.replicate (n + 1) (.allow made)) =
      (new window cap made).verdicts (List.replicate n (.allow made)) ++
        [decide ((n + 1) % UInt32.size ≤ cap.toNat)] := by
  have hfollows := follows_after window cap made (List.replicate n (.allow made))
  rw [List.replicate_succ', verdicts_snoc, hfollows.answers, ← period_snoc, ← List.replicate_succ', period_replicate]

/-- What comes less than a millisecond too late does not begin another period; and the counter comes back to zero, so
that a message passes that no cap allows. -/
theorem not_keepsCap : ¬ KeepsCap strictly ∧ ¬ KeepsCap wholly := by
  constructor
  · intro hkeeps
    have hfair := hkeeps 0 1 0 [.allow 1, .allow 2] (by decide)
    exact absurd hfair.verdicts (by decide)
  · intro hkeeps
    -- Under a cap of zero, the last of any number of messages would be held back.
    have hblocked : ∀ n, (n + 1) % UInt32.size ≠ 0 := by
      intro n hzero
      have hfair := hkeeps 0 0 0 (List.replicate (n + 1) (.allow 0)) (by simp [Use.now])
      obtain ⟨before, hvs⟩ := hfair.verdicts
      rw [period_replicate, inOrder_succ, ← List.append_assoc, verdicts_replicate, hzero] at hvs
      have hlast := congrArg List.getLast? hvs
      simp at hlast
    exact hblocked (UInt32.size - 1) rfl

end Throttle

end Peripherals
