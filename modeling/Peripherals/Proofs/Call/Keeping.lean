import Peripherals.Proofs.Call.Heard
import Peripherals.Proofs.Call.Overlap
import Peripherals.Proofs.Session.Consistency

/-!
# `Proofs.Call.Keeping` — what a session keeps while disconnects follow each other

Most operations write the session afresh, so that a property of sessions can be looked up operation by operation. A
disconnect that is refused does not: it puts back the state that it remembers, beside the network and the failure of
today. If no disconnect overlaps another, what it puts back is the session that it found, because nothing else changes
the session as long as it has not left `disconnecting`.

So a property that every other operation respects (`Session.Stable`) is kept by every run in which disconnects follow
each other (`Desk.upholds_run`). Two such properties are that a connected session knows its network, and that a session
on which a connect has begun is consistent and never becomes unknown again (`Session.Engaged`).
-/

namespace Peripherals.Coprocessor

namespace Session

/-- **A property that every operation respects**, the refusal of a disconnect left aside. -/
structure Stable (P : Session → Prop) : Prop where
  connecting : P ⟨.connecting, none, none⟩
  aborted : ∀ s, P s → s.state = .connecting → P { s with state := .disconnected }
  failed : ∀ (s : Session) (status : Status), status ≠ .completed → P (s.recordFailure status).session
  joined : ∀ s network, P s → P ⟨.connected, some network, s.lastStatus⟩
  leaving : ∀ s, P s → P { s with state := .disconnecting }
  parted : ∀ s, P s → P ⟨.disconnected, none, s.lastStatus⟩

theorem stable_not_bare : Stable fun s => ¬ s.Bare where
  connecting := by decide
  aborted := by
    intro s _ _ hbare
    exact State.noConfusion hbare.1
  failed := by
    intro s status _ hbare
    exact State.noConfusion hbare.1
  joined := by
    intro s network _ hbare
    exact absurd hbare.2 (Option.some_ne_none network)
  leaving := by
    intro s _ hbare
    exact State.noConfusion hbare.1
  parted := by
    intro s _ hbare
    exact State.noConfusion hbare.1

/-- **A session on which a connect has begun**: it is consistent, and it is not unknown any more. -/
structure Engaged (s : Session) : Prop where
  consistent : s.Consistent
  known : s.state ≠ .unknown

theorem engaged_connecting : Engaged ⟨.connecting, none, none⟩ :=
  ⟨consistent_connecting, State.noConfusion⟩

theorem stable_engaged : Stable Engaged where
  connecting := engaged_connecting
  aborted s h hstate := by
    -- An attempt that is still pending knows no network.
    have hdetails : s.details = none := h.consistent.details_of_apart (.inr (.inr hstate))
    rw [hdetails]
    exact ⟨consistent_disconnected s.lastStatus, State.noConfusion⟩
  failed _ _ hstatus := ⟨consistent_recordFailure hstatus, State.noConfusion⟩
  joined s network _ := ⟨consistent_connected network s.lastStatus, State.noConfusion⟩
  leaving s _ := ⟨consistent_disconnecting s.details s.lastStatus, State.noConfusion⟩
  parted s _ := ⟨consistent_disconnected s.lastStatus, State.noConfusion⟩

end Session

namespace Desk

/-- **A property stands at a desk**: the session has it, and would have it if a disconnect under way were refused. -/
structure Upholds (P : Session → Prop) (d : Desk) : Prop where
  stands : P d.adapter.session
  restorable : ∀ n prior, d.call? n = some (.leaving prior) → d.state = .disconnecting →
    P { d.adapter.session with state := prior }
  apart : d.BegunApart

variable {P : Session → Prop} {d : Desk} {m : Move}

/-- Outside `disconnecting` no refusal puts anything back. -/
theorem upholds_of_ne (h : P d.adapter.session) (hout : d.state ≠ .disconnecting) (hapart : d.BegunApart) :
    d.Upholds P where
  stands := h
  restorable _ _ _ hin := absurd hin hout
  apart := hapart

theorem Upholds.stands_act (h : d.Upholds P) (hP : Session.Stable P) (m : Move) : P (d.act m).adapter.session := by
  obtain ⟨t, hshift, hadvanced⟩ := shift_act d m
  rw [hadvanced.session]
  cases hshift with
  | keep => exact h.stands
  | connect _ _ => exact hP.connecting
  | disconnect _ => exact hP.leaving _ h.stands
  | lose _ hstate => exact hP.aborted _ h.stands hstate
  | fail _ hstatus => exact hP.failed _ _ hstatus
  | restore hcall hstate => exact h.restorable _ _ hcall hstate
  | leave _ _ => exact hP.parted _ h.stands
  | report hstatus => exact hP.failed _ _ hstatus
  | joined _ _ _ => exact hP.joined _ _ h.stands
  | parted _ _ => exact hP.parted _ h.stands
  | passOn hsame _ =>
      rw [hsame]
      exact h.stands

/-- **One move** of disconnects that do not overlap keeps what every operation respects. -/
theorem upholds_act (hP : Session.Stable P) (h : d.Upholds P) (hfree : m.isDisconnect = true → d.isLeaving = false) :
    (d.act m).Upholds P where
  stands := h.stands_act hP m
  apart := begunApart_act h.apart m
  restorable n prior hcall hin := by
    rcases leaving_act hcall with hold | ⟨-, rfl, -, hsession⟩
    · by_cases hstate : d.state = .disconnecting
      · rw [session_act_of_disconnecting h.apart hstate hin]
        exact h.restorable n prior hold hstate
      · have hdisconnect := isDisconnect_of_enters h.apart hstate hin
        exact absurd hold (not_leaving_of_isLeaving (hfree hdisconnect))
    · -- A disconnect that begins remembers the state and leaves the rest as it is.
      rw [hsession]
      exact h.stands

/-- **A run** of disconnects that do not overlap keeps it, too. -/
theorem upholds_run (hP : Session.Stable P) (h : d.Upholds P) {moves : List Move} (horderly : d.Orderly moves) :
    (d.run moves).Upholds P := by
  induction moves generalizing d with
  | nil => exact h
  | cons m rest ih =>
      obtain ⟨hfree, hrest⟩ := horderly
      exact ih (upholds_act hP h hfree) hrest

end Desk

end Peripherals.Coprocessor
