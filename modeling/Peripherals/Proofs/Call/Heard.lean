import Peripherals.Proofs.Call.Overlap
import Peripherals.Proofs.Call.Told

/-!
# `Proofs.Call.Heard` — what subscribers last heard fits the state

A session never becomes `connected` or `error` without a notice for its subscribers: whenever it is in one of these
states, the last notice about connectivity says so (`Desk.heard_run`). Here a move and its notices are one. When and in
what order the notices of several tasks go out is the matter of `Proofs.Call.Office`.

The notices themselves are decided from the state just before a transition, so that most of this is seen step by
step. A disconnect that is refused is the exception: it puts a state back without a word. That is sound because
nothing about connectivity is told while the session stays in `disconnecting`, so that what was last heard when the
disconnect began is still the last that was heard. `Heard.restorable` carries that along. It needs disconnects to
follow each other (`Desk.Orderly`); with two at a time it fails, as `Course.refusedLate` shows.
-/

namespace Peripherals.Coprocessor

/-! ## One disconnect after the other -/

/-- Whether a call disconnects. -/
def Call.isLeaving : Call → Bool
  | .leaving _ => true
  | _ => false

/-- Whether a move asks for a disconnect. -/
def Move.isDisconnect : Move → Bool
  | .ask (.disconnect _) _ _ => true
  | _ => false

namespace Desk

variable {d : Desk} {m : Move} {n : Nat} {prior : State}

/-- Whether a disconnect is in progress. -/
def isLeaving (d : Desk) : Bool := d.calls.any (·.any Call.isLeaving)

/-- **No disconnect is asked for while another is in progress.** Connects may overlap anything. -/
def Orderly : Desk → List Move → Prop
  | _, [] => True
  | d, m :: rest => (m.isDisconnect = true → d.isLeaving = false) ∧ Orderly (d.act m) rest

instance decidableOrderly : (d : Desk) → (moves : List Move) → Decidable (Orderly d moves)
  | _, [] => inferInstanceAs (Decidable True)
  | d, m :: rest =>
    have := decidableOrderly (d.act m) rest
    inferInstanceAs (Decidable ((m.isDisconnect = true → d.isLeaving = false) ∧ Orderly (d.act m) rest))

theorem orderly_append {ms ms' : List Move} :
    Orderly d (ms ++ ms') ↔ Orderly d ms ∧ Orderly (d.run ms) ms' := by
  induction ms generalizing d with
  | nil => exact ⟨fun h => ⟨trivial, h⟩, And.right⟩
  | cons m rest ih =>
      rw [List.cons_append, Orderly, Orderly, ih, and_assoc]
      rfl

theorem not_leaving_of_isLeaving (h : d.isLeaving = false) : d.call? n ≠ some (.leaving prior) := by
  intro hcall
  unfold call? at hcall
  have hmem : some (Call.leaving prior) ∈ d.calls := List.mem_of_getElem? (Option.join_eq_some_iff.mp hcall)
  have hany : d.isLeaving = true := List.any_eq_true.mpr ⟨_, hmem, rfl⟩
  rw [h] at hany
  contradiction

/-- A disconnect that was not in progress before a move has been asked for by it. -/
theorem isDisconnect_of_leaving (h : (d.act m).call? n = some (.leaving prior))
    (hnew : d.call? n ≠ some (.leaving prior)) : m.isDisconnect = true := by
  rcases origin_act h with hold | ⟨ssid, deadline, wake, hw⟩ | ⟨-, request, now, cancelled, started, rfl, hstart, hc⟩
  · exact absurd hold hnew
  · contradiction
  · rcases Call.start_cases hstart with ⟨_, _, _, _, -, -, -, hj⟩ | ⟨_, _, rfl, -, -, -⟩ | ⟨-, -, hnone⟩
    · rw [hj] at hc
      contradiction
    · rfl
    · exact absurd hc.symm (hnone prior)

/-- A session enters `disconnecting` only when a disconnect is asked for. -/
theorem isDisconnect_of_enters (h : d.BegunApart) (hout : d.state ≠ .disconnecting)
    (hin : (d.act m).state = .disconnecting) : m.isDisconnect = true := by
  obtain ⟨t, hshift, hadvanced⟩ := shift_act d m
  rw [state, hadvanced.session] at hin
  cases hshift with
  | disconnect _ => rfl
  | keep => exact absurd hin hout
  | restore hcall _ => exact absurd hin (h _ _ hcall)
  | passOn hsame _ =>
      rw [hsame] at hin
      exact absurd hin hout
  -- All other moves take the session somewhere else.
  | connect _ _ => contradiction
  | lose _ _ => contradiction
  | fail _ _ => contradiction
  | leave _ _ => contradiction
  | report _ => contradiction
  | joined _ _ _ => contradiction
  | parted _ _ => contradiction

end Desk

/-! ## The invariant -/

/-- **What was last heard fits a state**: subscribers of a session that is connected, or in error, have heard so. -/
structure State.Fits (st : State) (last : Option Notice) : Prop where
  connected : st = .connected → ∃ details, last = some (.connected details)
  failed : st = .error → ∃ status, last = some (.failed status)

namespace State.Fits

variable {s : Session} {last : Option Notice}

/-- Of the other states nothing has to be heard. -/
theorem of_ne {st : State} (hc : st ≠ .connected) (he : st ≠ .error) : Fits st last :=
  ⟨fun h => absurd h hc, fun h => absurd h he⟩

theorem recordFailure (h : Fits s.state last) (status : Status) :
    Fits (s.recordFailure status).session.state
      ((Notice.lastChange (s.recordFailure status).notices).or last) := by
  by_cases hstate : s.state = .error
  · -- A failure in a row is not told again, and need not be.
    rw [Session.notices_recordFailure_of_error hstate]
    exact ⟨nofun, fun _ => h.failed hstate⟩
  · rw [Session.notices_recordFailure_of_ne hstate]
    exact ⟨nofun, fun _ => ⟨status, rfl⟩⟩

end State.Fits

namespace Desk

/-- **The invariant of a desk and what was last heard of it.** What was last heard fits the state, and as long as the
session has not left `disconnecting` it fits the state that the disconnect would put back. -/
structure Heard (d : Desk) (last : Option Notice) : Prop where
  fits : d.state.Fits last
  restorable : ∀ n prior, d.call? n = some (.leaving prior) → d.state = .disconnecting → prior.Fits last
  single : ∀ n n' prior prior', d.call? n = some (.leaving prior) → d.call? n' = some (.leaving prior') → n = n'
  apart : d.BegunApart

variable {d : Desk} {m : Move} {last : Option Notice}

theorem heard_idle {a : Adapter} (ha : a.session = .initial) : (idle a).Heard none where
  fits := by
    unfold state idle
    rw [ha]
    exact .of_ne nofun nofun
  restorable _ _ h := by contradiction
  single _ _ _ _ h := by contradiction
  apart _ _ h := by contradiction

/-! ## What one move preserves -/

theorem Heard.fits_act (h : d.Heard last) (m : Move) :
    (d.act m).state.Fits ((Notice.lastChange (d.told m)).or last) := by
  obtain ⟨t, hshift, hsession, htold, -⟩ := transition_act d m
  have hfits : State.Fits d.adapter.session.state last := h.fits
  rw [state, hsession, htold]
  cases hshift with
  | keep => exact hfits
  | connect _ _ => exact .of_ne State.noConfusion State.noConfusion
  | disconnect _ => exact .of_ne State.noConfusion State.noConfusion
  | lose _ _ => exact .of_ne State.noConfusion State.noConfusion
  | fail _ _ => exact hfits.recordFailure _
  | restore hcall hstate => exact h.restorable _ _ hcall hstate
  | leave _ _ => exact .of_ne State.noConfusion State.noConfusion
  | report _ => exact hfits.recordFailure _
  | @joined e wall network _ _ _ =>
      by_cases hstate : d.state = .connected
      · rw [if_neg (not_not_intro hstate)]
        exact ⟨fun _ => hfits.connected hstate, State.noConfusion⟩
      · rw [if_pos hstate]
        exact ⟨fun _ => ⟨network, rfl⟩, State.noConfusion⟩
  | parted _ _ => exact .of_ne State.noConfusion State.noConfusion
  | passOn hsame hnotices =>
      rw [hsame, Session.lastChange_of_interface hnotices]
      exact hfits

/-- A disconnect that begins remembers a state that what was last heard fits; one that goes on was there before, and
nothing has been told since. -/
theorem Heard.restorable_act (h : d.Heard last) (hfree : m.isDisconnect = true → d.isLeaving = false) {n : Nat}
    {prior : State} (hcall : (d.act m).call? n = some (.leaving prior)) (hin : (d.act m).state = .disconnecting) :
    prior.Fits ((Notice.lastChange (d.told m)).or last) := by
  rw [lastChange_told_of_disconnecting hin, Option.none_or]
  rcases leaving_act hcall with hold | ⟨-, rfl, -, -⟩
  · by_cases hstate : d.state = .disconnecting
    · exact h.restorable n prior hold hstate
    · have hdisconnect := isDisconnect_of_enters h.apart hstate hin
      exact absurd hold (not_leaving_of_isLeaving (hfree hdisconnect))
  · exact h.fits

theorem Heard.single_act (h : d.Heard last) (hfree : m.isDisconnect = true → d.isLeaving = false) {n n' : Nat}
    {prior prior' : State} (hcall : (d.act m).call? n = some (.leaving prior))
    (hcall' : (d.act m).call? n' = some (.leaving prior')) : n = n' := by
  by_cases hold : d.call? n = some (.leaving prior)
  · by_cases hold' : d.call? n' = some (.leaving prior')
    · exact h.single _ _ _ _ hold hold'
    · exact absurd hold (not_leaving_of_isLeaving (hfree (isDisconnect_of_leaving hcall' hold')))
  · have hdisconnect := isDisconnect_of_leaving hcall hold
    -- The one disconnect that there can be has the number that the move has given.
    have hnumber : ∀ k prior, (d.act m).call? k = some (.leaving prior) → k = d.calls.length := by
      intro k prior hk
      rcases leaving_act hk with hk | ⟨hk, -⟩
      · exact absurd hk (not_leaving_of_isLeaving (hfree hdisconnect))
      · exact hk
    exact (hnumber n prior hcall).trans (hnumber n' prior' hcall').symm

/-- **One move preserves the invariant.** -/
theorem heard_act (h : d.Heard last) (hfree : m.isDisconnect = true → d.isLeaving = false) :
    (d.act m).Heard ((Notice.lastChange (d.told m)).or last) where
  fits := h.fits_act m
  restorable _ _ := h.restorable_act hfree
  single _ _ _ _ := h.single_act hfree
  apart := begunApart_act h.apart m

/-- **Orderly moves preserve the invariant.** -/
theorem heard_run (h : d.Heard last) {moves : List Move} (horderly : d.Orderly moves) :
    (d.run moves).Heard ((Notice.lastChange (d.tale moves)).or last) := by
  induction moves generalizing d last with
  | nil => exact h
  | cons m rest ih =>
      obtain ⟨hfree, hrest⟩ := horderly
      rw [tale, Notice.lastChange_append, Option.or_assoc]
      exact ih (heard_act h hfree) hrest

/-! ## An adapter from its beginning -/

theorem session_of_create {config : WirelessConfig} {runtime : Bool} {wall : Nat} {a : Adapter}
    (ha : Adapter.create config runtime wall = .ok a) : a.session = .initial := by
  simp only [Adapter.create] at ha
  split at ha
  · contradiction
  · split at ha
    · contradiction
    · rw [← Except.ok.inj ha]

end Desk

end Peripherals.Coprocessor
