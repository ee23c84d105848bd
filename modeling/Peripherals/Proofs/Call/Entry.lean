import Peripherals.Proofs.Call.Desk

/-!
# `Proofs.Call.Entry` — how a session gets into an attempt, and stays there

A call that connects takes the session to `connecting`, one that disconnects to `disconnecting`. This module says
who else can do that (`Desk.enters`), that a run which ends in a state has stayed in it or has a last entry into it
(`Desk.stays_or_last_entry`), and that nothing of a session changes while it stays in `disconnecting`
(`Desk.session_run_of_disconnecting`).
-/

namespace Peripherals.Coprocessor

/-! ## Entering a state -/

namespace Desk

variable {d : Desk} {m : Move} {moves : List Move} {st : State} {n : Nat}

/-- **Who can take a session into an attempt**: a call that starts, or a disconnect that is refused and began there. -/
theorem enters (hst : st = .connecting ∨ st = .disconnecting) (hout : d.state ≠ st) (hin : (d.act m).state = st) :
    d.caller? m = some d.calls.length ∨ ∃ n, d.caller? m = some n ∧ d.call? n = some (.leaving st) := by
  obtain ⟨t, hshift, hadvanced⟩ := shift_act d m
  have hapart : st ≠ .disconnected ∧ st ≠ .connected ∧ st ≠ .error := by
    rcases hst with rfl | rfl
    · decide
    · decide
  rw [state, hadvanced.session] at hin
  cases hshift with
  | keep => exact absurd hin hout
  | connect _ _ => exact .inl rfl
  | disconnect _ => exact .inl rfl
  -- Of the ends of an attempt only a refusal can put a state back, the one that it remembers.
  | restore hcall _ => exact .inr ⟨_, rfl, hin ▸ hcall⟩
  | lose _ _ => exact absurd hin.symm hapart.1
  | fail _ _ => exact absurd hin.symm hapart.2.2
  | leave _ _ => exact absurd hin.symm hapart.1
  | report _ => exact absurd hin.symm hapart.2.2
  | joined _ _ _ => exact absurd hin.symm hapart.2.1
  | parted _ _ => exact absurd hin.symm hapart.1
  | passOn hsame _ =>
      rw [hsame] at hin
      exact absurd hin hout

/-- **The session is in a state all along.** -/
def Stays (st : State) : Desk → List Move → Prop
  | d, [] => d.state = st
  | d, m :: rest => d.state = st ∧ Stays st (d.act m) rest

instance decidableStays (st : State) : (d : Desk) → (moves : List Move) → Decidable (Stays st d moves)
  | d, [] => inferInstanceAs (Decidable (d.state = st))
  | d, m :: rest =>
    have := decidableStays st (d.act m) rest
    inferInstanceAs (Decidable (d.state = st ∧ Stays st (d.act m) rest))

theorem Stays.first (h : Stays st d moves) : d.state = st := by
  cases moves with
  | nil => exact h
  | cons m rest => exact h.1

theorem Stays.last (h : Stays st d moves) : (d.run moves).state = st := by
  induction moves generalizing d with
  | nil => exact h
  | cons m rest ih => exact ih h.2

/-- **A run that ends in a state** has been there all along, or has a last entry after which the session stays. -/
theorem stays_or_last_entry (hin : (d.run moves).state = st) :
    Stays st d moves ∨
      ∃ first m last, moves = first ++ m :: last ∧ (d.run first).state ≠ st ∧ Stays st ((d.run first).act m) last := by
  induction moves generalizing d with
  | nil => exact .inl hin
  | cons m rest ih =>
      -- An entry into the rest of the run is later than one at its head, so it goes first.
      rcases ih hin with hstays | ⟨first, m', last, rfl, hout, hstays⟩
      · by_cases h : d.state = st
        · exact .inl ⟨h, hstays⟩
        · exact .inr ⟨[], m, rest, rfl, h, hstays⟩
      · exact .inr ⟨m :: first, m', last, rfl, hout, hstays⟩

/-! ## While a disconnect is under way -/

/-- **Every disconnect in progress began outside `disconnecting`.** -/
def BegunApart (d : Desk) : Prop := ∀ n prior, d.call? n = some (.leaving prior) → prior ≠ .disconnecting

theorem begunApart_act (h : d.BegunApart) (m : Move) : (d.act m).BegunApart := by
  intro n prior hcall
  rcases leaving_act hcall with hold | ⟨-, -, hne, -⟩
  · exact h n prior hold
  · exact hne

theorem begunApart_run (h : d.BegunApart) (moves : List Move) : (d.run moves).BegunApart := by
  induction moves generalizing d with
  | nil => exact h
  | cons m rest ih => exact ih (begunApart_act h m)

/-- Nothing changes a session that stays in `disconnecting` over a move. -/
theorem session_act_of_disconnecting (h : d.BegunApart) (hin : d.state = .disconnecting)
    (hstill : (d.act m).state = .disconnecting) : (d.act m).adapter.session = d.adapter.session := by
  obtain ⟨t, hshift, hadvanced⟩ := shift_act d m
  rw [state, hadvanced.session] at hstill
  rw [hadvanced.session]
  cases hshift with
  | keep => rfl
  | connect _ hleaves => exact absurd hin hleaves
  | disconnect hleaves => exact absurd hin hleaves
  -- The end of this or any other disconnect takes the session out of `disconnecting`, whatever its answer.
  | restore hcall _ => exact absurd hstill (h _ _ hcall)
  | lose _ _ => contradiction
  | fail _ _ => contradiction
  | leave _ _ => contradiction
  | report _ => contradiction
  | joined _ _ _ => contradiction
  | parted _ _ => contradiction
  | passOn hsame _ => exact hsame

theorem session_run_of_disconnecting (h : d.BegunApart) (hstays : Stays .disconnecting d moves) :
    (d.run moves).adapter.session = d.adapter.session := by
  induction moves generalizing d with
  | nil => rfl
  | cons m rest ih =>
      obtain ⟨hin, hrest⟩ := hstays
      calc
        ((d.act m).run rest).adapter.session = (d.act m).adapter.session := ih (begunApart_act h m) hrest
        _ = d.adapter.session := session_act_of_disconnecting h hin hrest.first

end Desk

end Peripherals.Coprocessor
