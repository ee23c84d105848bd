import Peripherals.Proofs.Call.Entry

/-!
# `Proofs.Call.Told` — what the subscribers of an adapter are told

A subscriber that has read everything before a move finds after it exactly the notices of the transition that the
move has made, and has lost none of them (`Desk.transition_act`). This ties the two channels of an adapter to its
session, so that everything below speaks of what really can be read from them.

* `Desk.told`, `Desk.tale` — what the subscribers of notices are told by a move, and over moves; `Desk.toldNetwork`,
  `Desk.networkTale` — the same for those of connectivity;
* `Desk.connected_told` — who is told that the adapter is connected;
* `Desk.networkTale_eq` — the second channel repeats the first, as far as it is about connectivity;
* `Desk.lastChange_told_of_disconnecting` — while a disconnect is under way, nothing about connectivity is told.
-/

namespace Peripherals

namespace Coprocessor

/-! ## Notices about connectivity -/

namespace Notice

/-- Whether a notice tells of a change of connectivity. -/
def isChange (n : Notice) : Bool := n.connectivity?.isSome

/-- **The last notice of a change of connectivity.** -/
def lastChange (ns : List Notice) : Option Notice := (ns.filter isChange).getLast?

theorem lastChange_append (ns ns' : List Notice) : lastChange (ns ++ ns') = (lastChange ns').or (lastChange ns) := by
  unfold lastChange
  rw [List.filter_append, List.getLast?_append]

end Notice

/-! ## The notices of a transition -/

namespace Session

variable {s : Session} {status : Status}

theorem notices_recordFailure_of_error (h : s.state = .error) : (s.recordFailure status).notices = [] := by
  unfold recordFailure
  rw [if_neg (not_not_intro h)]

theorem notices_recordFailure_of_ne (h : s.state ≠ .error) : (s.recordFailure status).notices = [.failed status] :=
  if_pos h

theorem length_notices_recordFailure_le : (s.recordFailure status).notices.length ≤ 1 := by
  by_cases h : s.state = .error
  · rw [notices_recordFailure_of_error h]
    exact Nat.zero_le 1
  · rw [notices_recordFailure_of_ne h]
    exact Nat.le_refl 1

theorem length_notices_completeDisconnect_le (prior : State) :
    (s.completeDisconnect prior status).notices.length ≤ 1 := by
  by_cases h : s.state = .disconnecting
  · cases hstatus : status.isOk with
    | false =>
        rw [completeDisconnect_refused h hstatus]
        exact Nat.zero_le 1
    | true =>
        rw [completeDisconnect_done h hstatus]
        dsimp only
        split
        · exact Nat.le_refl 1
        · exact Nat.zero_le 1
  · rw [completeDisconnect_of_ne h]
    exact Nat.zero_le 1

theorem length_notices_apply_le {e : Event} {t : Transition} (h : s.apply e = .ok t) : t.notices.length ≤ 1 := by
  rcases apply_cases h with ⟨-, rfl⟩ | ⟨-, -, d, -, rfl⟩ | ⟨-, -, rfl⟩ | ⟨-, -, hnotices⟩
  · exact length_notices_recordFailure_le
  · dsimp only
    split
    · exact Nat.le_refl 1
    · exact Nat.zero_le 1
  · dsimp only
    split
    · exact Nat.le_refl 1
    · exact Nat.zero_le 1
  · rcases hnotices with h | h | h
    · exact h ▸ Nat.le_refl 1
    · exact h ▸ Nat.le_refl 1
    · exact h ▸ Nat.le_refl 1

/-- An event that leaves the session as it is tells nothing about connectivity. -/
theorem lastChange_of_interface {t : Transition}
    (h : t.notices = [.interfaceStarted status] ∨ t.notices = [.interfaceStopped status] ∨ t.notices = [.timeChanged]) :
    Notice.lastChange t.notices = none := by
  rcases h with h | h | h
  · rw [h]; rfl
  · rw [h]; rfl
  · rw [h]; rfl

end Session

namespace Desk

variable {d : Desk} {m : Move} {t : Transition}

theorem Change.length_notices_le (h : Change d m t) : t.notices.length ≤ 1 := by
  cases h with
  | keep => exact Nat.zero_le 1
  | beginConnect _ => exact Nat.zero_le 1
  | beginDisconnect _ => exact Nat.zero_le 1
  | turn _ heffect =>
      cases heffect with
      | none _ => exact Nat.zero_le 1
      | abort => exact Nat.zero_le 1
      | fail _ => exact Session.length_notices_recordFailure_le
      | complete => exact Session.length_notices_completeDisconnect_le _
  | apply h => exact Session.length_notices_apply_le h

/-! ## What subscribers are told -/

/-- What a subscriber that has read everything before a move finds after it. -/
def told (d : Desk) (m : Move) : List Notice := d.adapter.notices.news (d.act m).adapter.notices

/-- The same for a subscriber of changes of connectivity. -/
def toldNetwork (d : Desk) (m : Move) : List Network.Event :=
  d.adapter.connectivity.news (d.act m).adapter.connectivity

/-- **What subscribers are told over moves.** -/
def tale : Desk → List Move → List Notice
  | _, [] => []
  | d, m :: rest => d.told m ++ tale (d.act m) rest

/-- **What subscribers of changes of connectivity are told over moves.** -/
def networkTale : Desk → List Move → List Network.Event
  | _, [] => []
  | d, m :: rest => d.toldNetwork m ++ networkTale (d.act m) rest

theorem told_of_advanced (h : d.adapter.Advanced t (d.act m).adapter) (hlength : t.notices.length ≤ 1) :
    d.told m = t.notices := by
  rw [told, h.notices, Broadcast.news_sendAll _ hlength]

/-- **A move makes a transition, and subscribers are told its notices.** -/
theorem transition_act (d : Desk) (m : Move) :
    ∃ t, Shift d m t ∧ (d.act m).adapter.session = t.session ∧ d.told m = t.notices ∧
      d.toldNetwork m = t.notices.filterMap Notice.connectivity? := by
  obtain ⟨t, hchange, hadvanced⟩ := change_act d m
  have hlength := hchange.length_notices_le
  have hfewer := Nat.le_trans (List.length_filterMap_le Notice.connectivity? t.notices) hlength
  refine ⟨t, hchange.shift, hadvanced.session, told_of_advanced hadvanced hlength, ?_⟩
  rw [toldNetwork, hadvanced.connectivity, Broadcast.news_sendAll _ hfewer]

theorem tale_append (d : Desk) (ms ms' : List Move) : d.tale (ms ++ ms') = d.tale ms ++ (d.run ms).tale ms' := by
  induction ms generalizing d with
  | nil => rfl
  | cons m rest ih => rw [List.cons_append, tale, ih, tale, List.append_assoc]; rfl

theorem tale_singleton (d : Desk) (m : Move) : d.tale [m] = d.told m := by
  rw [tale, tale, List.append_nil]

/-- **The second channel repeats the first**, as far as it is about connectivity. -/
theorem networkTale_eq (d : Desk) (moves : List Move) :
    d.networkTale moves = (d.tale moves).filterMap Notice.connectivity? := by
  induction moves generalizing d with
  | nil => rfl
  | cons m rest ih =>
      obtain ⟨t, -, -, htold, hnetwork⟩ := transition_act d m
      rw [networkTale, tale, List.filterMap_append, ih, hnetwork, htold]

/-- **Only a move that takes the session to `connected` tells that the adapter is connected**, and it names the
network that the session then has. -/
theorem connected_told {details : Details} (h : Notice.connected details ∈ d.told m) :
    d.state ≠ .connected ∧ (d.act m).adapter.session.state = .connected ∧
      (d.act m).adapter.session.details = some details := by
  obtain ⟨t, hshift, hsession, htold, -⟩ := transition_act d m
  rw [htold] at h
  rw [hsession]
  cases hshift with
  | keep => simp at h
  | connect _ _ => simp at h
  | disconnect _ => simp at h
  | lose _ _ => simp at h
  | fail _ _ => simp [Session.recordFailure] at h
  | restore _ _ => simp at h
  | leave _ _ => simp at h
  | report _ => simp [Session.recordFailure] at h
  | joined _ _ _ =>
      by_cases hstate : d.state = .connected
      · simp [hstate] at h
      · simp only [ne_eq, hstate, not_false_eq_true, if_true, List.mem_singleton] at h
        obtain rfl := Notice.connected.inj h
        exact ⟨hstate, rfl, rfl⟩
  | parted _ _ => simp at h
  | passOn _ hnotices =>
      rcases hnotices with hn | hn | hn
      · simp [hn] at h
      · simp [hn] at h
      · simp [hn] at h

/-- **While a disconnect is under way, nothing about connectivity is told.** -/
theorem lastChange_told_of_disconnecting (hin : (d.act m).state = .disconnecting) :
    Notice.lastChange (d.told m) = none := by
  obtain ⟨t, hshift, hsession, htold, -⟩ := transition_act d m
  rw [state, hsession] at hin
  rw [htold]
  cases hshift with
  | keep => rfl
  | connect _ _ => rfl
  | disconnect _ => rfl
  | lose _ _ => rfl
  | restore _ _ => rfl
  | passOn _ hnotices => exact Session.lastChange_of_interface hnotices
  -- All that is told of takes the session out of `disconnecting`.
  | fail _ _ => contradiction
  | leave _ _ => contradiction
  | report _ => contradiction
  | joined _ _ _ => contradiction
  | parted _ _ => contradiction

end Desk

end Coprocessor

end Peripherals
