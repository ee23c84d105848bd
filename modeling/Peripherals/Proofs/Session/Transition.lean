import Peripherals.Coprocessor.Session

/-!
# `Proofs.Session.Transition` — what each operation can do to a session

One lemma per operation says everything that it can do, the guards included, so that no other proof opens the
operations again. Three of them are equations under the condition that decides (`completeDisconnect`,
`abortConnect`), two are equivalences (`beginConnect`, `beginDisconnect`), and the events are a list of cases
(`apply_cases`).
-/

namespace Peripherals.Coprocessor

/-- The one successful outcome. -/
theorem Status.isOk_iff {status : Status} : status.isOk = true ↔ status = .completed := by
  unfold isOk
  exact beq_iff_eq

theorem Status.not_isOk_iff {status : Status} : status.isOk = false ↔ status ≠ .completed := by
  unfold isOk
  exact beq_eq_false_iff_ne

namespace Session

variable {s s' : Session} {status : Status} {prior : State}

@[simp] theorem notices_quietly (s : Session) : s.quietly.notices = [] := rfl

/-! ## Connecting -/

theorem beginConnect_eq_ok :
    s.beginConnect = .ok s' ↔
      s.state ≠ .connecting ∧ s.state ≠ .disconnecting ∧ s' = ⟨.connecting, none, none⟩ := by
  unfold beginConnect
  cases hstate : s.state <;> simp [eq_comm]

theorem abortConnect_of_connecting (h : s.state = .connecting) : s.abortConnect = { s with state := .disconnected } :=
  if_pos h

theorem abortConnect_of_ne (h : s.state ≠ .connecting) : s.abortConnect = s := if_neg h

/-! ## Disconnecting -/

theorem beginDisconnect_eq_ok :
    s.beginDisconnect = .ok s' ↔ s.state ≠ .disconnecting ∧ s' = { s with state := .disconnecting } := by
  unfold beginDisconnect
  cases hstate : s.state <;> simp [eq_comm]

/-- What an event has decided meanwhile stands. -/
theorem completeDisconnect_of_ne (h : s.state ≠ .disconnecting) : s.completeDisconnect prior status = s.quietly :=
  if_pos h

/-- A refusal takes the session back to the state in which the attempt began. -/
theorem completeDisconnect_refused (h : s.state = .disconnecting) (hstatus : status.isOk = false) :
    s.completeDisconnect prior status = quietly { s with state := prior } := by
  unfold completeDisconnect
  rw [if_neg (not_not_intro h), hstatus]
  rfl

theorem completeDisconnect_done (h : s.state = .disconnecting) (hstatus : status.isOk = true) :
    s.completeDisconnect prior status
      = ⟨⟨.disconnected, none, s.lastStatus⟩, if prior = .connected then [.disconnected] else []⟩ := by
  unfold completeDisconnect
  rw [if_neg (not_not_intro h), hstatus]
  rfl

/-- The end of an attempt to disconnect leaves `disconnecting`, unless it is said to have begun there. -/
theorem completeDisconnect_state_ne (hprior : prior ≠ .disconnecting) :
    (s.completeDisconnect prior status).session.state ≠ .disconnecting := by
  by_cases h : s.state = .disconnecting
  · cases hstatus : status.isOk with
    | false => rw [completeDisconnect_refused h hstatus]; exact hprior
    | true => rw [completeDisconnect_done h hstatus]; exact State.noConfusion
  · rw [completeDisconnect_of_ne h]
    exact h

/-! ## Events -/

/-- **Everything that an event can do**: it reports a failure; it brings the details of a network that was joined;
it tells of the end of a connection; or it leaves the session as it is and is passed on as a notice. -/
theorem apply_cases {e : Event} {t : Transition} (h : s.apply e = .ok t) :
    (e.status ≠ .completed ∧ t = s.recordFailure e.status) ∨
    (e.status = .completed ∧ e.function = .connected ∧ ∃ d, Details.decode e.payload = .ok d ∧
      t = ⟨⟨.connected, some d, s.lastStatus⟩, if s.state ≠ .connected then [.connected d] else []⟩) ∨
    (e.status = .completed ∧ e.function = .disconnected ∧
      t = ⟨⟨.disconnected, none, s.lastStatus⟩, if s.state ≠ .disconnected then [.disconnected] else []⟩) ∨
    (e.status = .completed ∧ t.session = s ∧
      (t.notices = [.interfaceStarted e.status] ∨ t.notices = [.interfaceStopped e.status] ∨
        t.notices = [.timeChanged])) := by
  unfold apply at h
  cases hok : e.status.isOk with
  | false =>
      rw [hok] at h
      exact .inl ⟨Status.not_isOk_iff.mp hok, (Except.ok.inj h).symm⟩
  | true =>
      rw [hok] at h
      have hstatus := Status.isOk_iff.mp hok
      cases hf : e.function <;> simp only [hf, Bool.not_true, Bool.false_eq_true, if_false] at h
      case connected =>
        split at h
        · contradiction
        · next d hd => exact .inr (.inl ⟨hstatus, rfl, d, hd, (Except.ok.inj h).symm⟩)
      case disconnected => exact .inr (.inr (.inl ⟨hstatus, rfl, (Except.ok.inj h).symm⟩))
      case interfaceStarted =>
        obtain rfl := Except.ok.inj h
        exact .inr (.inr (.inr ⟨hstatus, rfl, .inl rfl⟩))
      case interfaceStopped =>
        obtain rfl := Except.ok.inj h
        exact .inr (.inr (.inr ⟨hstatus, rfl, .inr (.inl rfl)⟩))
      case timeUpdated =>
        obtain rfl := Except.ok.inj h
        exact .inr (.inr (.inr ⟨hstatus, rfl, .inr (.inr rfl)⟩))
      all_goals contradiction

/-- An event leaves a session as it is, or takes it to a state in which nothing is under way. -/
theorem apply_settles {e : Event} {t : Transition} (h : s.apply e = .ok t) :
    t.session = s ∨ (t.session.state ≠ .connecting ∧ t.session.state ≠ .disconnecting) := by
  rcases apply_cases h with ⟨-, rfl⟩ | ⟨-, -, d, -, rfl⟩ | ⟨-, -, rfl⟩ | ⟨-, hsame, -⟩
  · exact .inr ⟨State.noConfusion, State.noConfusion⟩
  · exact .inr ⟨State.noConfusion, State.noConfusion⟩
  · exact .inr ⟨State.noConfusion, State.noConfusion⟩
  · exact .inl hsame

end Session

end Peripherals.Coprocessor
