import Peripherals.Proofs.Session.Transition

/-!
# `Proofs.Session.Consistency` — what a session says is consistent, in every history

A session has three fields that six operations write one by one. `Session.Consistent` says how they belong
together: a network is known exactly where one is joined, and a failure exactly where one is reported.

The hard operation is the end of a refused disconnect. It puts back the *state* remembered at its beginning, but
keeps the network and the failure of *today*. This is sound only because nothing else can change while the session
stays in `disconnecting`; `Sound` carries that along: as long as the session has not left `disconnecting`, putting
the remembered state back gives a consistent session.

* `Deed`, `Scene.act`, `Scene.run` — histories of a session: attempts to connect may overlap anything, attempts to
  disconnect follow one another;
* `sound_act` — what one deed preserves; `sound_run` — what a history preserves.
-/

namespace Peripherals.Coprocessor

/-! ## Histories -/

/-- What can happen to a session. -/
inductive Deed where
  | beginConnect
  /-- The request of an attempt to connect is lost on the way. -/
  | loseConnect
  /-- The request of an attempt to connect is answered. -/
  | answerConnect (status : Status)
  | beginDisconnect
  /-- The request of an attempt to disconnect is answered; one that is lost counts as failed. -/
  | endDisconnect (status : Status)
  | event (e : Event)
  deriving DecidableEq

/-- A session, and what has begun and not ended. -/
structure Scene where
  session : Session
  /-- How many attempts to connect have not been answered. -/
  joining : Nat
  /-- The state in which the attempt to disconnect began, while there is one. -/
  leaving : Option State
  deriving DecidableEq

namespace Scene

/-- The scene at which nothing has happened. -/
def start : Scene := ⟨.initial, 0, none⟩

/-- **What a deed does.** One that is refused, or that nothing has begun, does nothing. -/
def act (c : Scene) : Deed → Scene
  | .beginConnect =>
    match c.session.beginConnect with
    | .ok s => ⟨s, c.joining + 1, c.leaving⟩
    | .error _ => c
  | .loseConnect => if c.joining = 0 then c else ⟨c.session.abortConnect, c.joining - 1, c.leaving⟩
  | .answerConnect status =>
    if c.joining = 0 then c
    -- After a success the attempt goes on without touching the session.
    else if status.isOk then ⟨c.session, c.joining - 1, c.leaving⟩
    else ⟨(c.session.recordFailure status).session, c.joining - 1, c.leaving⟩
  | .beginDisconnect =>
    match c.leaving, c.session.beginDisconnect with
    | none, .ok s => ⟨s, c.joining, some c.session.state⟩
    | _, _ => c
  | .endDisconnect status =>
    match c.leaving with
    | some prior => ⟨(c.session.completeDisconnect prior status).session, c.joining, none⟩
    | none => c
  | .event e =>
    match c.session.apply e with
    | .ok t => { c with session := t.session }
    | .error _ => c

/-- A scene after a history. -/
def run (c : Scene) (deeds : List Deed) : Scene := deeds.foldl act c

end Scene

/-! ## The invariant -/

/-- **What a consistent session says.** A session that is connected knows the network; one that is unknown,
disconnected or connecting knows none; one that is connecting remembers no failure; and one in error does. -/
structure Session.Consistent (s : Session) : Prop where
  details_of_connected : s.state = .connected → s.details.isSome = true
  details_of_apart : s.state = .unknown ∨ s.state = .disconnected ∨ s.state = .connecting → s.details = none
  status_of_connecting : s.state = .connecting → s.lastStatus = none
  status_of_error : s.state = .error → ∃ status, s.lastStatus = some status ∧ status ≠ .completed

/-- **The invariant of a session and the disconnect that is under way.** The state that the disconnect would put
back is consistent with the fields of today as long as the session has not left `disconnecting`. -/
structure Sound (s : Session) (leaving : Option State) : Prop where
  consistent : s.Consistent
  prior_ne : ∀ prior, leaving = some prior → prior ≠ .disconnecting
  restorable : ∀ prior, leaving = some prior → s.state = .disconnecting →
    Session.Consistent { s with state := prior }
  owned : leaving = none → s.state ≠ .disconnecting

namespace Session

variable {s : Session}

theorem consistent_initial : initial.Consistent where
  details_of_connected := State.noConfusion
  details_of_apart _ := rfl
  status_of_connecting := State.noConfusion
  status_of_error := State.noConfusion

theorem consistent_connecting : Consistent ⟨.connecting, none, none⟩ where
  details_of_connected := State.noConfusion
  details_of_apart _ := rfl
  status_of_connecting _ := rfl
  status_of_error := State.noConfusion

theorem consistent_connected (d : Details) (last : Option Status) : Consistent ⟨.connected, some d, last⟩ where
  details_of_connected _ := rfl
  details_of_apart h := by rcases h with h | h | h <;> contradiction
  status_of_connecting := State.noConfusion
  status_of_error := State.noConfusion

theorem consistent_disconnected (last : Option Status) : Consistent ⟨.disconnected, none, last⟩ where
  details_of_connected := State.noConfusion
  details_of_apart _ := rfl
  status_of_connecting := State.noConfusion
  status_of_error := State.noConfusion

/-- While a disconnect is under way nothing is asked of the other fields. -/
theorem consistent_disconnecting (details : Option Details) (last : Option Status) :
    Consistent ⟨.disconnecting, details, last⟩ where
  details_of_connected := State.noConfusion
  details_of_apart h := by rcases h with h | h | h <;> contradiction
  status_of_connecting := State.noConfusion
  status_of_error := State.noConfusion

theorem consistent_recordFailure {status : Status} (h : status ≠ .completed) :
    (s.recordFailure status).session.Consistent where
  details_of_connected := State.noConfusion
  details_of_apart h := by rcases h with h | h | h <;> contradiction
  status_of_connecting := State.noConfusion
  status_of_error _ := ⟨status, rfl, h⟩

end Session

namespace Sound

variable {s s' : Session} {leaving : Option State}

/-- Whatever takes a session out of `disconnecting` into a consistent session is sound. -/
theorem leave (h : Sound s leaving) (hs : s'.Consistent) (hne : s'.state ≠ .disconnecting) : Sound s' leaving where
  consistent := hs
  prior_ne := h.prior_ne
  restorable _ _ hd := absurd hd hne
  owned _ := hne

theorem start : Sound .initial none where
  consistent := Session.consistent_initial
  prior_ne _ h := by contradiction
  restorable _ h := by contradiction
  owned _ := State.noConfusion

/-! ## What one operation preserves -/

theorem beginConnect (h : Sound s leaving) (hb : s.beginConnect = .ok s') : Sound s' leaving := by
  obtain ⟨-, -, rfl⟩ := Session.beginConnect_eq_ok.mp hb
  exact h.leave Session.consistent_connecting State.noConfusion

theorem abortConnect (h : Sound s leaving) : Sound s.abortConnect leaving := by
  by_cases hstate : s.state = .connecting
  · rw [Session.abortConnect_of_connecting hstate]
    have hdetails := h.consistent.details_of_apart (.inr (.inr hstate))
    rw [hdetails]
    exact h.leave (Session.consistent_disconnected s.lastStatus) State.noConfusion
  · rw [Session.abortConnect_of_ne hstate]
    exact h

theorem recordFailure (h : Sound s leaving) {status : Status} (hs : status ≠ .completed) :
    Sound (s.recordFailure status).session leaving :=
  h.leave (Session.consistent_recordFailure hs) State.noConfusion

/-- The attempt remembers the state it began in, and the session is consistent with it. -/
theorem beginDisconnect (h : Sound s none) (hb : s.beginDisconnect = .ok s') : Sound s' (some s.state) := by
  obtain ⟨hne, rfl⟩ := Session.beginDisconnect_eq_ok.mp hb
  constructor
  · exact Session.consistent_disconnecting s.details s.lastStatus
  · intro prior hprior
    exact Option.some.inj hprior ▸ hne
  · intro prior hprior _
    exact Option.some.inj hprior ▸ h.consistent
  · intro hnone
    contradiction

theorem completeDisconnect {prior : State} (h : Sound s (some prior)) (status : Status) :
    Sound (s.completeDisconnect prior status).session none := by
  have hprior := h.prior_ne prior rfl
  have hne : (s.completeDisconnect prior status).session.state ≠ .disconnecting :=
    Session.completeDisconnect_state_ne hprior
  refine ⟨?_, fun _ hnone => by contradiction, fun _ hnone => by contradiction, fun _ => hne⟩
  by_cases hstate : s.state = .disconnecting
  · cases hstatus : status.isOk with
    | false =>
        rw [Session.completeDisconnect_refused hstate hstatus]
        exact h.restorable prior rfl hstate
    | true =>
        rw [Session.completeDisconnect_done hstate hstatus]
        exact Session.consistent_disconnected s.lastStatus
  · rw [Session.completeDisconnect_of_ne hstate]
    exact h.consistent

theorem apply (h : Sound s leaving) {e : Event} {t : Transition} (ha : s.apply e = .ok t) :
    Sound t.session leaving := by
  rcases Session.apply_cases ha with ⟨hs, rfl⟩ | ⟨-, -, d, -, rfl⟩ | ⟨-, -, rfl⟩ | ⟨-, hsame, -⟩
  · exact h.recordFailure hs
  · exact h.leave (Session.consistent_connected d s.lastStatus) State.noConfusion
  · exact h.leave (Session.consistent_disconnected s.lastStatus) State.noConfusion
  · rw [hsame]
    exact h

end Sound

/-! ## What a history preserves -/

namespace Scene

/-- **One deed preserves soundness.** -/
theorem sound_act {c : Scene} (h : Sound c.session c.leaving) (deed : Deed) :
    Sound (c.act deed).session (c.act deed).leaving := by
  cases deed with
  | beginConnect =>
      simp only [act]
      split
      · next s hs => exact h.beginConnect hs
      · exact h
  | loseConnect =>
      simp only [act]
      split
      · exact h
      · exact h.abortConnect
  | answerConnect status =>
      simp only [act]
      split
      · exact h
      · split
        · exact h
        · next hs => exact h.recordFailure (fun hc => hs (Status.isOk_iff.mpr hc))
  | beginDisconnect =>
      simp only [act]
      split
      · next s hleaving hs =>
          rw [hleaving] at h
          exact h.beginDisconnect hs
      · exact h
  | endDisconnect status =>
      simp only [act]
      split
      · next prior hleaving =>
          rw [hleaving] at h
          exact h.completeDisconnect status
      · exact h
  | event e =>
      simp only [act]
      split
      · next t ht => exact h.apply ht
      · exact h

/-- **A history preserves soundness.** -/
theorem sound_run {c : Scene} (h : Sound c.session c.leaving) (deeds : List Deed) :
    Sound (c.run deeds).session (c.run deeds).leaving := by
  induction deeds generalizing c with
  | nil => exact h
  | cons deed rest ih => exact ih (sound_act h deed)

/-- **A session is consistent in every history**, from the beginning on, however attempts to connect, one
disconnect after the other, and events follow each other. -/
theorem consistent_run (deeds : List Deed) : (start.run deeds).session.Consistent :=
  (sound_run Sound.start deeds).consistent

end Scene

end Peripherals.Coprocessor
