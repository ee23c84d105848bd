import Peripherals.Proofs.Call.Entry

/-!
# `Proofs.Call.Overlap` — when the end of a call undoes what another call has begun

At its end a call looks at the state of the session to see whether its attempt is still the one under way. A state
does not say whose attempt it is. If the session has left the state and another call has brought it back, the late
end of the first call is taken for the end of the second.

`Course.end_unchanged_iff` says that this is the only way: once the session has left the state of a call, the end of
that call changes nothing exactly when no *other* call has taken the session back there. `Course.refusedLate` and
`Course.lostLate` are histories in which one has.

* `Course` — one call in a history: what was before it, its request, and what has been since;
* `Course.Left`, `Course.Retaken` — what has become of the state that the call took the session to.
-/

namespace Peripherals.Coprocessor

/-! ## Ends -/

namespace Desk

variable {d : Desk} {n : Nat}

theorem adapter_leave {prior : State} (hcall : d.call? n = some (.leaving prior)) (now : Nat) (cancelled : Bool)
    (reply : Except Error Response) (first : Wait) :
    (d.act (.turn n now cancelled (some reply) first)).adapter
      = d.adapter.advance (d.adapter.session.completeDisconnect prior (Call.endStatus reply)) := by
  obtain ⟨result, hturn⟩ := Call.turn_leaving d.adapter now cancelled reply prior first
  simp only [act, hcall, hturn]

theorem adapter_lose {ssid : String} {deadline : Deadline} (hcall : d.call? n = some (.joining ssid deadline)) {now : Nat}
    {cancelled : Bool} {first : Wait} (hnews : first.decides cancelled (deadline.passed now) true = some .news)
    (e : Error) :
    (d.act (.turn n now cancelled (some (.error e)) first)).adapter
      = { d.adapter with session := d.adapter.session.abortConnect } := by
  simp only [act, hcall, Call.turn_joining_lost d.adapter e ssid hnews]

/-- **The end of a disconnect changes nothing exactly when the session is not in `disconnecting`.** -/
theorem leave_unchanged_iff {prior : State} (hcall : d.call? n = some (.leaving prior)) (hprior : prior ≠ .disconnecting)
    (now : Nat) (cancelled : Bool) (reply : Except Error Response) (first : Wait) :
    (d.act (.turn n now cancelled (some reply) first)).adapter = d.adapter ↔ d.state ≠ .disconnecting := by
  rw [adapter_leave hcall]
  constructor
  · intro hsame hin
    have hsession : (d.adapter.session.completeDisconnect prior (Call.endStatus reply)).session = d.adapter.session := by
      rw [← Adapter.session_advance d.adapter, hsame]
    have hne : (d.adapter.session.completeDisconnect prior (Call.endStatus reply)).session.state ≠ .disconnecting :=
      Session.completeDisconnect_state_ne hprior
    rw [hsession] at hne
    exact hne hin
  · intro hout
    rw [Session.completeDisconnect_of_ne hout]
    exact Adapter.advance_quietly d.adapter

/-- **The loss of the request of a connect changes nothing exactly when the session is not in `connecting`.** -/
theorem lose_unchanged_iff {ssid : String} {deadline : Deadline} (hcall : d.call? n = some (.joining ssid deadline))
    {now : Nat} {cancelled : Bool} {first : Wait}
    (hnews : first.decides cancelled (deadline.passed now) true = some .news) (e : Error) :
    (d.act (.turn n now cancelled (some (.error e)) first)).adapter = d.adapter ↔ d.state ≠ .connecting := by
  rw [adapter_lose hcall hnews]
  constructor
  · intro hsame hin
    have hsession : d.adapter.session.abortConnect = d.adapter.session := congrArg Adapter.session hsame
    have hstate : d.adapter.session.state ≠ .connecting := by
      rw [← hsession, Session.abortConnect_of_connecting hin]
      exact State.noConfusion
    exact hstate hin
  · intro hout
    rw [Session.abortConnect_of_ne hout]

end Desk

/-- A session is connected, but the network is not known. -/
def Session.Bare (s : Session) : Prop := s.state = .connected ∧ s.details = none

instance (s : Session) : Decidable s.Bare := inferInstanceAs (Decidable (s.state = .connected ∧ s.details = none))

/-! ## One call in a history -/

/-- **One call in a history.** -/
structure Course where
  /-- The adapter before anything was asked of it. -/
  adapter : Adapter
  /-- What happened before the call. -/
  before : List Move
  request : Request
  now : Nat
  cancelled : Bool
  /-- What has happened since the call was asked for. -/
  since : List Move

namespace Course

/-- The desk at which the call is asked for. -/
def origin (c : Course) : Desk := (Desk.idle c.adapter).run c.before

/-- The number of the call. -/
def number (c : Course) : Nat := c.origin.calls.length

/-- The desk at which the call has been asked for. -/
def begun (c : Course) : Desk := c.origin.act (.ask c.request c.now c.cancelled)

/-- The desk after the history. -/
def desk (c : Course) : Desk := c.begun.run c.since

/-- The call has taken the session to a state. -/
def Entered (c : Course) (st : State) : Prop := c.origin.state ≠ st ∧ c.begun.state = st

/-- The desk after a turn of the call that has an answer. -/
def ended (c : Course) (now : Nat) (cancelled : Bool) (reply : Except Error Response) (first : Wait := .token) : Desk :=
  c.desk.act (.turn c.number now cancelled (some reply) first)

/-- The session has left a state since the call was asked for. -/
def Left (c : Course) (st : State) : Prop := ¬ Desk.Stays st c.begun c.since

/-- **Another call has taken the session back to a state**, and it has stayed there. -/
def Retaken (c : Course) (st : State) : Prop :=
  ∃ first m last k, c.since = first ++ m :: last ∧ (c.begun.run first).caller? m = some k ∧ k ≠ c.number ∧
    (c.begun.run first).state ≠ st ∧ Desk.Stays st ((c.begun.run first).act m) last

instance (c : Course) (st : State) : Decidable (c.Entered st) :=
  inferInstanceAs (Decidable (c.origin.state ≠ st ∧ c.begun.state = st))

instance (c : Course) (st : State) : Decidable (c.Left st) :=
  inferInstanceAs (Decidable (¬ Desk.Stays st c.begun c.since))

variable {c : Course} {st : State}

theorem begunApart_origin (c : Course) : c.origin.BegunApart :=
  Desk.begunApart_run (fun _ _ h => by contradiction) c.before

theorem begunApart_begun (c : Course) : c.begun.BegunApart := Desk.begunApart_act c.begunApart_origin _

/-- A call that has taken the session anywhere has started. -/
theorem number_lt (h : c.Entered st) : c.number < c.begun.calls.length := by
  obtain ⟨hout, hin⟩ := h
  simp only [begun, Desk.act] at hin ⊢
  split at hin
  · exact absurd hin hout
  · rw [List.length_append, List.length_singleton]
    exact Nat.lt_succ_self _

theorem state_of_retaken (h : c.Retaken st) : c.desk.state = st := by
  obtain ⟨first, m, last, k, hsince, -, -, -, hstays⟩ := h
  unfold desk
  rw [hsince, Desk.run_append]
  exact hstays.last

/-- **Only another call can take the session back**, if the call itself is not a disconnect that could restore the
state. -/
theorem state_iff (hst : st = .connecting ∨ st = .disconnecting) (hentered : c.Entered st)
    (hself : ∀ first last, c.since = first ++ last → (c.begun.run first).call? c.number ≠ some (.leaving st)) :
    c.desk.state = st ↔ Desk.Stays st c.begun c.since ∨ c.Retaken st := by
  constructor
  · intro hin
    rcases Desk.stays_or_last_entry hin with hstays | ⟨first, m, last, hsince, hout, hstays⟩
    · exact .inl hstays
    · rcases Desk.enters hst hout hstays.first with hnew | ⟨k, hcaller, hleaving⟩
      · have hlt := Nat.lt_of_lt_of_le (number_lt hentered) (Desk.length_le_run c.begun first)
        exact .inr ⟨first, m, last, _, hsince, hnew, Nat.ne_of_gt hlt, hout, hstays⟩
      · have hne : k ≠ c.number := by
          rintro rfl
          exact hself first (m :: last) hsince hleaving
        exact .inr ⟨first, m, last, k, hsince, hcaller, hne, hout, hstays⟩
  · rintro (hstays | hretaken)
    · exact hstays.last
    · exact state_of_retaken hretaken

theorem disconnecting_iff (hentered : c.Entered .disconnecting) :
    c.desk.state = .disconnecting ↔ Desk.Stays .disconnecting c.begun c.since ∨ c.Retaken .disconnecting := by
  refine state_iff (.inr rfl) hentered ?_
  intro first last _ hleaving
  exact Desk.begunApart_run c.begunApart_begun first _ _ hleaving rfl

theorem connecting_iff (hentered : c.Entered .connecting) {ssid : String} {deadline : Deadline}
    (hcall : c.desk.call? c.number = some (.joining ssid deadline)) :
    c.desk.state = .connecting ↔ Desk.Stays .connecting c.begun c.since ∨ c.Retaken .connecting := by
  refine state_iff (.inl rfl) hentered ?_
  intro first last hsince hleaving
  -- A call that is joining in the end has been joining all along, and never was a disconnect.
  have hlt := Nat.lt_of_lt_of_le (number_lt hentered) (Desk.length_le_run c.begun first)
  rw [desk, hsince, Desk.run_append] at hcall
  have hjoining := Desk.call?_of_run hlt (by simp) hcall
  have hkind := hleaving.symm.trans hjoining
  simp at hkind

/-- What a disconnect in progress remembers, and what its beginning has left of the session. -/
theorem begun_of_leaving {prior : State} (hentered : c.Entered .disconnecting)
    (hcall : c.desk.call? c.number = some (.leaving prior)) :
    prior = c.origin.state ∧ c.begun.adapter.session = { c.origin.adapter.session with state := .disconnecting } := by
  have hbegun : c.begun.call? c.number = some (.leaving prior) :=
    Desk.call?_of_run (number_lt hentered) (by simp) hcall
  rcases Desk.leaving_act hbegun with hold | ⟨-, hprior, -, hsession⟩
  · exact absurd (Desk.lt_of_call? hold) (Nat.lt_irrefl _)
  · exact ⟨hprior, hsession⟩

/-! ## What the end of a call does -/

section

variable {prior : State} {ssid : String} {deadline : Deadline} {now : Nat}

theorem leave_iff (hentered : c.Entered .disconnecting) (hcall : c.desk.call? c.number = some (.leaving prior))
    (now : Nat) (cancelled : Bool) (reply : Except Error Response) (first : Wait) :
    (c.ended now cancelled reply first).adapter = c.desk.adapter ↔
      c.Left .disconnecting ∧ ¬ c.Retaken .disconnecting := by
  have hprior : prior ≠ .disconnecting := by
    obtain ⟨rfl, -⟩ := begun_of_leaving hentered hcall
    exact hentered.1
  rw [ended, Desk.leave_unchanged_iff hcall hprior, Ne, disconnecting_iff hentered, not_or]
  rfl

theorem lose_iff (hentered : c.Entered .connecting) (hcall : c.desk.call? c.number = some (.joining ssid deadline))
    {cancelled : Bool} {first : Wait} (hnews : first.decides cancelled (deadline.passed now) true = some .news)
    (e : Error) :
    (c.ended now cancelled (.error e) first).adapter = c.desk.adapter ↔
      c.Left .connecting ∧ ¬ c.Retaken .connecting := by
  rw [ended, Desk.lose_unchanged_iff hcall hnews, Ne, connecting_iff hentered hcall, not_or]
  rfl

/-- A disconnect that has been left alone puts back what it found. -/
theorem details_of_stays (hentered : c.Entered .disconnecting) (hcall : c.desk.call? c.number = some (.leaving prior))
    (hstays : Desk.Stays .disconnecting c.begun c.since) :
    c.desk.adapter.session.details = c.origin.adapter.session.details := by
  obtain ⟨-, hbegun⟩ := begun_of_leaving hentered hcall
  rw [desk, Desk.session_run_of_disconnecting c.begunApart_begun hstays, hbegun]

theorem bare_iff (hentered : c.Entered .disconnecting) (hcall : c.desk.call? c.number = some (.leaving prior))
    (horigin : ¬ c.origin.adapter.session.Bare) (hdesk : ¬ c.desk.adapter.session.Bare)
    (now : Nat) (cancelled : Bool) (reply : Except Error Response) (first : Wait) :
    (c.ended now cancelled reply first).adapter.session.Bare ↔
      c.Retaken .disconnecting ∧ prior = .connected ∧ Call.endStatus reply ≠ .completed ∧
        c.desk.adapter.session.details = none := by
  rw [ended, Desk.adapter_leave hcall, Adapter.session_advance]
  constructor
  · intro hbare
    have hin : c.desk.adapter.session.state = .disconnecting := by
      by_cases h : c.desk.adapter.session.state = .disconnecting
      · exact h
      · rw [Session.completeDisconnect_of_ne h] at hbare
        exact absurd hbare hdesk
    cases hstatus : (Call.endStatus reply).isOk with
    | true =>
        rw [Session.completeDisconnect_done hin hstatus] at hbare
        exact absurd hbare.1 State.noConfusion
    | false =>
        rw [Session.completeDisconnect_refused hin hstatus] at hbare
        obtain ⟨hconnected, hdetails⟩ := hbare
        rcases (disconnecting_iff hentered).mp hin with hstays | hretaken
        · -- Left alone, the disconnect puts the session back as it found it, which was not bare.
          obtain ⟨hprior, -⟩ := begun_of_leaving hentered hcall
          have hbefore : c.origin.adapter.session.Bare :=
            ⟨hprior.symm.trans hconnected, (details_of_stays hentered hcall hstays).symm.trans hdetails⟩
          exact absurd hbefore horigin
        · exact ⟨hretaken, hconnected, Status.not_isOk_iff.mp hstatus, hdetails⟩
  · rintro ⟨hretaken, rfl, hstatus, hdetails⟩
    rw [Session.completeDisconnect_refused (state_of_retaken hretaken) (Status.not_isOk_iff.mpr hstatus)]
    exact ⟨rfl, hdetails⟩

end

/-- **What the end of a call does, exactly.** The end of a disconnect, and that of a connect whose request is lost,
leaves the adapter as it is exactly when the session has left the state of the call and no other call has taken it
back. The loss is what decides the turn, though the deadline may have passed as well, or the caller have cancelled. A
disconnect makes a session connected to no known network exactly when another call has taken the session
back, the disconnect began while connected and is refused, and no network is known any more. -/
theorem end_unchanged_iff (c : Course) :
    (∀ prior now cancelled reply first, c.Entered .disconnecting → c.desk.call? c.number = some (.leaving prior) →
      ((c.ended now cancelled reply first).adapter = c.desk.adapter ↔
        c.Left .disconnecting ∧ ¬ c.Retaken .disconnecting)) ∧
    (∀ ssid deadline now cancelled first e, c.Entered .connecting →
      c.desk.call? c.number = some (.joining ssid deadline) →
      first.decides cancelled (deadline.passed now) true = some .news →
      ((c.ended now cancelled (.error e) first).adapter = c.desk.adapter ↔
        c.Left .connecting ∧ ¬ c.Retaken .connecting)) ∧
    (∀ prior now cancelled reply first, c.Entered .disconnecting → c.desk.call? c.number = some (.leaving prior) →
      ¬ c.origin.adapter.session.Bare → ¬ c.desk.adapter.session.Bare →
      ((c.ended now cancelled reply first).adapter.session.Bare ↔
        c.Retaken .disconnecting ∧ prior = .connected ∧ Call.endStatus reply ≠ .completed ∧
          c.desk.adapter.session.details = none)) := by
  refine ⟨?_, ?_, ?_⟩
  · intro prior now cancelled reply first hentered hcall
    exact leave_iff hentered hcall now cancelled reply first
  · intro ssid deadline now cancelled first e hentered hcall hnews
    exact lose_iff hentered hcall hnews e
  · intro prior now cancelled reply first hentered hcall horigin hdesk
    exact bare_iff hentered hcall horigin hdesk now cancelled reply first

/-! ## Two late ends -/

/-- An adapter as it is made under the usual settings. -/
def radio : Adapter where
  config := {}
  session := .initial
  notices := .ofNotices
  connectivity := .ofNotices
  scanPeriod := Config.scanPeriod {}
  retryCount := 7
  antenna := .unknown
  station := none
  softAp := none
  throttle := .ofLoop 0

/-- The network that it joins. -/
def network : Details := ⟨"lab", ⟨[0x24, 0x0a, 0xc4, 0x11, 0x22, 0x33], by decide⟩, 6, .wpa2Psk⟩

/-- **A refusal that comes late.** While the first disconnect waits, the coprocessor tells of the end of the
connection and a second disconnect begins. -/
def refusedLate : Course where
  adapter := radio
  before := [.event ⟨.connected, .completed, network.encode⟩ 0]
  request := .disconnect false
  now := 0
  cancelled := false
  since := [.event ⟨.disconnected, .completed, []⟩ 10, .ask (.disconnect false) 30 false]

/-- **A loss that shows late.** While the credentials of the first connect are on their way, the coprocessor reports a
failure and a second connect begins. -/
def lostLate : Course where
  adapter := radio
  before := []
  request := .connect "lab" "hunter22" ⟨0⟩
  now := 0
  cancelled := false
  since := [.event ⟨.connected, .failure, []⟩ 10, .ask (.connect "lab" "hunter22" ⟨0⟩) 30 false]

example : Adapter.create {} true 0 = .ok radio := rfl

theorem retaken_refusedLate : refusedLate.Retaken .disconnecting :=
  ⟨[.event ⟨.disconnected, .completed, []⟩ 10], .ask (.disconnect false) 30 false, [], 1, rfl, by decide, by decide,
    by decide, by decide⟩

theorem retaken_lostLate : lostLate.Retaken .connecting :=
  ⟨[.event ⟨.connected, .failure, []⟩ 10], .ask (.connect "lab" "hunter22" ⟨0⟩) 30 false, [], 1, rfl, by decide,
    by decide, by decide, by decide⟩

/-- **The late refusal** makes the session connected to no known network, and **the late loss** ends the second
attempt. -/
theorem end_unchanged_iff_late :
    (refusedLate.ended 100 false (.ok ⟨.failure, []⟩)).adapter ≠ refusedLate.desk.adapter ∧
      (lostLate.ended 100 false (.error (.transport .retry))).adapter ≠ lostLate.desk.adapter ∧
      (refusedLate.ended 100 false (.ok ⟨.failure, []⟩)).adapter.session.Bare := by
  have hcall : refusedLate.desk.call? refusedLate.number = some (.leaving .connected) := by decide
  refine ⟨?_, ?_, ?_⟩
  · intro hsame
    exact (((end_unchanged_iff refusedLate).1 _ _ _ _ _ (by decide) hcall).mp hsame).2 retaken_refusedLate
  · intro hsame
    have hjoining : lostLate.desk.call? lostLate.number = some (.joining "lab" (.start ⟨0⟩ 0)) := by decide
    exact (((end_unchanged_iff lostLate).2.1 _ _ _ _ _ _ (by decide) hjoining rfl).mp hsame).2 retaken_lostLate
  · exact ((end_unchanged_iff refusedLate).2.2 _ _ _ _ _ (by decide) hcall (by decide) (by decide)).mpr
      ⟨retaken_refusedLate, rfl, by decide, by decide⟩

/-- **The end of a call is only its own**: once the session has left the state of the call, the end changes nothing,
and a disconnect never makes a session connected to no known network. -/
def EndsOnlyItself (c : Course) : Prop :=
  (∀ prior now cancelled reply, c.Entered .disconnecting → c.desk.call? c.number = some (.leaving prior) →
    c.Left .disconnecting →
      (c.ended now cancelled reply).adapter = c.desk.adapter ∧
        ¬ (c.ended now cancelled reply).adapter.session.Bare) ∧
  (∀ ssid deadline now e, c.Entered .connecting → c.desk.call? c.number = some (.joining ssid deadline) →
    deadline.passed now = false → c.Left .connecting →
      (c.ended now false (.error e)).adapter = c.desk.adapter)

/-- **Neither of the two late ends is only its own.** -/
theorem not_endsOnlyItself_late : ¬ refusedLate.EndsOnlyItself ∧ ¬ lostLate.EndsOnlyItself := by
  constructor
  · intro h
    have hown := h.1 .connected 100 false (.ok ⟨.failure, []⟩) (by decide) (by decide) (by decide)
    have hbare : (refusedLate.ended 100 false (.ok ⟨.failure, []⟩)).adapter.session.Bare := by decide
    exact hown.2 hbare
  · intro h
    have hsame := h.2 "lab" (.start ⟨0⟩ 0) 100 (.transport .retry) (by decide) (by decide) rfl (by decide)
    have hstate : (lostLate.ended 100 false (.error (.transport .retry))).state = lostLate.desk.state :=
      congrArg (fun a => a.session.state) hsame
    revert hstate
    decide

end Course

end Peripherals.Coprocessor
