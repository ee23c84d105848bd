import Mathlib.Data.List.Induction
import Peripherals.Proofs.Call.Heard

/-!
# `Proofs.Call.Loss` — who is not told that a connection is lost

Subscribers who have been told that an adapter is connected would like to hear when it no longer is. An event that
ends the connection is always told. Two ends of calls are not: a connect whose request is lost takes the session to
`disconnected` without a word, and a disconnect tells of its success only if it began in `connected`.

Neither does harm as long as the session was not connected before. But a connect may begin while the session is
connected, and that is not told either. `Desk.unheard_iff` says that this is the only way in which subscribers are
left behind: they last heard of a connection that is gone exactly if a connect has overtaken it, and nothing about
connectivity has been told since. `lostRequest` and `lateDisconnect` are such histories, one for each silent end.

* `Desk.Quiet`, `Desk.quiet_act` — what a move can do without a word;
* `Desk.Standing` — the connection is there, or a disconnect under way would bring it back;
* `Desk.Heard.standing_act` — a connection that stands can only be given up in silence by a connect;
* `Desk.Overtaken` — a connect has given one up;
* `Desk.silent_disconnected` — the two ends of calls that say nothing.
-/

namespace Peripherals.Coprocessor

theorem Notice.mem_of_lastChange {ns : List Notice} {n : Notice} (h : lastChange ns = some n) : n ∈ ns :=
  (List.mem_filter.mp (List.mem_of_getLast? h)).1

namespace Session

variable {s : Session} {status : Status}

/-- A failure is told unless it follows another. -/
theorem state_of_recordFailure_quiet (h : Notice.lastChange (s.recordFailure status).notices = none) :
    s.state = .error := by
  by_cases hstate : s.state = .error
  · exact hstate
  · rw [notices_recordFailure_of_ne hstate] at h
    contradiction

end Session

namespace Desk

variable {d : Desk} {m : Move} {last : Option Notice}

/-! ## A disconnect in progress -/

/-- A disconnect that begins is in progress under the next number. -/
theorem call?_of_disconnect (turnOff : Bool) (now : Nat) (cancelled : Bool) (h : d.state ≠ .disconnecting) :
    (d.act (.ask (.disconnect turnOff) now cancelled)).call? d.calls.length = some (.leaving d.state) := by
  have hbegin : d.adapter.session.beginDisconnect = .ok { d.adapter.session with state := .disconnecting } :=
    Session.beginDisconnect_eq_ok.mpr ⟨h, rfl⟩
  simp only [act, Call.start, hbegin]
  exact call?_append_self d _ _

/-- **What becomes of a disconnect in progress**: it goes on, or the move completes it. -/
theorem leaving_goes_on {n : Nat} {prior : State} (h : d.call? n = some (.leaving prior)) (m : Move) :
    (d.act m).call? n = some (.leaving prior) ∨
      ∃ status, d.adapter.Advanced (d.adapter.session.completeDisconnect prior status) (d.act m).adapter := by
  cases m with
  | ask request now cancelled =>
      refine .inl ?_
      simp only [act]
      split
      · exact h
      · rw [call?_append_of_lt (lt_of_call? h)]
        exact h
  | turn k now cancelled reply first =>
      cases hcall : d.call? k with
      | none =>
          rw [act_turn_none hcall]
          exact .inl h
      | some call =>
          rcases act_turn hcall now cancelled reply first with
            hact | ⟨_, _, _, hnot, hact⟩ | ⟨t, a', heffect, hadvanced, hact⟩
          · rw [hact]
            exact .inl h
          · rw [hact]
            by_cases hk : k = n
            · subst hk
              exact absurd (Option.some.inj (hcall.symm.trans h)) (hnot prior)
            · rw [call?_keep_of_ne hk]
              exact .inl h
          · rw [hact]
            by_cases hk : k = n
            · subst hk
              obtain rfl := Option.some.inj (hcall.symm.trans h)
              cases heffect with
              | none hnot => exact absurd rfl (hnot prior)
              | complete => exact .inr ⟨_, hadvanced⟩
            · rw [call?_keep_of_ne hk]
              exact .inl h
  | event e wall => exact .inl h

/-! ## Silent moves -/

/-- **Everything that a move can do to the state without telling of a change.** -/
inductive Quiet (d : Desk) : Move → State → Prop where
  | same {m : Move} : Quiet d m d.state
  | connect {ssid password : String} {timeout : Duration} {now : Nat} {cancelled : Bool} (h : d.state ≠ .disconnecting) :
    Quiet d (.ask (.connect ssid password timeout) now cancelled) .connecting
  | disconnect {turnOff : Bool} {now : Nat} {cancelled : Bool} (h : d.state ≠ .disconnecting) :
    Quiet d (.ask (.disconnect turnOff) now cancelled) .disconnecting
  | lost {n now : Nat} {cancelled : Bool} {reply : Option (Except Error Response)} {first : Wait} {ssid : String}
    {deadline : Deadline} (h : d.state = .connecting) (hcall : d.call? n = some (.joining ssid deadline)) :
    Quiet d (.turn n now cancelled reply first) .disconnected
  | refused {n now : Nat} {cancelled : Bool} {reply : Option (Except Error Response)} {first : Wait} {prior : State}
    (h : d.state = .disconnecting) (hcall : d.call? n = some (.leaving prior)) :
    Quiet d (.turn n now cancelled reply first) prior
  | done {n now : Nat} {cancelled : Bool} {reply : Option (Except Error Response)} {first : Wait} {prior : State}
    (h : d.state = .disconnecting) (hcall : d.call? n = some (.leaving prior)) (hprior : prior ≠ .connected) :
    Quiet d (.turn n now cancelled reply first) .disconnected

theorem quiet_act (hquiet : Notice.lastChange (d.told m) = none) : Quiet d m (d.act m).state := by
  obtain ⟨t, hshift, hsession, htold, -⟩ := transition_act d m
  rw [htold] at hquiet
  rw [state, hsession]
  -- A change that goes without a word has found the session where it takes it.
  have hsame : t.session.state = d.state → Quiet d m t.session.state := fun hsame => hsame ▸ .same
  cases hshift with
  | keep => exact .same
  | connect _ hleaves => exact .connect hleaves
  | disconnect hleaves => exact .disconnect hleaves
  | lose hcall hstate => exact .lost hstate hcall
  | fail _ _ => exact hsame (Session.state_of_recordFailure_quiet hquiet).symm
  | restore hcall hstate => exact .refused hstate hcall
  | leave hcall hstate =>
      refine .done hstate hcall ?_
      rintro rfl
      contradiction
  | report _ => exact hsame (Session.state_of_recordFailure_quiet hquiet).symm
  | joined _ _ _ =>
      by_cases hstate : d.state = .connected
      · exact hsame hstate.symm
      · rw [if_pos hstate] at hquiet
        contradiction
  | parted _ _ =>
      by_cases hstate : d.state = .disconnected
      · exact hsame hstate.symm
      · rw [if_pos hstate] at hquiet
        contradiction
  | passOn hpassed _ => exact hsame (congrArg Session.state hpassed)

/-! ## A connection that stands -/

/-- **The connection stands**: the session is connected, or a disconnect that began while it was is under way. -/
def Standing (d : Desk) : Prop :=
  d.state = .connected ∨ (d.state = .disconnecting ∧ ∃ n, d.call? n = some (.leaving .connected))

/-- What happens in silence to a session that is connected: nothing, a disconnect, or a connect. -/
theorem standing_act_of_connected (hin : d.state = .connected) (hquiet : Notice.lastChange (d.told m) = none) :
    (d.act m).Standing ∨ (d.act m).state = .connecting := by
  have h := quiet_act hquiet
  generalize hafter : (d.act m).state = after at h
  cases h with
  | same => exact .inl (.inl (hafter.trans hin))
  | connect _ => exact .inr rfl
  | @disconnect turnOff now cancelled hne =>
      have hcall := call?_of_disconnect turnOff now cancelled hne
      rw [hin] at hcall
      exact .inl (.inr ⟨hafter, _, hcall⟩)
  | lost hconnecting _ => exact absurd (hin.symm.trans hconnecting) State.noConfusion
  | refused hleaving _ => exact absurd (hin.symm.trans hleaving) State.noConfusion
  | done hleaving _ _ => exact absurd (hin.symm.trans hleaving) State.noConfusion

/-- What happens in silence while a disconnect is under way that began in `connected`: nothing, or its refusal. -/
theorem Heard.standing_act_of_disconnecting (h : d.Heard last) {n : Nat}
    (hcall : d.call? n = some (.leaving .connected)) (hin : d.state = .disconnecting)
    (hquiet : Notice.lastChange (d.told m) = none) : (d.act m).Standing := by
  -- There is only one disconnect in progress, so that whichever ends is this one.
  have hprior : ∀ {k prior}, d.call? k = some (.leaving prior) → prior = .connected := by
    intro k prior hk
    obtain rfl := h.single _ _ _ _ hk hcall
    exact Call.leaving.inj (Option.some.inj (hk.symm.trans hcall))
  have hstep := quiet_act hquiet
  generalize hafter : (d.act m).state = after at hstep
  cases hstep with
  | same =>
      rcases leaving_goes_on hcall m with hstill | ⟨status, hadvanced⟩
      · exact .inr ⟨hafter.trans hin, n, hstill⟩
      · have hne : (d.adapter.session.completeDisconnect .connected status).session.state ≠ .disconnecting :=
          Session.completeDisconnect_state_ne State.noConfusion
        rw [state, hadvanced.session] at hafter
        exact absurd (hafter.trans hin) hne
  | connect hne => exact absurd hin hne
  | disconnect hne => exact absurd hin hne
  | lost hconnecting _ => exact absurd (hin.symm.trans hconnecting) State.noConfusion
  | refused _ hleaving => exact .inl (hafter.trans (hprior hleaving))
  | done _ hleaving hne => exact absurd (hprior hleaving) hne

/-- **A connection that stands is given up in silence only by a connect that begins.** -/
theorem Heard.standing_act (h : d.Heard last) (hstands : d.Standing) (hquiet : Notice.lastChange (d.told m) = none) :
    (d.act m).Standing ∨ (d.state = .connected ∧ (d.act m).state = .connecting) := by
  rcases hstands with hin | ⟨hin, n, hcall⟩
  · rcases standing_act_of_connected hin hquiet with hstands | hconnecting
    · exact .inl hstands
    · exact .inr ⟨hin, hconnecting⟩
  · exact .inl (h.standing_act_of_disconnecting hcall hin hquiet)

/-! ## A connection that was overtaken -/

/-- **A connect has overtaken the connection**: it began while the session was connected, and nothing about
connectivity has been told since. -/
def Overtaken (d : Desk) (moves : List Move) : Prop :=
  ∃ first m last, moves = first ++ m :: last ∧ (d.run first).state = .connected ∧
    ((d.run first).act m).state = .connecting ∧ Notice.lastChange ((d.run first).tale (m :: last)) = none

theorem Overtaken.snoc {moves : List Move} (h : d.Overtaken moves)
    (hquiet : Notice.lastChange ((d.run moves).told m) = none) : d.Overtaken (moves ++ [m]) := by
  obtain ⟨first, m', last, rfl, hconnected, hconnecting, hlast⟩ := h
  refine ⟨first, m', last ++ [m], by simp, hconnected, hconnecting, ?_⟩
  rw [run_append] at hquiet
  rw [← List.cons_append, tale_append, tale_singleton, Notice.lastChange_append, hquiet, Option.none_or]
  exact hlast

/-- **Whoever last heard that the adapter is connected** is right, or a connect has overtaken the connection. -/
theorem standing_or_overtaken {a : Adapter} (ha : a.session = .initial) {moves : List Move}
    (horderly : (idle a).Orderly moves) {details : Details}
    (hlast : Notice.lastChange ((idle a).tale moves) = some (.connected details)) :
    ((idle a).run moves).Standing ∨ (idle a).Overtaken moves := by
  induction moves using List.reverseRecOn generalizing details with
  | nil => contradiction
  | append_singleton moves m ih =>
      obtain ⟨hbefore, -, -⟩ := orderly_append.mp horderly
      rw [tale_append, tale_singleton, Notice.lastChange_append] at hlast
      rw [run_append]
      cases htold : Notice.lastChange (((idle a).run moves).told m) with
      | some n =>
          rw [htold] at hlast
          obtain rfl := Option.some.inj hlast
          exact .inl (.inl (connected_told (Notice.mem_of_lastChange htold)).2.1)
      | none =>
          rw [htold, Option.none_or] at hlast
          rcases ih hbefore hlast with hstands | hovertaken
          · have hheard := heard_run (heard_idle ha) hbefore
            rcases hheard.standing_act hstands htold with hstands | ⟨hconnected, hconnecting⟩
            · exact .inl hstands
            · refine .inr ⟨moves, m, [], rfl, hconnected, hconnecting, ?_⟩
              rw [tale_singleton]
              exact htold
          · exact .inr (hovertaken.snoc htold)

/-- Subscribers of a connection that was overtaken still believe in it. -/
theorem Overtaken.lastChange {a : Adapter} (ha : a.session = .initial) {moves : List Move}
    (horderly : (idle a).Orderly moves) (h : (idle a).Overtaken moves) :
    ∃ details, Notice.lastChange ((idle a).tale moves) = some (.connected details) := by
  obtain ⟨first, m, last, rfl, hconnected, -, hquiet⟩ := h
  obtain ⟨hbefore, -⟩ := orderly_append.mp horderly
  obtain ⟨details, hdetails⟩ := (heard_run (heard_idle ha) hbefore).fits.connected hconnected
  refine ⟨details, ?_⟩
  rw [tale_append, Notice.lastChange_append, hquiet, Option.none_or, ← hdetails, Option.or_none]

/-! ## Silent ends -/

/-- **The ways into `disconnected` of which nothing is told**: a connect whose request is lost, and a disconnect that
did not begin in `connected`. -/
theorem silent_disconnected (hout : d.state ≠ .disconnected) (hin : (d.act m).state = .disconnected)
    (hquiet : Notice.lastChange (d.told m) = none) :
    ∃ n now cancelled reply favoured, m = .turn n now cancelled reply favoured ∧
      ((d.state = .connecting ∧ ∃ ssid deadline, d.call? n = some (.joining ssid deadline)) ∨
        (d.state = .disconnecting ∧ ∃ prior, d.call? n = some (.leaving prior) ∧ prior ≠ .connected)) := by
  have h := quiet_act hquiet
  rw [hin] at h
  generalize hafter : State.disconnected = after at h
  cases h with
  | same => exact absurd hafter.symm hout
  | connect _ => contradiction
  | disconnect _ => contradiction
  | lost hconnecting hcall => exact ⟨_, _, _, _, _, rfl, .inl ⟨hconnecting, _, _, hcall⟩⟩
  | refused hleaving hcall =>
      subst hafter
      exact ⟨_, _, _, _, _, rfl, .inr ⟨hleaving, _, hcall, State.noConfusion⟩⟩
  | done hleaving hcall hne => exact ⟨_, _, _, _, _, rfl, .inr ⟨hleaving, _, hcall, hne⟩⟩

/-- **Who last heard of a connection that is gone.** When a new adapter whose disconnects follow each other is
disconnected, the last that was told about connectivity is that it is connected exactly if a connect has overtaken
the connection. Whenever it becomes disconnected without a word, that is the end of a connect whose request is lost,
or of a disconnect that did not begin in `connected`. -/
theorem unheard_iff {config : WirelessConfig} {runtime : Bool} {wall : Nat} {a : Adapter}
    (ha : Adapter.create config runtime wall = .ok a) {moves : List Move} (horderly : (idle a).Orderly moves) :
    (((idle a).run moves).state = .disconnected →
      ((∃ details, Notice.lastChange ((idle a).tale moves) = some (.connected details)) ↔
        (idle a).Overtaken moves)) ∧
    (∀ first m last, moves = first ++ m :: last → ((idle a).run first).state ≠ .disconnected →
      (((idle a).run first).act m).state = .disconnected → Notice.lastChange (((idle a).run first).told m) = none →
        ∃ n now cancelled reply favoured, m = .turn n now cancelled reply favoured ∧
          ((((idle a).run first).state = .connecting ∧
              ∃ ssid deadline, ((idle a).run first).call? n = some (.joining ssid deadline)) ∨
            (((idle a).run first).state = .disconnecting ∧
              ∃ prior, ((idle a).run first).call? n = some (.leaving prior) ∧ prior ≠ .connected))) := by
  have hinitial := session_of_create ha
  constructor
  · intro hstate
    constructor
    · rintro ⟨details, hlast⟩
      rcases standing_or_overtaken hinitial horderly hlast with (hin | ⟨hin, -⟩) | hovertaken
      · rw [hstate] at hin
        contradiction
      · rw [hstate] at hin
        contradiction
      · exact hovertaken
    · exact Overtaken.lastChange hinitial horderly
  · intro first m last _ hout hin hquiet
    exact silent_disconnected hout hin hquiet

/-! ## Two connections that were overtaken -/

/-- The request of a connect that began while connected is lost. -/
def lostRequest : List Move :=
  [.event ⟨.connected, .completed, Course.network.encode⟩ 0, .ask (.connect "guest" "hunter22" ⟨0⟩) 0 false,
    .turn 0 0 false (some (.error (.transport .retry)))]

/-- A connect that began while connected runs out of time, and the adapter is disconnected after that. -/
def lateDisconnect : List Move :=
  [.event ⟨.connected, .completed, Course.network.encode⟩ 0,
    .ask (.connect "guest" "hunter22" ⟨100000000⟩) 0 false, .turn 0 0 false (some (.ok ⟨.completed, []⟩)),
    .turn 0 100 false none, .ask (.disconnect false) 100 false, .turn 1 100 false (some (.ok ⟨.completed, []⟩))]

/-- Both were overtaken, as what was last heard of them shows. -/
theorem overtaken_lostRequest_lateDisconnect :
    Adapter.create {} true 0 = .ok Course.radio ∧ (idle Course.radio).Overtaken lostRequest ∧
      (idle Course.radio).Overtaken lateDisconnect :=
  ⟨rfl, ((@unheard_iff {} true 0 Course.radio rfl lostRequest (by decide)).1 (by decide)).mp
      ⟨Course.network, by decide⟩,
    ((@unheard_iff {} true 0 Course.radio rfl lateDisconnect (by decide)).1 (by decide)).mp
      ⟨Course.network, by decide⟩⟩

/-- **Whoever was told that the adapter is connected hears when it is disconnected.** -/
def HeardOfLoss (d : Desk) (moves : List Move) : Prop :=
  (d.run moves).state = .disconnected → ∀ details, Notice.lastChange (d.tale moves) ≠ some (.connected details)

/-- **Of these two losses nobody hears.** -/
theorem not_heardOfLoss :
    (idle Course.radio).Orderly lostRequest ∧ ¬ (idle Course.radio).HeardOfLoss lostRequest ∧
      (idle Course.radio).Orderly lateDisconnect ∧ ¬ (idle Course.radio).HeardOfLoss lateDisconnect :=
  ⟨by decide, fun h => h (by decide) Course.network (by decide), by decide,
    fun h => h (by decide) Course.network (by decide)⟩

end Desk

end Peripherals.Coprocessor
