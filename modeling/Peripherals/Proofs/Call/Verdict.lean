import Peripherals.Proofs.Call.Namesake
import Peripherals.Proofs.Call.Refusal
import Peripherals.Proofs.Call.Vigil
import Peripherals.Proofs.Link.Delivery

/-!
# `Proofs.Call.Verdict` — what the answer of a connect says of the session

A connect that does not give up ends in one of two ways: the coprocessor refuses the credentials, and the refusal is
recorded; or a look finds the session out of `connecting`, and its state is the answer. Between the beginning of the
call and that look everything may happen: events, other connects, disconnects that are carried out or refused.

The answer can be believed all the same (`Course.connect_confirmed`). A success means that the session is connected
and knows the network. A failure means that it is in error with that very status, which is never missing and never
that of a success. The only other states that are ever answered are `disconnected` and `disconnecting`, and the session
is in them. Behind this is `Session.Engaged`: from the beginning of a connect on, the session is consistent and never
unknown. Overlapping disconnects break that: the one of `Course.refusedLate` ends connected to no known network.

* `Session.Confirms` — what an answer says of a session is true;
* `Session.confirms_verdict`, `Call.confirms_of_turn` — a look, and a turn;
* `Course.Answers` — all the ways in which the call of a history answers;
* `Course.connect_confirmed` — what a connect answers is true.
-/

namespace Peripherals.Coprocessor

/-! ## What an answer says of the session -/

namespace Session

variable {s : Session} {e : Error}

/-- **What an answer says of the session is true**: a success says that it is connected to a known network, a failure
that it is in error with that status, and a state that it is in that state and nothing is under way to a network. -/
structure Confirms (s : Session) (result : Except Error Success) : Prop where
  joined : ∀ success, result = .ok success → s.state = .connected ∧ ∃ network, s.details = some network
  failed : ∀ status, result = .error (.connectionFailed status) →
    s.state = .error ∧ s.lastStatus = some status ∧ status ≠ .completed
  elsewhere : ∀ st, result = .error (.notConnected st) →
    s.state = st ∧ (st = .disconnected ∨ st = .disconnecting)

/-- Most errors say nothing of the session. -/
theorem confirms_of_silent (hfailed : ∀ status, e ≠ .connectionFailed status) (helse : ∀ st, e ≠ .notConnected st) :
    s.Confirms (.error e) where
  joined _ h := by contradiction
  failed status h := absurd (Except.error.inj h) (hfailed status)
  elsewhere st h := absurd (Except.error.inj h) (helse st)

theorem confirms_of_loss (h : e.isLoss = true) : s.Confirms (.error e) := by
  apply confirms_of_silent
  · rintro status rfl
    contradiction
  · rintro st rfl
    contradiction

theorem confirms_of_failed {status : Status} (hstate : s.state = .error) (hlast : s.lastStatus = some status)
    (hstatus : status ≠ .completed) : s.Confirms (.error (.connectionFailed status)) where
  joined _ h := by contradiction
  failed status' h := by
    obtain rfl := Error.connectionFailed.inj (Except.error.inj h)
    exact ⟨hstate, hlast, hstatus⟩
  elsewhere st h := by
    have hkind := Except.error.inj h
    contradiction

theorem confirms_of_elsewhere {st : State} (hstate : s.state = st) (hst : st = .disconnected ∨ st = .disconnecting) :
    s.Confirms (.error (.notConnected st)) where
  joined _ h := by contradiction
  failed status h := by
    have hkind := Except.error.inj h
    contradiction
  elsewhere st' h := by
    obtain rfl := Error.notConnected.inj (Except.error.inj h)
    exact ⟨hstate, hst⟩

/-- **What a look answers is true** of a session on which a connect has begun. In particular, there is a status to
answer whenever the session is in error. -/
theorem confirms_verdict (h : s.Engaged) (hout : s.state ≠ .connecting) : s.Confirms s.verdict := by
  unfold verdict
  cases hstate : s.state with
  | unknown => exact absurd hstate h.known
  | connecting => exact absurd hstate hout
  | connected =>
      have hknown := Option.isSome_iff_exists.mp (h.consistent.details_of_connected hstate)
      exact ⟨fun _ _ => ⟨hstate, hknown⟩, nofun, nofun⟩
  | error =>
      obtain ⟨status, hlast, hstatus⟩ := h.consistent.status_of_error hstate
      rw [hlast]
      exact confirms_of_failed hstate hlast hstatus
  | disconnected => exact confirms_of_elsewhere hstate (.inl rfl)
  | disconnecting => exact confirms_of_elsewhere hstate (.inr rfl)

end Session

/-! ## Turns -/

namespace Call

variable {a a' : Adapter} {d : Deadline} {now : Nat} {cancelled : Bool} {reply : Option (Except Error Response)}
  {ssid : String} {call : Call} {result : Except Error Success} {lines : List Log.Line}

/-- A connect that gives up says nothing of the session; otherwise it is up to the news. -/
theorem confirms_of_select {first : Wait} {ends what : String} {news : Option Turn}
    (hturn : select a d now cancelled first ends what news = .over a' result lines)
    (hnews : news = some (.over a' result lines) → a'.session.Confirms result) : a'.session.Confirms result := by
  rcases select_cases a d now cancelled first ends what news with
    ⟨-, lines', hover⟩ | ⟨-, -, lines', hover⟩ | ⟨hover, -⟩
  · obtain ⟨-, rfl, -⟩ := Turn.over.inj (hover.symm.trans hturn)
    exact Session.confirms_of_silent nofun nofun
  · obtain ⟨-, rfl, -⟩ := Turn.over.inj (hover.symm.trans hturn)
    exact Session.confirms_of_silent nofun nofun
  · rw [hover] at hturn
    cases hcase : news with
    | none =>
        rw [hcase] at hturn
        contradiction
    | some news =>
        rw [hcase] at hturn
        exact hnews (hcase.trans (congrArg some hturn))

theorem confirms_of_observe (h : a.session.Engaged) (hlook : observe a ssid d now = .over a' result lines) :
    a'.session.Confirms result := by
  by_cases hstate : a.session.state = .connecting
  · rw [observe_of_connecting ssid hstate] at hlook
    contradiction
  · obtain ⟨lines', hover⟩ := observe_of_ne ssid d now hstate
    rw [hover] at hlook
    obtain ⟨rfl, rfl, -⟩ := Turn.over.inj hlook
    exact Session.confirms_verdict h hstate

theorem confirms_of_joined (h : a.session.Engaged) {reply : Except Error Response} (hreply : Delivered reply)
    (hjoined : joined a ssid d now reply = .over a' result lines) : a'.session.Confirms result := by
  cases reply with
  | error e =>
      obtain ⟨-, rfl, -⟩ := Turn.over.inj hjoined
      exact Session.confirms_of_loss (hreply e rfl)
  | ok response =>
      simp only [joined] at hjoined
      split at hjoined
      · exact confirms_of_observe h hjoined
      · next hstatus =>
          -- The refusal is recorded before it is answered.
          obtain ⟨rfl, rfl, -⟩ := Turn.over.inj hjoined
          rw [Adapter.session_advance]
          exact Session.confirms_of_failed rfl rfl fun hc => hstatus (Status.isOk_iff.mpr hc)

/-- **The turn in which a connect answers** leaves a session of which the answer is true. -/
theorem confirms_of_turn {first : Wait} (hcall : call.ssid? = some ssid) (h : a.session.Engaged)
    (hreply : ∀ r, reply = some r → Delivered r)
    (hturn : turn a now cancelled reply call first = .over a' result lines) : a'.session.Confirms result := by
  cases call with
  | joining ssid' d =>
      refine confirms_of_select hturn fun hnews => ?_
      obtain ⟨r, hr, hjoined⟩ := Option.map_eq_some_iff.mp hnews
      exact confirms_of_joined h (hreply r hr) hjoined
  | watching ssid' d wake =>
      refine confirms_of_select hturn fun hnews => ?_
      split at hnews
      · exact confirms_of_observe h (Option.some.inj hnews)
      · contradiction
  | _ => contradiction

end Call

/-! ## A connect in a history -/

namespace Course

variable {c : Course} {ssid password : String} {timeout : Duration}

/-- **All the ways in which the call of a history answers**, each with the session at that moment: it is refused at
once, or a turn ends it, whatever the time, the wish of the caller and what has come back for the command
(`Delivered`). -/
inductive Answers (c : Course) : Except Error Success → Session → Prop where
  | refused {e : Error} (h : Call.start c.origin.adapter c.now c.cancelled c.request = .error e) :
    Answers c (.error e) c.begun.adapter.session
  | turned {started : Started} {call : Call} {now : Nat} {cancelled : Bool} {reply : Option (Except Error Response)}
    {first : Wait} {a : Adapter} {result : Except Error Success} {lines : List Log.Line}
    (hstart : Call.start c.origin.adapter c.now c.cancelled c.request = .ok started)
    (hcall : c.desk.call? c.number = some call) (hreply : ∀ r, reply = some r → Delivered r)
    (hturn : Call.turn c.desk.adapter now cancelled reply call first = .over a result lines) :
    Answers c result a.session

/-- A connect that starts takes the session to where an attempt begins. -/
theorem begun_of_started {started : Started} (hrequest : c.request = .connect ssid password timeout)
    (hstart : Call.start c.origin.adapter c.now c.cancelled c.request = .ok started) :
    c.Entered .connecting ∧ c.begun.adapter.session = ⟨.connecting, none, none⟩ := by
  have hbegun : c.begun.adapter = started.adapter := by
    unfold begun
    simp only [Desk.act, hstart]
  rw [hrequest] at hstart
  obtain ⟨s, hs, hadapter, -⟩ := Call.start_connect hstart
  obtain ⟨hne, -, rfl⟩ := Session.beginConnect_eq_ok.mp hs
  have hsession : c.begun.adapter.session = ⟨.connecting, none, none⟩ := by rw [hbegun, hadapter]
  exact ⟨⟨hne, congrArg Session.state hsession⟩, hsession⟩

/-- From the beginning of a connect on, the session is consistent and never unknown. -/
theorem engaged_desk (hbegun : c.begun.adapter.session = ⟨.connecting, none, none⟩)
    (horderly : c.begun.Orderly c.since) : c.desk.adapter.session.Engaged := by
  have hstands : c.begun.adapter.session.Engaged := hbegun ▸ Session.engaged_connecting
  have hout : c.begun.state ≠ .disconnecting := by
    unfold Desk.state
    rw [hbegun]
    exact State.noConfusion
  have hupholds := Desk.upholds_of_ne hstands hout c.begunApart_begun
  exact (Desk.upholds_run Session.stable_engaged hupholds horderly).stands

/-- **What a connect answers is true.** If since its beginning no disconnect is asked for while another is in progress,
then whatever else happens and however the call ends, the session of that moment confirms its answer. -/
theorem connect_confirmed (hrequest : c.request = .connect ssid password timeout) (horderly : c.begun.Orderly c.since)
    {result : Except Error Success} {s : Session} (h : c.Answers result s) : s.Confirms result := by
  cases h with
  | refused hrefused =>
      rw [hrequest, Call.start_eq_error_iff] at hrefused
      -- None of the three refusals of a connect is an answer about the session.
      cases hrefused with
      | noName => exact Session.confirms_of_silent nofun nofun
      | raisedConnect => exact Session.confirms_of_silent nofun nofun
      | busyConnect => exact Session.confirms_of_silent nofun nofun
  | turned hstart hcall hreply hturn =>
      obtain ⟨hentered, hbegun⟩ := begun_of_started hrequest hstart
      have hconnects := Desk.connects_run (number_lt hentered) (begun_of_entered hrequest hentered).2 c.since
      exact Call.confirms_of_turn (hconnects _ hcall) (engaged_desk hbegun horderly) hreply hturn

/-! ## A failure that is answered late -/

/-- **A failure that outlasts a disconnect.** After the first look the coprocessor reports that there is no such access
point. Before the next look a disconnect begins and is refused, and so puts the error back. -/
def restoredFailure : Course where
  adapter := radio
  before := []
  request := .connect "lab" "hunter22" ⟨0⟩
  now := 0
  cancelled := false
  since := [.turn 0 1 false (some (.ok ⟨.completed, []⟩)), .event ⟨.connected, .accessPointNotFound, []⟩ 10,
    .ask (.disconnect false) 20 false, .turn 1 30 false (some (.ok ⟨.failure, []⟩))]

/-- The next look answers that very status. -/
theorem connect_confirmed_restored :
    restoredFailure.Answers (.error (.connectionFailed .accessPointNotFound)) restoredFailure.desk.adapter.session ∧
      restoredFailure.desk.adapter.session.Confirms (.error (.connectionFailed .accessPointNotFound)) := by
  have hstart : Call.start restoredFailure.origin.adapter 0 false (.connect "lab" "hunter22" ⟨0⟩)
      = .ok (Vigil.attempt ⟨0⟩) := rfl
  have hcall : restoredFailure.desk.call? restoredFailure.number = some (.watching "lab" (.start ⟨0⟩ 0) 501) := by
    decide
  have hturn : Call.turn restoredFailure.desk.adapter 1000 false none (.watching "lab" (.start ⟨0⟩ 0) 501)
      = .over restoredFailure.desk.adapter (.error (.connectionFailed .accessPointNotFound)) [] := rfl
  have hreply : ∀ r, (none : Option (Except Error Response)) = some r → Delivered r := nofun
  have hanswers := Answers.turned hstart hcall hreply hturn
  exact ⟨hanswers, @connect_confirmed restoredFailure "lab" "hunter22" ⟨0⟩ rfl (by decide) _ _ hanswers⟩

end Course

end Peripherals.Coprocessor
