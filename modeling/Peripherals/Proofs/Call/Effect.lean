import Peripherals.Coprocessor.Call
import Peripherals.Proofs.Session.Transition

/-!
# `Proofs.Call.Effect` — what a call can do to an adapter

A call touches its adapter when it starts and when a turn ends it, and it does so by a transition of the session
or not at all. This module lists the ways once (`Call.start_cases`, `Call.outcome_turn`), so that no other proof
opens `Call.start`, `Call.turn` or the answers behind them. `Adapter.Advanced` says what a transition means for the
adapter: its new session, and what its subscribers are told.
-/

namespace Peripherals.Coprocessor

/-! ## Messages -/

namespace Parcel

/-- The notice that a message on the channel of notices is. -/
def notice? : Parcel → Option Notice
  | .notice n => some n
  | .connectivity _ => none

/-- The change that a message on the channel of connectivity is. -/
def connectivity? : Parcel → Option Network.Event
  | .connectivity e => some e
  | .notice _ => none

end Parcel

namespace Notice

/-- Of the messages for notices, those on the channel of notices are the notices, -/
theorem notice?_parcels (ns : List Notice) : (ns.flatMap parcels).filterMap Parcel.notice? = ns := by
  induction ns with
  | nil => rfl
  | cons n rest ih =>
      rw [List.flatMap_cons, List.filterMap_append, ih]
      unfold parcels
      cases n.connectivity? with
      | none => rfl
      | some e => rfl

/-- and those on the other channel are their changes of connectivity. -/
theorem connectivity?_parcels (ns : List Notice) :
    (ns.flatMap parcels).filterMap Parcel.connectivity? = ns.filterMap connectivity? := by
  induction ns with
  | nil => rfl
  | cons n rest ih =>
      rw [List.flatMap_cons, List.filterMap_append, ih]
      unfold parcels
      cases h : n.connectivity? with
      | none =>
          rw [List.filterMap_cons_none h]
          rfl
      | some e =>
          rw [List.filterMap_cons_some h]
          rfl

end Notice

/-! ## Transitions of an adapter -/

namespace Adapter

/-- **What sending messages does to an adapter**: each goes out on its channel, in order; nothing else changes. -/
theorem post_all (a : Adapter) (ps : List Parcel) :
    ps.foldl post a =
      { a with
        notices := a.notices.sendAll (ps.filterMap Parcel.notice?)
        connectivity := a.connectivity.sendAll (ps.filterMap Parcel.connectivity?) } := by
  induction ps generalizing a with
  | nil => rfl
  | cons p rest ih =>
      rw [List.foldl_cons, ih]
      cases p with
      | connectivity e => rfl
      | notice n => rfl

/-- **What telling notices does to an adapter**: each goes out on the channel of notices and, if it is about
connectivity, on the other one; nothing else changes. -/
theorem publish_eq (a : Adapter) (ns : List Notice) :
    a.publish ns =
      { a with
        notices := a.notices.sendAll ns
        connectivity := a.connectivity.sendAll (ns.filterMap Notice.connectivity?) } := by
  rw [publish, post_all, Notice.notice?_parcels, Notice.connectivity?_parcels]

@[simp] theorem session_publish (a : Adapter) (ns : List Notice) : (a.publish ns).session = a.session := by
  rw [publish_eq]

theorem notices_publish (a : Adapter) (ns : List Notice) : (a.publish ns).notices = a.notices.sendAll ns := by
  rw [publish_eq]

theorem config_publish (a : Adapter) (ns : List Notice) : (a.publish ns).config = a.config := by rw [publish_eq]

theorem connectivity_publish (a : Adapter) (ns : List Notice) :
    (a.publish ns).connectivity = a.connectivity.sendAll (ns.filterMap Notice.connectivity?) := by
  rw [publish_eq]

@[simp] theorem session_advance (a : Adapter) (t : Transition) : (a.advance t).session = t.session :=
  session_publish _ _

/-- A transition that changes nothing and tells nothing has no effect. -/
theorem advance_quietly (a : Adapter) : a.advance a.session.quietly = a := rfl

/-- **An adapter has gone over to the session of a transition and told its notices**, each on the channel of notices
and, if it is about connectivity, on the other one. Its configuration is the same. The rest is left open. -/
structure Advanced (a : Adapter) (t : Transition) (a' : Adapter) : Prop where
  session : a'.session = t.session
  notices : a'.notices = a.notices.sendAll t.notices
  connectivity : a'.connectivity = a.connectivity.sendAll (t.notices.filterMap Notice.connectivity?)
  config : a'.config = a.config

theorem advanced_quietly (a : Adapter) (s : Session) : a.Advanced s.quietly { a with session := s } :=
  ⟨rfl, rfl, rfl, rfl⟩

theorem advanced_advance (a : Adapter) (t : Transition) : a.Advanced t (a.advance t) where
  session := session_advance a t
  notices := notices_publish _ _
  connectivity := connectivity_publish _ _
  config := config_publish _ _

/-- **What an event can do to an adapter**: be applied to its session, or nothing but use up a warning. -/
theorem advanced_dispatch (a : Adapter) (e : Event) (wall : Nat) :
    (∃ t, a.session.apply e = .ok t ∧ a.Advanced t (a.dispatch e wall).1) ∨
      a.Advanced a.session.quietly (a.dispatch e wall).1 := by
  unfold dispatch
  split
  · next t ht => exact .inl ⟨t, ht, advanced_advance a t⟩
  · exact .inr ⟨rfl, rfl, rfl, rfl⟩

/-- The times between scans that are allowed. -/
theorem allowsScanPeriod_eq_true {period : Duration} :
    allowsScanPeriod period = true ↔ 1000000000 ≤ period.nanos ∧ period.nanos ≤ 60000000000 := by
  rw [allowsScanPeriod, Bool.and_eq_true, decide_eq_true_iff, decide_eq_true_iff]
  exact Iff.rfl

end Adapter

/-- The function that a request asks for. -/
def Request.function : Request → Function
  | .connect .. => .connect
  | .disconnect _ => .disconnect
  | .scan _ => .listAccessPoints
  | .startInterface => .startInterface
  | .stopInterface => .stopInterface
  | .setAntenna .. => .setAntenna

/-- What a request says to that function, unless it cannot be said. -/
def Request.payload? : Request → Option Bytes
  | .connect ssid password _ => some (Credentials.encode ⟨ssid, password⟩)
  | .disconnect turnOff => some (disconnectRequest turnOff)
  | .setAntenna antenna persist => antennaRequest? antenna persist
  | _ => some []

namespace Call

/-! ## Starting -/

/-- **A request that starts sends its command.** -/
theorem command_of_start {a : Adapter} {now : Nat} {cancelled : Bool} {request : Request} {started : Started}
    (h : start a now cancelled request = .ok started) :
    ∃ payload, request.payload? = some payload ∧ started.command = .wireless request.function payload := by
  cases request with
  | connect ssid password timeout =>
      simp only [start] at h
      split at h
      · contradiction
      · split at h
        · contradiction
        · split at h
          · contradiction
          · rw [← Except.ok.inj h]
            exact ⟨_, rfl, rfl⟩
  | disconnect turnOff =>
      simp only [start] at h
      split at h
      · contradiction
      · rw [← Except.ok.inj h]
        exact ⟨_, rfl, rfl⟩
  | scan timeout =>
      simp only [start] at h
      split at h
      · contradiction
      · rw [← Except.ok.inj h]
        exact ⟨_, rfl, rfl⟩
  | startInterface =>
      rw [← Except.ok.inj h]
      exact ⟨_, rfl, rfl⟩
  | stopInterface =>
      rw [← Except.ok.inj h]
      exact ⟨_, rfl, rfl⟩
  | setAntenna antenna persist =>
      simp only [start] at h
      split at h
      · contradiction
      · next payload hpayload =>
        rw [← Except.ok.inj h]
        exact ⟨payload, hpayload, rfl⟩

/-- A connect that passes its checks takes the session to where an attempt begins, and waits for the answer. -/
theorem start_connect {a : Adapter} {now : Nat} {cancelled : Bool} {ssid password : String} {timeout : Duration}
    {started : Started} (h : start a now cancelled (.connect ssid password timeout) = .ok started) :
    ∃ s, a.session.beginConnect = .ok s ∧ started.adapter = { a with session := s } ∧
      started.call = .joining ssid (.start timeout now) := by
  simp only [start] at h
  split at h
  · contradiction
  · split at h
    · contradiction
    · split at h
      · contradiction
      · next s hs =>
          obtain rfl := Except.ok.inj h
          exact ⟨s, hs, rfl, rfl⟩

/-- **Everything that a request can do when it starts**: begin to connect, begin to disconnect, or leave the adapter
as it is. The call that disconnects remembers the state in which it began. -/
theorem start_cases {a : Adapter} {now : Nat} {cancelled : Bool} {request : Request} {started : Started}
    (h : start a now cancelled request = .ok started) :
    (∃ ssid password timeout s, request = .connect ssid password timeout ∧ a.session.beginConnect = .ok s ∧
      started.adapter = { a with session := s } ∧ started.call = .joining ssid (.start timeout now)) ∨
    (∃ turnOff s, request = .disconnect turnOff ∧ a.session.beginDisconnect = .ok s ∧
      started.adapter = { a with session := s } ∧ started.call = .leaving a.session.state) ∨
    (started.adapter = a ∧ (∀ ssid d, started.call ≠ .joining ssid d) ∧ ∀ prior, started.call ≠ .leaving prior) := by
  cases request with
  | connect ssid password timeout =>
      obtain ⟨s, hs, hadapter, hcall⟩ := start_connect h
      exact .inl ⟨ssid, password, timeout, s, rfl, hs, hadapter, hcall⟩
  | disconnect turnOff =>
      simp only [start] at h
      split at h
      · contradiction
      · next s hs =>
          obtain rfl := Except.ok.inj h
          exact .inr (.inl ⟨turnOff, s, rfl, hs, rfl, rfl⟩)
  | scan timeout =>
      simp only [start] at h
      split at h
      · contradiction
      · obtain rfl := Except.ok.inj h
        exact .inr (.inr ⟨rfl, by simp, by simp⟩)
  | startInterface =>
      obtain rfl := Except.ok.inj h
      exact .inr (.inr ⟨rfl, by simp, by simp⟩)
  | stopInterface =>
      obtain rfl := Except.ok.inj h
      exact .inr (.inr ⟨rfl, by simp, by simp⟩)
  | setAntenna antenna persist =>
      simp only [start] at h
      split at h
      · contradiction
      · obtain rfl := Except.ok.inj h
        exact .inr (.inr ⟨rfl, by simp, by simp⟩)

/-- A disconnect begins outside `disconnecting`, remembers where, and takes the session there. -/
theorem start_leaving {a : Adapter} {now : Nat} {cancelled : Bool} {request : Request} {started : Started}
    {prior : State} (h : start a now cancelled request = .ok started) (hcall : started.call = .leaving prior) :
    prior = a.session.state ∧ prior ≠ .disconnecting ∧
      started.adapter.session = { a.session with state := .disconnecting } := by
  rcases start_cases h with ⟨ssid, _, timeout, _, -, -, -, hj⟩ | ⟨_, s, -, hs, ha, hl⟩ | ⟨-, -, hnone⟩
  · rw [hj] at hcall
    contradiction
  · rw [hl] at hcall
    obtain rfl := Call.leaving.inj hcall
    obtain ⟨hne, rfl⟩ := Session.beginDisconnect_eq_ok.mp hs
    rw [ha]
    exact ⟨rfl, hne, rfl⟩
  · exact absurd hcall (hnone prior)

/-! ## Turns -/

/-- **Everything that a turn can do to a session.** Only a call that connects or disconnects does anything, and a
disconnect does not end without being completed. -/
inductive Effect (s : Session) : Call → Transition → Prop where
  | none {call : Call} (h : ∀ prior, call ≠ .leaving prior) : Effect s call s.quietly
  | abort {ssid : String} {d : Deadline} : Effect s (.joining ssid d) s.abortConnect.quietly
  | fail {ssid : String} {d : Deadline} {status : Status} (h : status ≠ .completed) :
    Effect s (.joining ssid d) (s.recordFailure status)
  | complete {prior : State} {status : Status} : Effect s (.leaving prior) (s.completeDisconnect prior status)

/-- The antenna that is chosen when a call ends. -/
def agreed? : Call → Except Error Success → Option Antenna
  | .choosing antenna _, .ok _ => some antenna
  | _, _ => none

/-- **Everything that a turn can come to.** A call that goes on watches the session from then on. One that is over has
made its transition, and told its notices, or it has chosen an antenna; nothing else of the adapter changes. -/
inductive Outcome (a : Adapter) (call : Call) : Turn → Prop where
  | wait : Outcome a call .wait
  | goOn {ssid : String} {d : Deadline} {wake : Nat} (h : ∀ prior, call ≠ .leaving prior) :
    Outcome a call (.goOn a (.watching ssid d wake))
  | done (t : Transition) {result : Except Error Success} {lines : List Log.Line} (h : Effect a.session call t)
    (hagreed : call.agreed? result = none) : Outcome a call (.over (a.advance t) result lines)
  | chosen {antenna : Antenna} {success : Success} {lines : List Log.Line}
    (hagreed : call.agreed? (.ok success) = some antenna) :
    Outcome a call (.over { a with antenna } (.ok success) lines)

/-- Only a call that chooses an antenna ends with one. -/
theorem eq_choosing_of_agreed? {call : Call} {result : Except Error Success} {antenna : Antenna}
    (h : call.agreed? result = some antenna) : ∃ persist, call = .choosing antenna persist := by
  unfold agreed? at h
  split at h
  · next antenna' persist _ =>
    obtain rfl := Option.some.inj h
    exact ⟨persist, rfl⟩
  · contradiction

section

variable (a : Adapter) (now : Nat) (cancelled : Bool)

/-- A call other than a disconnect may end without touching the adapter. -/
theorem outcome_over {a : Adapter} {call : Call} {result : Except Error Success} {lines : List Log.Line}
    (h : ∀ prior, call ≠ .leaving prior) (hagreed : call.agreed? result = none) :
    Outcome a call (.over a result lines) :=
  .done a.session.quietly (.none h) hagreed

theorem outcome_observe {call : Call} (ssid : String) (d : Deadline) (h : ∀ prior, call ≠ .leaving prior)
    (hagreed : ∀ result, call.agreed? result = none) : Outcome a call (observe a ssid d now) := by
  unfold observe
  split
  · exact .goOn h
  · exact outcome_over h (hagreed _)
  · exact outcome_over h (hagreed _)
  · exact outcome_over h (hagreed _)

theorem outcome_joined (ssid : String) (d : Deadline) (reply : Except Error Response) :
    Outcome a (.joining ssid d) (joined a ssid d now reply) := by
  cases reply with
  | error e => exact .done a.session.abortConnect.quietly .abort rfl
  | ok response =>
      simp only [joined]
      split
      -- A success is only the promise of an event, and leaves the session as it is.
      · exact outcome_observe a now ssid d nofun fun _ => rfl
      · next hs => exact .done _ (.fail fun hc => hs (Status.isOk_iff.mpr hc)) rfl

theorem outcome_left (prior : State) (reply : Except Error Response) :
    Outcome a (.leaving prior) (left a prior reply) := by
  cases reply with
  | error e => exact .done _ .complete rfl
  | ok response => exact .done _ .complete rfl

theorem outcome_scanned (d : Deadline) (reply : Except Error Response) :
    Outcome a (.scanning d) (scanned a reply) := by
  cases reply with
  | error e => exact outcome_over nofun rfl
  | ok response =>
      simp only [scanned]
      split
      · split
        · exact outcome_over nofun rfl
        · exact outcome_over nofun rfl
      · exact outcome_over nofun rfl

theorem outcome_asked (operation : Operation) (reply : Except Error Response) :
    Outcome a (.asking operation) (asked a operation reply) := by
  cases reply with
  | error e => exact outcome_over nofun rfl
  | ok response =>
      simp only [asked]
      split
      · exact outcome_over nofun rfl
      · exact outcome_over nofun rfl

theorem outcome_chosen (antenna : Antenna) (persist : Bool) (reply : Except Error Response) :
    Outcome a (.choosing antenna persist) (chosen a antenna persist reply) := by
  cases reply with
  | error e => exact outcome_over nofun rfl
  | ok response =>
      simp only [chosen]
      split
      · exact .chosen rfl
      · exact outcome_over nofun rfl

theorem outcome_await {call : Call} {next : Except Error Response → Turn} (reply : Option (Except Error Response))
    (h : ∀ r, Outcome a call (next r)) : Outcome a call (await reply next) := by
  cases reply with
  | none => exact .wait
  | some r => exact h r

/-- A wait on several things at once comes to an end of the call, or to what the news are. -/
theorem outcome_select {call : Call} (d : Deadline) (first : Wait) (ends what : String) {news : Option Turn}
    (h : ∀ prior, call ≠ .leaving prior) (hagreed : ∀ result, call.agreed? result = none)
    (hnews : ∀ turn ∈ news, Outcome a call turn) :
    Outcome a call (select a d now cancelled first ends what news) := by
  have hrest : Outcome a call (news.getD .wait) := by
    cases news with
    | none => exact .wait
    | some turn => exact hnews turn rfl
  unfold select
  split
  · exact outcome_over h (hagreed _)
  · exact outcome_over h (hagreed _)
  · exact hrest
  · exact hrest

theorem outcome_map {call : Call} {next : Except Error Response → Turn} (reply : Option (Except Error Response))
    (h : ∀ r, Outcome a call (next r)) : ∀ turn ∈ reply.map next, Outcome a call turn := by
  intro turn hturn
  obtain ⟨r, -, rfl⟩ := Option.map_eq_some_iff.mp hturn
  exact h r

/-- **What a turn comes to**, whatever the call, the time, the answer, and what it looks at first. -/
theorem outcome_turn (reply : Option (Except Error Response)) (call : Call) (first : Wait) :
    Outcome a call (turn a now cancelled reply call first) := by
  cases call with
  | joining ssid d =>
      exact outcome_select a now cancelled d first _ _ nofun (fun _ => rfl)
        (outcome_map a reply (outcome_joined a now ssid d))
  | watching ssid d wake =>
      refine outcome_select a now cancelled d first _ _ nofun (fun _ => rfl) fun turn hturn => ?_
      split at hturn
      · obtain rfl := Option.some.inj hturn
        exact outcome_observe a now ssid d nofun fun _ => rfl
      · contradiction
  | leaving prior => exact outcome_await a reply (outcome_left a prior)
  | scanning d =>
      exact outcome_select a now cancelled d first _ _ nofun (fun _ => rfl)
        (outcome_map a reply (outcome_scanned a d))
  | asking operation => exact outcome_await a reply (outcome_asked a operation)
  | choosing antenna persist => exact outcome_await a reply (outcome_chosen a antenna persist)

end

/-! ## Endings -/

/-- The status with which a disconnect ends. One whose answer is lost counts as failed. -/
def endStatus : Except Error Response → Status
  | .error _ => .failure
  | .ok response => response.status

/-- The turn in which a disconnect ends. -/
theorem turn_leaving (a : Adapter) (now : Nat) (cancelled : Bool) (reply : Except Error Response) (prior : State)
    (first : Wait) :
    ∃ result, turn a now cancelled (some reply) (.leaving prior) first
      = .over (a.advance (a.session.completeDisconnect prior (endStatus reply))) result [] := by
  cases reply with
  | error e => exact ⟨_, rfl⟩
  | ok response => exact ⟨_, rfl⟩

/-- A wait on several things at once of which only the last has come. -/
theorem select_of_not {a : Adapter} {d : Deadline} {now : Nat} {cancelled : Bool} (first : Wait) (ends what : String)
    (news : Option Turn) (hcancelled : cancelled = false) (hpassed : d.passed now = false) :
    select a d now cancelled first ends what news = news.getD .wait := by
  unfold select
  rw [hcancelled, hpassed]
  split
  · next h => exact absurd (Wait.isOver_of_decides h) Bool.false_ne_true
  · next h => exact absurd (Wait.isOver_of_decides h) Bool.false_ne_true
  · rfl
  · rfl

/-- A wait on several things at once that is decided by the last of them. -/
theorem select_of_news {a : Adapter} {d : Deadline} {now : Nat} {cancelled : Bool} {first : Wait} (ends what : String)
    (turn : Turn) (h : first.decides cancelled (d.passed now) true = some .news) :
    select a d now cancelled first ends what (some turn) = turn := by
  unfold select
  rw [Option.isSome_some, h]
  rfl

/-- The turn in which the request of a connect turns out to be lost. -/
theorem turn_joining_lost (a : Adapter) {now : Nat} {cancelled : Bool} {d : Deadline} (e : Error) (ssid : String)
    {first : Wait} (h : first.decides cancelled (d.passed now) true = some .news) :
    turn a now cancelled (some (.error e)) (.joining ssid d) first
      = .over { a with session := a.session.abortConnect } (.error e) [] :=
  select_of_news _ _ _ h

end Call

end Peripherals.Coprocessor
