import Peripherals.Proofs.Call.Loss

/-!
# `Proofs.Call.Parting` — how a disconnect ends, and how often that is told

A disconnect has two ends that race: the answer to its command, and the event with which the coprocessor says that the
connection is over. Each decides from the state of the session alone whether there is anything to tell. The answer may
even be a refusal that puts `connected` back before the event comes.

Still the end is told exactly once (`Course.disconnect_told_once`). `Parting` lists the three places where such a
disconnect can stand, with what has been told until then: under way and taken back, of which nothing is told, and done,
which is told when it comes about, and by whatever has brought it about.

If no event decides anything before the answer, then the answer alone does (`Course.disconnect_undone_or_done`). A
refused disconnect, or one whose answer is lost, leaves the session exactly as it was found, whatever it was, and nobody
hears of it. One that is carried out ends the connection and tells so if there was one.

* `Event.Idle`, `Event.Parts` — events that decide nothing, and the event that ends a connection;
* `Desk.act_idle`, `Desk.act_apply`, `Desk.act_leave` — what the events and the answer do, and what they tell;
* `Desk.stays_events_iff` — the events under which a session stays in `disconnecting`;
* `Parting`, `parting_act`, `parting_run` — a disconnect while the two ends race.
-/

namespace Peripherals.Coprocessor

/-! ## Notices of changes -/

namespace Notice

/-- **The notices of changes of connectivity**, in order. -/
def changes (ns : List Notice) : List Notice := ns.filter isChange

theorem changes_append (ns ns' : List Notice) : changes (ns ++ ns') = changes ns ++ changes ns' :=
  List.filter_append ns ns'

theorem lastChange_eq_none_iff {ns : List Notice} : lastChange ns = none ↔ changes ns = [] :=
  List.getLast?_eq_none_iff

/-- The channel of connectivity has these and no others. -/
theorem connectivity_changes (ns : List Notice) : (changes ns).filterMap connectivity? = ns.filterMap connectivity? := by
  induction ns with
  | nil => rfl
  | cons n rest ih =>
      unfold changes at ih ⊢
      cases hn : n.connectivity? with
      | none =>
          rw [List.filter_cons_of_neg (by simp [isChange, hn]), List.filterMap_cons_none hn]
          exact ih
      | some event =>
          rw [List.filter_cons_of_pos (by simp [isChange, hn]), List.filterMap_cons_some hn, List.filterMap_cons_some hn,
            ih]

end Notice

/-! ## Events while a disconnect is under way -/

namespace Event

/-- **An event that decides nothing about the connection**: a success that is about the interface or the time, that
names a network that cannot be read, or that is no event at all. An event that reports a failure is none of these; its
payload is not looked at. -/
inductive Idle (e : Event) : Prop where
  | interface (hstatus : e.status = .completed)
    (hfunction : e.function = .interfaceStarted ∨ e.function = .interfaceStopped ∨ e.function = .timeUpdated)
  | unread (hstatus : e.status = .completed) (hfunction : e.function = .connected) {cause : DecodeError}
    (hpayload : Details.decode e.payload = .error cause)
  | foreign (hstatus : e.status = .completed) (hfunction : e.function.isEvent = false)

/-- **The event that ends a connection.** -/
structure Parts (e : Event) : Prop where
  status : e.status = .completed
  function : e.function = .disconnected

variable {e : Event}

theorem Idle.status (h : e.Idle) : e.status = .completed := by
  cases h with
  | interface hstatus _ => exact hstatus
  | unread hstatus _ _ => exact hstatus
  | foreign hstatus _ => exact hstatus

/-- An idle event names no network that can be read. -/
theorem Idle.unreadable (h : e.Idle) (hfunction : e.function = .connected) (network : Details) :
    Details.decode e.payload ≠ .ok network := by
  intro hpayload
  cases h with
  | interface _ hother => simp [hfunction] at hother
  | unread _ _ herror =>
      rw [hpayload] at herror
      contradiction
  | foreign _ hforeign =>
      rw [hfunction] at hforeign
      contradiction

/-- An idle event does not end a connection. -/
theorem Idle.not_parts (h : e.Idle) : ¬ e.Parts := by
  rintro ⟨-, hfunction⟩
  cases h with
  | interface _ hother => simp [hfunction] at hother
  | unread _ hother _ =>
      rw [hfunction] at hother
      contradiction
  | foreign _ hforeign =>
      rw [hfunction] at hforeign
      contradiction

theorem Parts.apply (h : e.Parts) (s : Session) :
    s.apply e = .ok ⟨⟨.disconnected, none, s.lastStatus⟩, if s.state ≠ .disconnected then [.disconnected] else []⟩ := by
  unfold Session.apply
  rw [h.status, h.function]
  rfl

/-- **Every other event** takes the session out of `disconnecting`. -/
theorem idle_or_leaves (e : Event) (s : Session) :
    e.Idle ∨ ∃ t, s.apply e = .ok t ∧ t.session.state ≠ .disconnecting := by
  by_cases hstatus : e.status = .completed
  · have hok := Status.isOk_iff.mpr hstatus
    cases hfunction : e.function with
    | connected =>
        cases hpayload : Details.decode e.payload with
        | error cause => exact .inl (.unread hstatus hfunction hpayload)
        | ok network =>
            have ha : s.apply e = .ok ⟨⟨.connected, some network, s.lastStatus⟩,
                if s.state ≠ .connected then [.connected network] else []⟩ := by
              unfold Session.apply
              rw [hok, hfunction, hpayload]
              rfl
            exact .inr ⟨_, ha, State.noConfusion⟩
    | disconnected => exact .inr ⟨_, Parts.apply ⟨hstatus, hfunction⟩ s, State.noConfusion⟩
    | interfaceStarted => exact .inl (.interface hstatus (.inl hfunction))
    | interfaceStopped => exact .inl (.interface hstatus (.inr (.inl hfunction)))
    | timeUpdated => exact .inl (.interface hstatus (.inr (.inr hfunction)))
    | _ => exact .inl (.foreign hstatus (hfunction ▸ rfl))
  · refine .inr ⟨s.recordFailure e.status, ?_, State.noConfusion⟩
    unfold Session.apply
    rw [Status.not_isOk_iff.mpr hstatus]
    rfl

end Event

namespace Desk

variable {d : Desk} {m : Move} {e : Event} {n now : Nat} {cancelled : Bool} {prior : State}

/-! ## What the two ends do -/

/-- A move that does nothing tells nothing. -/
theorem told_of_same (h : d.act m = d) : d.told m = [] := by
  have hadvanced : d.adapter.Advanced d.adapter.session.quietly (d.act m).adapter := by
    rw [h]
    exact Adapter.advanced_quietly d.adapter _
  exact told_of_advanced hadvanced (Nat.zero_le 1)

/-- An idle event leaves the session as it is, and tells of no change. -/
theorem act_idle (h : e.Idle) (d : Desk) (wall : Nat) :
    (d.act (.event e wall)).adapter.session = d.adapter.session ∧ Notice.changes (d.told (.event e wall)) = [] := by
  obtain ⟨t, hshift, hsession, htold, -⟩ := transition_act d (.event e wall)
  rw [hsession, htold]
  cases hshift with
  | keep => exact ⟨rfl, rfl⟩
  | report hstatus => exact absurd h.status hstatus
  | joined _ hfunction hpayload => exact absurd hpayload (h.unreadable hfunction _)
  | parted hstatus hfunction => exact absurd ⟨hstatus, hfunction⟩ h.not_parts
  | passOn hsame hnotices =>
      exact ⟨hsame, Notice.lastChange_eq_none_iff.mp (Session.lastChange_of_interface hnotices)⟩

/-- An event that can be applied makes its transition. -/
theorem act_apply {t : Transition} (ha : d.adapter.session.apply e = .ok t) (wall : Nat) :
    (d.act (.event e wall)).adapter.session = t.session ∧ d.told (.event e wall) = t.notices := by
  have hadvanced : d.adapter.Advanced t (d.act (.event e wall)).adapter := by
    simp only [act, Adapter.dispatch, ha]
    exact Adapter.advanced_advance d.adapter t
  exact ⟨hadvanced.session, told_of_advanced hadvanced (Session.length_notices_apply_le ha)⟩

/-- A disconnect without an answer waits. -/
theorem act_unanswered (hcall : d.call? n = some (.leaving prior)) (now : Nat) (cancelled : Bool) (first : Wait) :
    d.act (.turn n now cancelled none first) = d := by
  simp only [act, hcall]
  rfl

/-- **The answer to a disconnect** completes it, and is told as far as that is. -/
theorem act_leave (hcall : d.call? n = some (.leaving prior)) (now : Nat) (cancelled : Bool)
    (reply : Except Error Response) (first : Wait) :
    (d.act (.turn n now cancelled (some reply) first)).adapter.session
        = (d.adapter.session.completeDisconnect prior (Call.endStatus reply)).session ∧
      d.told (.turn n now cancelled (some reply) first)
        = (d.adapter.session.completeDisconnect prior (Call.endStatus reply)).notices ∧
      (d.act (.turn n now cancelled (some reply) first)).call? n = none := by
  have hadvanced : d.adapter.Advanced (d.adapter.session.completeDisconnect prior (Call.endStatus reply))
      (d.act (.turn n now cancelled (some reply) first)).adapter := by
    rw [adapter_leave hcall]
    exact Adapter.advanced_advance d.adapter _
  refine ⟨hadvanced.session, ?_, ?_⟩
  · exact told_of_advanced hadvanced (Session.length_notices_completeDisconnect_le prior)
  · obtain ⟨result, hturn⟩ := Call.turn_leaving d.adapter now cancelled reply prior first
    simp only [act, hcall, hturn]
    exact call?_keep_self (lt_of_call? hcall)

/-! ## Staying in `disconnecting` -/

/-- **A session that is disconnecting stays so under idle events, and under no others.** -/
theorem stays_events_iff {events : List (Event × Nat)} :
    Stays .disconnecting d (events.map fun p => .event p.1 p.2) ↔
      d.state = .disconnecting ∧ ∀ p ∈ events, p.1.Idle := by
  induction events generalizing d with
  | nil => exact ⟨fun h => ⟨h, nofun⟩, And.left⟩
  | cons p rest ih =>
      rw [List.map_cons, Stays, ih, List.forall_mem_cons]
      constructor
      · rintro ⟨hin, hstill, hrest⟩
        refine ⟨hin, ?_, hrest⟩
        -- Whatever else an event can be takes the session somewhere else.
        rcases Event.idle_or_leaves p.1 d.adapter.session with hidle | ⟨t, ha, hne⟩
        · exact hidle
        · unfold state at hstill
          rw [(act_apply ha p.2).1] at hstill
          exact absurd hstill hne
      · rintro ⟨hin, hidle, hrest⟩
        have hsame := (act_idle hidle d p.2).1
        exact ⟨hin, (congrArg Session.state hsame).trans hin, hrest⟩

/-- A disconnect goes on as long as the session stays in `disconnecting`. -/
theorem leaving_run_of_stays (hcall : d.call? n = some (.leaving prior)) (hprior : prior ≠ .disconnecting)
    {moves : List Move} (hstays : Stays .disconnecting d moves) : (d.run moves).call? n = some (.leaving prior) := by
  induction moves generalizing d with
  | nil => exact hcall
  | cons m rest ih =>
      obtain ⟨-, hrest⟩ := hstays
      rcases leaving_goes_on hcall m with hstill | ⟨status, hadvanced⟩
      · exact ih hstill hrest
      -- Completed, the disconnect would have taken the session out of `disconnecting`.
      · have hout : (d.act m).state ≠ .disconnecting := by
          unfold state
          rw [hadvanced.session]
          exact Session.completeDisconnect_state_ne hprior
        exact absurd hrest.first hout

/-- Nobody hears of a change as long as the session stays in `disconnecting`. -/
theorem changes_tale_of_stays {moves : List Move} (hstays : Stays .disconnecting d moves) :
    Notice.changes (d.tale moves) = [] := by
  induction moves generalizing d with
  | nil => rfl
  | cons m rest ih =>
      obtain ⟨-, hrest⟩ := hstays
      have htold := Notice.lastChange_eq_none_iff.mp (lastChange_told_of_disconnecting hrest.first)
      rw [tale, Notice.changes_append, htold, List.nil_append]
      exact ih hrest

end Desk

/-! ## The race of the two ends -/

/-- **What can happen while the two ends race**: idle events, the event that ends the connection, and turns of the
disconnect, with an answer or without. -/
inductive Move.Closing (n : Nat) : Move → Prop where
  | idle {e : Event} {wall : Nat} (h : e.Idle) : Closing n (.event e wall)
  | parts {e : Event} {wall : Nat} (h : e.Parts) : Closing n (.event e wall)
  | turn {now : Nat} {cancelled : Bool} {reply : Option (Except Error Response)} {first : Wait} :
    Closing n (.turn n now cancelled reply first)

/-- **All places where a disconnect can stand** that began on a connected session, with what has been told of changes
since then. -/
inductive Parting (s : Session) (n : Nat) (d : Desk) : List Notice → Prop where
  /-- It waits for its answer, and the connection is not over. -/
  | going (hsession : d.adapter.session = { s with state := .disconnecting })
    (hcall : d.call? n = some (.leaving .connected)) : Parting s n d []
  /-- It was refused. -/
  | undone (hsession : d.adapter.session = s) (hcall : d.call? n = none) : Parting s n d []
  /-- The connection is over, whether the disconnect still waits for its answer or not. -/
  | done (hsession : d.adapter.session = ⟨.disconnected, none, s.lastStatus⟩)
    (hcall : d.call? n = some (.leaving .connected) ∨ d.call? n = none) : Parting s n d [.disconnected]

section

variable {s : Session} {n : Nat} {d : Desk} {ns : List Notice} {e : Event}

/-- A connection that is over is told. -/
theorem Parting.done_of_ne_nil (h : Parting s n d ns) (hne : ns ≠ []) :
    d.adapter.session = ⟨.disconnected, none, s.lastStatus⟩ ∧ ns = [.disconnected] := by
  cases h with
  | going _ _ => contradiction
  | undone _ _ => contradiction
  | done hsession _ => exact ⟨hsession, rfl⟩

theorem Parting.call? (h : Parting s n d ns) : d.call? n = some (.leaving .connected) ∨ d.call? n = none := by
  cases h with
  | going _ hcall => exact .inl hcall
  | undone _ hcall => exact .inr hcall
  | done _ hcall => exact hcall

theorem Parting.act_idle (h : Parting s n d ns) (hidle : e.Idle) (wall : Nat) :
    Parting s n (d.act (.event e wall)) (ns ++ Notice.changes (d.told (.event e wall))) := by
  obtain ⟨hsame, hquiet⟩ := Desk.act_idle hidle d wall
  rw [hquiet, List.append_nil]
  cases h with
  | going hsession hcall => exact .going (hsame.trans hsession) hcall
  | undone hsession hcall => exact .undone (hsame.trans hsession) hcall
  | done hsession hcall => exact .done (hsame.trans hsession) hcall

/-- The event that ends the connection is told unless the answer has been. -/
theorem Parting.act_parts (h : Parting s n d ns) (hs : s.state = .connected) (hparts : e.Parts) (wall : Nat) :
    Parting s n (d.act (.event e wall)) (ns ++ Notice.changes (d.told (.event e wall))) ∧
      ns ++ Notice.changes (d.told (.event e wall)) ≠ [] := by
  obtain ⟨hafter, htold⟩ := Desk.act_apply (hparts.apply d.adapter.session) wall
  rw [htold]
  -- Only where the connection is over already is the session disconnected before the event.
  cases h with
  | going hsession hcall =>
      rw [hsession] at hafter ⊢
      exact ⟨.done hafter (.inl hcall), List.cons_ne_nil _ _⟩
  | undone hsession hcall =>
      rw [hsession] at hafter ⊢
      rw [hs]
      exact ⟨.done hafter (.inr hcall), List.cons_ne_nil _ _⟩
  | done hsession hcall =>
      rw [hsession] at hafter ⊢
      exact ⟨.done hafter hcall, List.cons_ne_nil _ _⟩

/-- The answer is told if it is a success, unless the event has been. -/
theorem Parting.act_leave (h : Parting s n d ns) (hs : s.state = .connected)
    (hcall : d.call? n = some (.leaving .connected)) (now : Nat) (cancelled : Bool) (reply : Except Error Response)
    (first : Wait) :
    Parting s n (d.act (.turn n now cancelled (some reply) first))
      (ns ++ Notice.changes (d.told (.turn n now cancelled (some reply) first))) := by
  obtain ⟨hafter, htold, hover⟩ := Desk.act_leave hcall now cancelled reply first
  rw [htold]
  cases h with
  -- Only while the disconnect is under way does its answer decide anything.
  | going hsession _ =>
      have hin : d.adapter.session.state = .disconnecting := congrArg Session.state hsession
      cases hstatus : (Call.endStatus reply).isOk with
      | false =>
          rw [Session.completeDisconnect_refused hin hstatus, hsession] at hafter ⊢
          -- The state that is put back is the one that the session had.
          have hback : { s with state := .connected } = s := by
            rw [← hs]
          exact .undone (hafter.trans hback) hover
      | true =>
          rw [Session.completeDisconnect_done hin hstatus, hsession] at hafter ⊢
          exact .done hafter (.inr hover)
  | undone _ hnone => exact absurd (hcall.symm.trans hnone) nofun
  | done hsession _ =>
      have hout : d.adapter.session.state ≠ .disconnecting := by
        rw [hsession]
        exact State.noConfusion
      rw [Session.completeDisconnect_of_ne hout] at hafter ⊢
      exact .done (hafter.trans hsession) (.inr hover)

/-- Without an answer, or once the disconnect has had one, a turn does nothing. -/
theorem Parting.act_turn (h : Parting s n d ns) (hs : s.state = .connected) (now : Nat) (cancelled : Bool)
    (reply : Option (Except Error Response)) (first : Wait) :
    Parting s n (d.act (.turn n now cancelled reply first))
      (ns ++ Notice.changes (d.told (.turn n now cancelled reply first))) := by
  have hstill : d.act (.turn n now cancelled reply first) = d →
      Parting s n (d.act (.turn n now cancelled reply first))
        (ns ++ Notice.changes (d.told (.turn n now cancelled reply first))) := by
    intro hsame
    have hquiet : Notice.changes ([] : List Notice) = [] := rfl
    rw [Desk.told_of_same hsame, hsame, hquiet, List.append_nil]
    exact h
  rcases h.call? with hcall | hcall
  · cases reply with
    | none => exact hstill (Desk.act_unanswered hcall now cancelled first)
    | some reply => exact h.act_leave hs hcall now cancelled reply first
  · exact hstill (Desk.act_turn_none hcall)

/-- **One move** while the two ends race. -/
theorem parting_act (h : Parting s n d ns) (hs : s.state = .connected) {m : Move} (hm : m.Closing n) :
    Parting s n (d.act m) (ns ++ Notice.changes (d.told m)) := by
  cases hm with
  | idle hidle => exact h.act_idle hidle _
  | parts hparts => exact (h.act_parts hs hparts _).1
  | turn => exact h.act_turn hs _ _ _ _

/-- **The whole race**, in whatever order. -/
theorem parting_run (h : Parting s n d ns) (hs : s.state = .connected) {moves : List Move}
    (hmoves : ∀ m ∈ moves, m.Closing n) : Parting s n (d.run moves) (ns ++ Notice.changes (d.tale moves)) := by
  induction moves generalizing d ns with
  | nil =>
      have hquiet : Notice.changes (d.tale []) = [] := rfl
      rw [hquiet, List.append_nil]
      exact h
  | cons m rest ih =>
      obtain ⟨hm, hrest⟩ := List.forall_mem_cons.mp hmoves
      rw [Desk.tale, Notice.changes_append, ← List.append_assoc]
      exact ih (parting_act h hs hm) hrest

end

/-! ## A disconnect in a history -/

namespace Course

variable {c : Course} {turnOff : Bool}

/-- **What subscribers are told of changes of connectivity** from the moment that the call is asked for. -/
def news (c : Course) : List Notice := Notice.changes (c.origin.tale (.ask c.request c.now c.cancelled :: c.since))

/-- The same on the channel of connectivity. -/
def networkNews (c : Course) : List Network.Event :=
  c.origin.networkTale (.ask c.request c.now c.cancelled :: c.since)

theorem networkNews_eq (c : Course) : c.networkNews = c.news.filterMap Notice.connectivity? := by
  rw [networkNews, Desk.networkTale_eq, news, Notice.connectivity_changes]

/-- A disconnect begins by taking the session to `disconnecting`, remembers where it was, and tells nothing. -/
theorem begun_of_disconnect (hrequest : c.request = .disconnect turnOff) (hout : c.origin.state ≠ .disconnecting) :
    c.begun.adapter.session = { c.origin.adapter.session with state := .disconnecting } ∧
      c.begun.call? c.number = some (.leaving c.origin.state) ∧
      c.news = Notice.changes (c.begun.tale c.since) := by
  have hcall := Desk.call?_of_disconnect turnOff c.now c.cancelled hout
  rw [← hrequest] at hcall
  have hsession : c.begun.adapter.session = { c.origin.adapter.session with state := .disconnecting } := by
    rcases Desk.leaving_act hcall with hold | ⟨-, -, -, hsession⟩
    · exact absurd (Desk.lt_of_call? hold) (Nat.lt_irrefl _)
    · exact hsession
  refine ⟨hsession, hcall, ?_⟩
  have hin : c.begun.state = .disconnecting := congrArg Session.state hsession
  have hquiet := Notice.lastChange_eq_none_iff.mp (Desk.lastChange_told_of_disconnecting hin)
  rw [news, Desk.tale, Notice.changes_append, hquiet, List.nil_append]
  rfl

/-- **The end of a connection is told exactly once.** A disconnect begins on a connected session. Until the end of the
history there is, in any order and any number, nothing but idle events, events that end the connection, at least one,
and turns of the disconnect, whatever its answer. Then the session is disconnected, knows no network and remembers the
failure that it remembered before, and of all that is told of connectivity since the beginning there is one notice: that
the connection is over. -/
theorem disconnect_told_once (hrequest : c.request = .disconnect turnOff) (hconnected : c.origin.state = .connected)
    (hclosing : ∀ m ∈ c.since, m.Closing c.number) {e : Event} {wall : Nat} (hparts : e.Parts)
    (hmem : .event e wall ∈ c.since) :
    c.desk.adapter.session = ⟨.disconnected, none, c.origin.adapter.session.lastStatus⟩ ∧
      c.news = [.disconnected] ∧ c.networkNews = [.disconnected] := by
  have hout : c.origin.state ≠ .disconnecting := by
    rw [hconnected]
    exact State.noConfusion
  obtain ⟨hsession, hcall, hnews⟩ := begun_of_disconnect hrequest hout
  rw [hconnected] at hcall
  obtain ⟨first, last, hsince⟩ := List.append_of_mem hmem
  rw [hsince, List.forall_mem_append, List.forall_mem_cons] at hclosing
  obtain ⟨hfirst, -, hlast⟩ := hclosing
  -- From the event on something has been told, so that the connection is over whatever follows.
  have hbefore := parting_run (.going hsession hcall) hconnected hfirst
  obtain ⟨hevent, hne⟩ := hbefore.act_parts hconnected hparts wall
  have hafter := parting_run hevent hconnected hlast
  obtain ⟨hdone, htold⟩ := hafter.done_of_ne_nil (List.append_ne_nil_of_left_ne_nil hne _)
  have hdesk : c.desk = (((c.begun.run first).act (.event e wall)).run last) := by
    rw [desk, hsince, Desk.run_append]
    rfl
  have honce : c.news = [.disconnected] := by
    rw [hnews, hsince, Desk.tale_append, Notice.changes_append, Desk.tale, Notice.changes_append, ← List.append_assoc]
    exact htold
  refine ⟨hdesk ▸ hdone, honce, ?_⟩
  rw [networkNews_eq, honce]
  rfl

/-- **A refusal that comes first.** While the disconnect waits, the time changes and a network is named that cannot be
read. Then the disconnect is refused, and after that the coprocessor tells of the end of the connection, twice. -/
def refusedFirst : Course where
  adapter := radio
  before := [.event ⟨.connected, .completed, network.encode⟩ 0]
  request := .disconnect false
  now := 0
  cancelled := false
  since := [.event ⟨.timeUpdated, .completed, []⟩ 5, .event ⟨.connected, .completed, [9, 0]⟩ 6,
    .turn 0 10 false (some (.ok ⟨.failure, []⟩)), .event ⟨.disconnected, .completed, []⟩ 20,
    .event ⟨.disconnected, .completed, []⟩ 30]

/-- Although it is refused and the event comes twice, the end of the connection is told once. -/
theorem disconnect_told_once_refusedFirst :
    refusedFirst.desk.adapter.session = ⟨.disconnected, none, none⟩ ∧ refusedFirst.news = [.disconnected] := by
  have hnumber : refusedFirst.number = 0 := by decide
  have hparts : Event.Parts ⟨.disconnected, .completed, []⟩ := ⟨rfl, rfl⟩
  have hclosing : ∀ m ∈ refusedFirst.since, m.Closing refusedFirst.number := by
    rw [hnumber]
    simp only [refusedFirst, List.forall_mem_cons]
    exact ⟨.idle (.interface rfl (.inr (.inr rfl))), .idle (.unread rfl rfl rfl), .turn, .parts hparts, .parts hparts,
      nofun⟩
  have hmem : Move.event ⟨.disconnected, .completed, []⟩ 20 ∈ refusedFirst.since := by simp [refusedFirst]
  have hend := @disconnect_told_once refusedFirst false rfl (by decide) hclosing _ _ hparts hmem
  exact ⟨hend.1, hend.2.1⟩

/-- **A disconnect is undone exactly, or done.** While it waits for its answer the session stays in `disconnecting`.
If the answer is a refusal or is lost, then the session is the one that the disconnect has found, in all its parts, and
nothing is told of connectivity. If the answer is a success, the session is disconnected, knows no network and remembers
the failure that it remembered before, and the end of the connection is told if there was one. -/
theorem disconnect_undone_or_done (hrequest : c.request = .disconnect turnOff) (hout : c.origin.state ≠ .disconnecting)
    {meanwhile : List Move} {now : Nat} {cancelled : Bool} {reply : Except Error Response} {first : Wait}
    (hsince : c.since = meanwhile ++ [.turn c.number now cancelled (some reply) first])
    (hstays : Desk.Stays .disconnecting c.begun meanwhile) :
    (Call.endStatus reply ≠ .completed →
      c.desk.adapter.session = c.origin.adapter.session ∧ c.news = [] ∧ c.networkNews = []) ∧
    (Call.endStatus reply = .completed →
      c.desk.adapter.session = ⟨.disconnected, none, c.origin.adapter.session.lastStatus⟩ ∧
        c.news = (if c.origin.state = .connected then [.disconnected] else []) ∧
          c.networkNews = if c.origin.state = .connected then [.disconnected] else []) := by
  obtain ⟨hsession, hcall, hnews⟩ := begun_of_disconnect hrequest hout
  -- The answer finds the session as the beginning of the disconnect has left it.
  have hwaiting : (c.begun.run meanwhile).adapter.session = { c.origin.adapter.session with state := .disconnecting } :=
    (Desk.session_run_of_disconnecting c.begunApart_begun hstays).trans hsession
  have hin : (c.begun.run meanwhile).adapter.session.state = .disconnecting := congrArg Session.state hwaiting
  have hleaving := Desk.leaving_run_of_stays hcall hout hstays
  obtain ⟨hend, htold, -⟩ := Desk.act_leave hleaving now cancelled reply first
  have hdesk : c.desk = (c.begun.run meanwhile).act (.turn c.number now cancelled (some reply) first) := by
    rw [desk, hsince, Desk.run_append]
    rfl
  have hquiet := Desk.changes_tale_of_stays hstays
  rw [hsince, Desk.tale_append, Notice.changes_append, hquiet, List.nil_append, Desk.tale_singleton, htold] at hnews
  rw [networkNews_eq, hnews, hdesk, hend]
  constructor
  · intro hrefused
    rw [Session.completeDisconnect_refused hin (Status.not_isOk_iff.mpr hrefused), hwaiting]
    exact ⟨rfl, rfl, rfl⟩
  · intro hdone
    rw [Session.completeDisconnect_done hin (Status.isOk_iff.mpr hdone), hwaiting]
    by_cases hconnected : c.origin.state = .connected
    · rw [if_pos hconnected, if_pos hconnected]
      exact ⟨rfl, rfl, rfl⟩
    · rw [if_neg hconnected, if_neg hconnected]
      exact ⟨rfl, rfl, rfl⟩

/-- A disconnect that is answered after the time has changed. -/
def answered (reply : Except Error Response) : Course where
  adapter := radio
  before := [.event ⟨.connected, .completed, network.encode⟩ 0]
  request := .disconnect false
  now := 0
  cancelled := false
  since := [.event ⟨.timeUpdated, .completed, []⟩ 5, .turn 0 10 false (some reply)]

/-- If the answer is lost the session knows its network again; if it is a success the end of the connection is told. -/
theorem disconnect_undone_or_done_answered :
    (answered (.error (.transport .retry))).desk.adapter.session = ⟨.connected, some network, none⟩ ∧
      (answered (.error (.transport .retry))).news = [] ∧
      (answered (.ok ⟨.completed, []⟩)).news = [.disconnected] := by
  have hlost := @disconnect_undone_or_done (answered (.error (.transport .retry))) false rfl (by decide)
    [.event ⟨.timeUpdated, .completed, []⟩ 5] 10 false _ .token rfl (by decide)
  have hdone := @disconnect_undone_or_done (answered (.ok ⟨.completed, []⟩)) false rfl (by decide)
    [.event ⟨.timeUpdated, .completed, []⟩ 5] 10 false _ .token rfl (by decide)
  obtain ⟨hsession, hquiet, -⟩ := hlost.1 (by decide)
  obtain ⟨-, htold, -⟩ := hdone.2 rfl
  rw [if_pos (by decide)] at htold
  refine ⟨hsession.trans ?_, hquiet, htold⟩
  decide

end Course

end Peripherals.Coprocessor
