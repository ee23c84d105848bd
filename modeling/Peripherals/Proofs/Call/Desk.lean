import Peripherals.Proofs.Call.Effect

/-!
# `Proofs.Call.Desk` — many calls on one adapter

Any number of calls may be in progress on an adapter at a time. A `Desk` is an adapter with its calls, each under
the number that it got when it started; numbers are never given again. What happens at a desk is a list of moves in
any order: a request, a turn of a call, an event. No clock ties them together, and a turn may look at any of its waits
first, so that whatever order the tasks of a host take between two waits is one of them.

A move is all that a task does between two waits. A task that changes the session tells of it in the same move, which
is what happens where one thread runs all tasks. Where several threads do, others may come between the change and the
notices: `Proofs.Call.Office` takes such a move apart.

* `Desk.act`, `Desk.run` — what moves do;
* `Desk.act_turn` — what a turn can come to at a desk;
* `Desk.Change`, `Desk.change_act` — the transitions that a move can make; `Desk.Shift`, `Desk.shift_act` — the same by
  what they come to;
* `Desk.origin_act`, `Desk.leaving_act` — where the call under a number comes from.
-/

namespace Peripherals.Coprocessor

/-- What can happen at a desk. -/
inductive Move where
  | ask (request : Request) (now : Nat) (cancelled : Bool)
  /-- A call takes a turn, and looks at the wait `first` before the others. -/
  | turn (number : Nat) (now : Nat) (cancelled : Bool) (reply : Option (Except Error Response))
    (first : Wait := .token)
  | event (e : Event) (wall : Nat)

/-- **An adapter and the calls on it.** A call that is over leaves a gap. -/
structure Desk where
  adapter : Adapter
  calls : List (Option Call)

namespace Desk

/-- An adapter on which nothing has been asked. -/
def idle (a : Adapter) : Desk := ⟨a, []⟩

/-- The state of the session. -/
def state (d : Desk) : State := d.adapter.session.state

/-- The call in progress under a number. -/
def call? (d : Desk) (n : Nat) : Option Call := d.calls[n]?.join

/-- Keeps a call under a number, or the gap that it leaves. -/
def keep (d : Desk) (n : Nat) (call : Option Call) : List (Option Call) := d.calls.set n call

/-- **What a move does.** A request that is refused does nothing, and so does a turn of a call that is over. -/
def act (d : Desk) : Move → Desk
  | .ask request now cancelled =>
    match Call.start d.adapter now cancelled request with
    | .error _ => d
    | .ok started => ⟨started.adapter, d.calls ++ [some started.call]⟩
  | .turn n now cancelled reply first =>
    match d.call? n with
    | none => d
    | some call =>
      match call.turn d.adapter now cancelled reply first with
      | .wait => d
      | .goOn adapter call => ⟨adapter, d.keep n (some call)⟩
      | .over adapter _ _ => ⟨adapter, d.keep n none⟩
  | .event e wall => { d with adapter := (d.adapter.dispatch e wall).1 }

/-- A desk after moves. -/
def run (d : Desk) (moves : List Move) : Desk := moves.foldl act d

/-- The call that makes a move, if one does. -/
def caller? (d : Desk) : Move → Option Nat
  | .ask .. => some d.calls.length
  | .turn n .. => some n
  | .event .. => none

theorem run_append (d : Desk) (ms ms' : List Move) : d.run (ms ++ ms') = (d.run ms).run ms' :=
  List.foldl_append

/-! ## Turns -/

/-- A call that is over takes no turn. -/
theorem act_turn_none {d : Desk} {n now : Nat} {cancelled : Bool} {reply : Option (Except Error Response)}
    {first : Wait} (h : d.call? n = none) : d.act (.turn n now cancelled reply first) = d := by
  simp only [act, h]

/-- **Everything that a turn can come to at a desk**: nothing; a call that watches from then on; or the end of the
call, with the transition that it makes. -/
theorem act_turn {d : Desk} {n : Nat} {call : Call} (h : d.call? n = some call) (now : Nat) (cancelled : Bool)
    (reply : Option (Except Error Response)) (first : Wait) :
    d.act (.turn n now cancelled reply first) = d ∨
    (∃ ssid deadline wake, (∀ prior, call ≠ .leaving prior) ∧
      d.act (.turn n now cancelled reply first) = ⟨d.adapter, d.keep n (some (.watching ssid deadline wake))⟩) ∨
    (∃ t a', Call.Effect d.adapter.session call t ∧ d.adapter.Advanced t a' ∧
      d.act (.turn n now cancelled reply first) = ⟨a', d.keep n none⟩) := by
  -- The turn is a variable from here on, so that only what it comes to is split.
  have houtcome := Call.outcome_turn d.adapter now cancelled reply call first
  simp only [act, h]
  generalize Call.turn d.adapter now cancelled reply call first = turn at houtcome
  cases houtcome with
  | wait => exact .inl rfl
  | goOn hnot => exact .inr (.inl ⟨_, _, _, hnot, rfl⟩)
  | done t heffect _ => exact .inr (.inr ⟨t, _, heffect, Adapter.advanced_advance d.adapter t, rfl⟩)
  | @chosen antenna _ _ hagreed =>
      obtain ⟨persist, rfl⟩ := Call.eq_choosing_of_agreed? hagreed
      refine .inr (.inr ⟨d.adapter.session.quietly, { d.adapter with antenna }, .none nofun, ?_, rfl⟩)
      exact ⟨rfl, rfl, rfl, rfl⟩

/-! ## The session -/

/-- **Every transition that a move can make.** -/
inductive Change (d : Desk) : Move → Transition → Prop where
  | keep {m : Move} : Change d m d.adapter.session.quietly
  | beginConnect {ssid password : String} {timeout : Duration} {now : Nat} {cancelled : Bool} {s : Session}
    (h : d.adapter.session.beginConnect = .ok s) :
    Change d (.ask (.connect ssid password timeout) now cancelled) s.quietly
  | beginDisconnect {turnOff : Bool} {now : Nat} {cancelled : Bool} {s : Session}
    (h : d.adapter.session.beginDisconnect = .ok s) : Change d (.ask (.disconnect turnOff) now cancelled) s.quietly
  | turn {n now : Nat} {cancelled : Bool} {reply : Option (Except Error Response)} {first : Wait} {call : Call}
    {t : Transition} (hcall : d.call? n = some call) (h : Call.Effect d.adapter.session call t) :
    Change d (.turn n now cancelled reply first) t
  | apply {e : Event} {wall : Nat} {t : Transition} (h : d.adapter.session.apply e = .ok t) :
    Change d (.event e wall) t

/-- **What a move does to the adapter** is one of these transitions. -/
theorem change_act (d : Desk) (m : Move) : ∃ t, Change d m t ∧ d.adapter.Advanced t (d.act m).adapter := by
  cases m with
  | ask request now cancelled =>
      simp only [act]
      split
      · exact ⟨_, .keep, Adapter.advanced_quietly d.adapter _⟩
      · next started h =>
          rcases Call.start_cases h with
            ⟨ssid, password, timeout, s, rfl, hs, ha, -⟩ | ⟨turnOff, s, rfl, hs, ha, -⟩ | ⟨ha, -, -⟩
          · rw [ha]
            exact ⟨_, .beginConnect hs, Adapter.advanced_quietly d.adapter s⟩
          · rw [ha]
            exact ⟨_, .beginDisconnect hs, Adapter.advanced_quietly d.adapter s⟩
          · rw [ha]
            exact ⟨_, .keep, Adapter.advanced_quietly d.adapter _⟩
  | turn n now cancelled reply first =>
      cases hcall : d.call? n with
      | none =>
          rw [act_turn_none hcall]
          exact ⟨_, .keep, Adapter.advanced_quietly d.adapter _⟩
      | some call =>
          rcases act_turn hcall now cancelled reply first with
            hact | ⟨_, _, _, -, hact⟩ | ⟨t, a', heffect, hadvanced, hact⟩
          · rw [hact]
            exact ⟨_, .keep, Adapter.advanced_quietly d.adapter _⟩
          · rw [hact]
            exact ⟨_, .keep, Adapter.advanced_quietly d.adapter _⟩
          · rw [hact]
            exact ⟨t, .turn hcall heffect, hadvanced⟩
  | event e wall =>
      rcases Adapter.advanced_dispatch d.adapter e wall with ⟨t, ht, hadvanced⟩ | hadvanced
      · exact ⟨t, .apply ht, hadvanced⟩
      · exact ⟨_, .keep, hadvanced⟩

/-- **Every transition that a move can make**, once more: by the state from which it goes and what it comes to. An end
of a call that finds another state than that of its attempt keeps the session, and so does an event that cannot be
applied. -/
inductive Shift (d : Desk) : Move → Transition → Prop where
  | keep {m : Move} : Shift d m d.adapter.session.quietly
  | connect {ssid password : String} {timeout : Duration} {now : Nat} {cancelled : Bool} (hjoins : d.state ≠ .connecting)
    (hleaves : d.state ≠ .disconnecting) :
    Shift d (.ask (.connect ssid password timeout) now cancelled) (Session.quietly ⟨.connecting, none, none⟩)
  | disconnect {turnOff : Bool} {now : Nat} {cancelled : Bool} (hleaves : d.state ≠ .disconnecting) :
    Shift d (.ask (.disconnect turnOff) now cancelled)
      (Session.quietly { d.adapter.session with state := .disconnecting })
  /-- The request of a connect is lost. -/
  | lose {n now : Nat} {cancelled : Bool} {reply : Option (Except Error Response)} {first : Wait} {ssid : String}
    {deadline : Deadline} (hcall : d.call? n = some (.joining ssid deadline)) (hstate : d.state = .connecting) :
    Shift d (.turn n now cancelled reply first) (Session.quietly { d.adapter.session with state := .disconnected })
  /-- A connect is refused. -/
  | fail {n now : Nat} {cancelled : Bool} {reply : Option (Except Error Response)} {first : Wait} {ssid : String}
    {deadline : Deadline} {status : Status} (hcall : d.call? n = some (.joining ssid deadline))
    (hstatus : status ≠ .completed) :
    Shift d (.turn n now cancelled reply first) (d.adapter.session.recordFailure status)
  /-- A disconnect is refused. -/
  | restore {n now : Nat} {cancelled : Bool} {reply : Option (Except Error Response)} {first : Wait} {prior : State}
    (hcall : d.call? n = some (.leaving prior)) (hstate : d.state = .disconnecting) :
    Shift d (.turn n now cancelled reply first) (Session.quietly { d.adapter.session with state := prior })
  /-- A disconnect is carried out. -/
  | leave {n now : Nat} {cancelled : Bool} {reply : Option (Except Error Response)} {first : Wait} {prior : State}
    (hcall : d.call? n = some (.leaving prior)) (hstate : d.state = .disconnecting) :
    Shift d (.turn n now cancelled reply first)
      ⟨⟨.disconnected, none, d.adapter.session.lastStatus⟩, if prior = .connected then [.disconnected] else []⟩
  /-- The coprocessor reports a failure. -/
  | report {e : Event} {wall : Nat} (hstatus : e.status ≠ .completed) :
    Shift d (.event e wall) (d.adapter.session.recordFailure e.status)
  | joined {e : Event} {wall : Nat} {network : Details} (hstatus : e.status = .completed)
    (hfunction : e.function = .connected) (hpayload : Details.decode e.payload = .ok network) :
    Shift d (.event e wall) ⟨⟨.connected, some network, d.adapter.session.lastStatus⟩,
      if d.state ≠ .connected then [.connected network] else []⟩
  | parted {e : Event} {wall : Nat} (hstatus : e.status = .completed) (hfunction : e.function = .disconnected) :
    Shift d (.event e wall) ⟨⟨.disconnected, none, d.adapter.session.lastStatus⟩,
      if d.state ≠ .disconnected then [.disconnected] else []⟩
  /-- An event is passed on, and nothing else. -/
  | passOn {e : Event} {wall : Nat} {t : Transition} (hsame : t.session = d.adapter.session)
    (hnotices : t.notices = [.interfaceStarted e.status] ∨ t.notices = [.interfaceStopped e.status] ∨
      t.notices = [.timeChanged]) : Shift d (.event e wall) t

theorem Change.shift {d : Desk} {m : Move} {t : Transition} (h : Change d m t) : Shift d m t := by
  cases h with
  | keep => exact .keep
  | beginConnect hs =>
      obtain ⟨hjoins, hleaves, rfl⟩ := Session.beginConnect_eq_ok.mp hs
      exact .connect hjoins hleaves
  | beginDisconnect hs =>
      obtain ⟨hleaves, rfl⟩ := Session.beginDisconnect_eq_ok.mp hs
      exact .disconnect hleaves
  | turn hcall heffect =>
      cases heffect with
      | none _ => exact .keep
      | abort =>
          by_cases hstate : d.adapter.session.state = .connecting
          · rw [Session.abortConnect_of_connecting hstate]
            exact .lose hcall hstate
          · rw [Session.abortConnect_of_ne hstate]
            exact .keep
      | fail hstatus => exact .fail hcall hstatus
      | @complete prior status =>
          by_cases hstate : d.adapter.session.state = .disconnecting
          · cases hstatus : status.isOk with
            | false =>
                rw [Session.completeDisconnect_refused hstate hstatus]
                exact .restore hcall hstate
            | true =>
                rw [Session.completeDisconnect_done hstate hstatus]
                exact .leave hcall hstate
          · rw [Session.completeDisconnect_of_ne hstate]
            exact .keep
  | apply ha =>
      rcases Session.apply_cases ha with
        ⟨hstatus, rfl⟩ | ⟨hstatus, hfunction, network, hpayload, rfl⟩ | ⟨hstatus, hfunction, rfl⟩ | ⟨-, hsame, hnotices⟩
      · exact .report hstatus
      · exact .joined hstatus hfunction hpayload
      · exact .parted hstatus hfunction
      · exact .passOn hsame hnotices

theorem shift_act (d : Desk) (m : Move) : ∃ t, Shift d m t ∧ d.adapter.Advanced t (d.act m).adapter := by
  obtain ⟨t, hchange, hadvanced⟩ := change_act d m
  exact ⟨t, hchange.shift, hadvanced⟩

/-! ## The calls -/

theorem call?_append_of_lt {d : Desk} {a : Adapter} {call : Option Call} {n : Nat} (h : n < d.calls.length) :
    call? ⟨a, d.calls ++ [call]⟩ n = d.call? n := by
  unfold call?
  rw [List.getElem?_append_left h]

theorem call?_append_self (d : Desk) (a : Adapter) (call : Option Call) :
    call? ⟨a, d.calls ++ [call]⟩ d.calls.length = call := by
  unfold call?
  rw [List.getElem?_concat_length]
  rfl

theorem call?_keep_of_ne {d : Desk} {a : Adapter} {call : Option Call} {n m : Nat} (h : n ≠ m) :
    call? ⟨a, d.keep n call⟩ m = d.call? m := by
  unfold call? keep
  rw [List.getElem?_set_ne h]

/-- A number under which a call is in progress has been given. -/
theorem lt_of_call? {d : Desk} {n : Nat} {call : Call} (h : d.call? n = some call) : n < d.calls.length := by
  unfold call? at h
  by_cases hn : n < d.calls.length
  · exact hn
  · rw [List.getElem?_eq_none (Nat.le_of_not_lt hn)] at h
    contradiction

theorem call?_keep_self {d : Desk} {a : Adapter} {call : Option Call} {n : Nat} (h : n < d.calls.length) :
    call? ⟨a, d.keep n call⟩ n = call := by
  unfold call? keep
  rw [List.getElem?_set_self h]
  rfl

/-- Numbers are never given again. -/
theorem length_le_act (d : Desk) (m : Move) : d.calls.length ≤ (d.act m).calls.length := by
  cases m with
  | ask request now cancelled =>
      simp only [act]
      split
      · exact Nat.le_refl _
      · rw [List.length_append]
        exact Nat.le_add_right _ _
  | turn n now cancelled reply first =>
      simp only [act]
      split
      · exact Nat.le_refl _
      · split
        · exact Nat.le_refl _
        · exact Nat.le_of_eq (List.length_set).symm
        · exact Nat.le_of_eq (List.length_set).symm
  | event e wall => exact Nat.le_refl _

theorem length_le_run (d : Desk) (moves : List Move) : d.calls.length ≤ (d.run moves).calls.length := by
  induction moves generalizing d with
  | nil => exact Nat.le_refl _
  | cons m rest ih => exact Nat.le_trans (length_le_act d m) (ih (d.act m))

/-- **Where a call comes from**: it was there before the move, it has gone over to watching, or it has just
started. -/
theorem origin_act {d : Desk} {m : Move} {n : Nat} {call : Call} (h : (d.act m).call? n = some call) :
    d.call? n = some call ∨ (∃ ssid deadline wake, call = .watching ssid deadline wake) ∨
      (n = d.calls.length ∧ ∃ request now cancelled started, m = .ask request now cancelled ∧
        Call.start d.adapter now cancelled request = .ok started ∧ call = started.call) := by
  cases m with
  | ask request now cancelled =>
      simp only [act] at h
      split at h
      · exact .inl h
      · next started hstart =>
          have hlt := lt_of_call? h
          rw [List.length_append, List.length_singleton] at hlt
          rcases Nat.lt_succ_iff_lt_or_eq.mp hlt with hn | rfl
          · rw [call?_append_of_lt hn] at h
            exact .inl h
          · rw [call?_append_self] at h
            exact .inr (.inr ⟨rfl, request, now, cancelled, started, rfl, hstart, (Option.some.inj h).symm⟩)
  | turn k now cancelled reply first =>
      cases hcall : d.call? k with
      | none =>
          rw [act_turn_none hcall] at h
          exact .inl h
      | some ongoing =>
          -- Under every other number the turn leaves the calls as they were.
          rcases act_turn hcall now cancelled reply first with hact | ⟨_, _, _, -, hact⟩ | ⟨_, _, -, -, hact⟩
          · rw [hact] at h
            exact .inl h
          · rw [hact] at h
            by_cases hk : k = n
            · subst hk
              rw [call?_keep_self (lt_of_call? hcall)] at h
              exact .inr (.inl ⟨_, _, _, (Option.some.inj h).symm⟩)
            · rw [call?_keep_of_ne hk] at h
              exact .inl h
          · rw [hact] at h
            by_cases hk : k = n
            · subst hk
              rw [call?_keep_self (lt_of_call? hcall)] at h
              contradiction
            · rw [call?_keep_of_ne hk] at h
              exact .inl h
  | event e wall => exact .inl h

/-- **Where a disconnect comes from**: it was there before the move, or the move has begun it. -/
theorem leaving_act {d : Desk} {m : Move} {n : Nat} {prior : State} (h : (d.act m).call? n = some (.leaving prior)) :
    d.call? n = some (.leaving prior) ∨
      (n = d.calls.length ∧ prior = d.state ∧ prior ≠ .disconnecting ∧
        (d.act m).adapter.session = { d.adapter.session with state := .disconnecting }) := by
  rcases origin_act h with hold | ⟨ssid, deadline, wake, hw⟩ | ⟨hn, request, now, cancelled, started, rfl, hstart, hc⟩
  · exact .inl hold
  · contradiction
  · obtain ⟨hprior, hne, hsession⟩ := Call.start_leaving hstart hc.symm
    refine .inr ⟨hn, hprior, hne, ?_⟩
    simp only [act, hstart]
    exact hsession

/-- A call that is not watching has stood unchanged since it got its number. -/
theorem call?_of_run {d : Desk} {moves : List Move} {n : Nat} {call : Call} (hn : n < d.calls.length)
    (hcall : ∀ ssid deadline wake, call ≠ .watching ssid deadline wake) (h : (d.run moves).call? n = some call) :
    d.call? n = some call := by
  induction moves generalizing d with
  | nil => exact h
  | cons m rest ih =>
      have hnext := ih (Nat.lt_of_lt_of_le hn (length_le_act d m)) h
      rcases origin_act hnext with hsame | ⟨ssid, deadline, wake, hw⟩ | ⟨hnew, -⟩
      · exact hsame
      · exact absurd hw (hcall ssid deadline wake)
      · exact absurd hnew (Nat.ne_of_lt hn)

end Desk

end Peripherals.Coprocessor
