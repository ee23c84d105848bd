import Mathlib.Data.List.Induction
import Peripherals.Proofs.Call.Keeping
import Peripherals.Proofs.Call.Vigil

/-!
# `Proofs.Call.Namesake` — which network a connect has joined when it says so

A connect that finds the session connected answers that it is done. It does not compare the network that the session
knows with the one that it was asked for, and an event does not say which request it answers. So a connect can be told
of success by an event that another request has brought about: one that has timed out or was cancelled, and whose
attempt the coprocessor has gone on with.

`Course.landed` says all that such an answer is worth. The session is connected, and the network that it knows, if it
knows one, is the one that the last event since the beginning of the call has named; nothing else can put a network
there, because the call has begun by forgetting the one before. So the answer is right exactly if that event has named
the network asked for and no overlapping disconnect has wiped it out. If the coprocessor never names a network that
nobody has asked for, then a wrong name is always that of another request; `Course.stray` is a history in which it is.

* `Move.joined?`, `joinedLast` — the network that an event names, and the last one that was named;
* `Desk.requested`, `Desk.Candid` — the networks asked for, and a coprocessor that names no other;
* `Course.answer` — what a call comes to in a turn;
* `Course.Landed` — what a connect that has succeeded has found.
-/

namespace Peripherals.Coprocessor

/-! ## Networks that are named -/

/-- The network that an event says was joined. -/
def Event.joined? (e : Event) : Option Details :=
  if e.status = .completed ∧ e.function = .connected then (Details.decode e.payload).toOption else none

/-- The network that a move says was joined. -/
def Move.joined? : Move → Option Details
  | .event e _ => e.joined?
  | _ => none

/-- **The network that was named last.** -/
def joinedLast (moves : List Move) : Option Details := (moves.filterMap Move.joined?).getLast?

theorem joinedLast_concat (moves : List Move) (m : Move) :
    joinedLast (moves ++ [m]) = m.joined?.or (joinedLast moves) := by
  unfold joinedLast
  rw [List.filterMap_append, List.getLast?_append]
  cases h : m.joined? with
  | none => rw [List.filterMap_cons_none h]; rfl
  | some network => rw [List.filterMap_cons_some h]; rfl

namespace Session

variable {s : Session} {e : Event} {network : Details}

/-- **An event that names a network** is always applied, and the session knows the network from then on. -/
theorem apply_of_joined (h : e.joined? = some network) (s : Session) :
    ∃ t, s.apply e = .ok t ∧ t.session = ⟨.connected, some network, s.lastStatus⟩ := by
  unfold Event.joined? at h
  split at h
  · next hnames =>
      obtain ⟨hstatus, hfunction⟩ := hnames
      cases hdecode : Details.decode e.payload with
      | error cause => simp [hdecode, Except.toOption] at h
      | ok d =>
          obtain rfl : d = network := by simpa [hdecode, Except.toOption] using h
          unfold apply
          rw [Status.isOk_iff.mpr hstatus, hfunction, hdecode]
          exact ⟨_, rfl, rfl⟩
  · contradiction

end Session

/-! ## What a connect answers -/

namespace Call

variable {a a' : Adapter} {now : Nat} {cancelled : Bool} {reply : Option (Except Error Response)} {first : Wait}
  {ssid : String} {call call' : Call} {lines : List Log.Line}

/-- The network that a call connects to. -/
def ssid? : Call → Option String
  | .joining ssid _ => some ssid
  | .watching ssid _ _ => some ssid
  | _ => none

/-- **A turn of a connect** waits, fails, or looks at the session. -/
theorem turn_of_ssid? (a : Adapter) (now : Nat) (cancelled : Bool) (reply : Option (Except Error Response))
    (first : Wait) (h : call.ssid? = some ssid) :
    turn a now cancelled reply call first = .wait ∨
    (∃ a' e lines, turn a now cancelled reply call first = .over a' (.error e) lines) ∨
    ∃ d, turn a now cancelled reply call first = observe a ssid d now := by
  cases call with
  | joining name d =>
      obtain rfl := Option.some.inj h
      rcases select_cases a d now cancelled first s!"Connection to {name} cancelled while sending"
          s!"Connection to {name}" (reply.map (joined a name d now)) with
        ⟨-, lines, hturn⟩ | ⟨-, -, lines, hturn⟩ | ⟨hturn, -⟩
      · exact .inr (.inl ⟨_, _, _, hturn⟩)
      · exact .inr (.inl ⟨_, _, _, hturn⟩)
      · simp only [turn, hturn]
        cases reply with
        | none => exact .inl rfl
        | some reply =>
            cases reply with
            | error e => exact .inr (.inl ⟨_, _, _, rfl⟩)
            | ok response =>
                simp only [Option.map_some, Option.getD_some, joined]
                split
                · exact .inr (.inr ⟨d, rfl⟩)
                · exact .inr (.inl ⟨_, _, _, rfl⟩)
  | watching name d wake =>
      obtain rfl := Option.some.inj h
      rcases select_cases a d now cancelled first s!"Connection to {name} cancelled" s!"Connection to {name}"
          (if wake ≤ now then some (observe a name d now) else none) with
        ⟨-, lines, hturn⟩ | ⟨-, -, lines, hturn⟩ | ⟨hturn, -⟩
      · exact .inr (.inl ⟨_, _, _, hturn⟩)
      · exact .inr (.inl ⟨_, _, _, hturn⟩)
      · simp only [turn, hturn]
        by_cases hwake : wake ≤ now
        · exact .inr (.inr ⟨d, by rw [if_pos hwake, Option.getD_some]⟩)
        · exact .inl (by rw [if_neg hwake, Option.getD_none])
  | _ => contradiction

/-- **A look at the session**, by what it finds. -/
theorem observe_cases (a : Adapter) (ssid : String) (d : Deadline) (now : Nat) :
    (∃ wake, observe a ssid d now = .goOn a (.watching ssid d wake)) ∨
    (a.session.state = .connected ∧ observe a ssid d now = .over a (.ok .done) [⟨.info, s!"Connected to {ssid}"⟩]) ∨
    ∃ e, observe a ssid d now = .over a (.error e) [] := by
  unfold observe
  split
  · exact .inl ⟨_, rfl⟩
  · next hstate => exact .inr (.inl ⟨hstate, rfl⟩)
  · exact .inr (.inr ⟨_, rfl⟩)
  · exact .inr (.inr ⟨_, rfl⟩)

/-- A connect that goes on connects to the same network. -/
theorem ssid?_of_goOn (h : call.ssid? = some ssid) (hturn : turn a now cancelled reply call first = .goOn a' call') :
    call'.ssid? = some ssid := by
  rcases turn_of_ssid? a now cancelled reply first h with
    hwait | ⟨_, _, _, hover⟩ | ⟨d, hlook⟩
  · rw [hwait] at hturn
    contradiction
  · rw [hover] at hturn
    contradiction
  · rw [hlook] at hturn
    rcases observe_cases a ssid d now with ⟨wake, hgo⟩ | ⟨-, hdone⟩ | ⟨e, hfail⟩
    · rw [hgo] at hturn
      obtain ⟨-, rfl⟩ := Turn.goOn.inj hturn
      rfl
    · rw [hdone] at hturn
      contradiction
    · rw [hfail] at hturn
      contradiction

/-- **A connect that succeeds** has found the session connected, whatever the network, and says that it is the one it
was asked for. -/
theorem connected_of_done (h : call.ssid? = some ssid)
    (hturn : turn a now cancelled reply call first = .over a' (.ok .done) lines) :
    a.session.state = .connected ∧ a' = a ∧ lines = [⟨.info, s!"Connected to {ssid}"⟩] := by
  rcases turn_of_ssid? a now cancelled reply first h with
    hwait | ⟨_, _, _, hover⟩ | ⟨d, hlook⟩
  · rw [hwait] at hturn
    contradiction
  · rw [hover] at hturn
    obtain ⟨-, hresult, -⟩ := Turn.over.inj hturn
    contradiction
  · rw [hlook] at hturn
    rcases observe_cases a ssid d now with ⟨wake, hgo⟩ | ⟨hstate, hdone⟩ | ⟨e, hfail⟩
    · rw [hgo] at hturn
      contradiction
    · rw [hdone] at hturn
      obtain ⟨hsame, -, hlines⟩ := Turn.over.inj hturn
      exact ⟨hstate, hsame.symm, hlines.symm⟩
    · rw [hfail] at hturn
      obtain ⟨-, hresult, -⟩ := Turn.over.inj hturn
      contradiction

end Call

namespace Desk

variable {d : Desk} {m : Move} {network : Details}

/-! ## The network that a session knows -/

/-- **What one move does to the network that is known**: the move names a new one; or it stays, or is forgotten. -/
theorem details_act (d : Desk) (m : Move) :
    (∃ network, m.joined? = some network ∧ (d.act m).adapter.session.details = some network) ∨
      (m.joined? = none ∧ ((d.act m).adapter.session.details = d.adapter.session.details ∨
        (d.act m).adapter.session.details = none)) := by
  cases hjoined : m.joined? with
  | some network =>
      cases m with
      | event e wall =>
          obtain ⟨t, ht, hsession⟩ := Session.apply_of_joined hjoined d.adapter.session
          refine .inl ⟨network, rfl, ?_⟩
          simp only [act, Adapter.dispatch, ht, Adapter.session_advance, hsession]
      | ask request now cancelled => contradiction
      | turn n now cancelled reply first => contradiction
  | none =>
      refine .inr ⟨rfl, ?_⟩
      obtain ⟨t, hshift, hadvanced⟩ := shift_act d m
      rw [hadvanced.session]
      cases hshift with
      | keep => exact .inl rfl
      | connect _ _ => exact .inr rfl
      | disconnect _ => exact .inl rfl
      | lose _ _ => exact .inl rfl
      | fail _ _ => exact .inl rfl
      | restore _ _ => exact .inl rfl
      | leave _ _ => exact .inr rfl
      | report _ => exact .inl rfl
      | joined hstatus hfunction hpayload =>
          rw [Move.joined?, Event.joined?, if_pos ⟨hstatus, hfunction⟩, hpayload] at hjoined
          contradiction
      | parted _ _ => exact .inr rfl
      | passOn hsame _ => exact .inl (congrArg Session.details hsame)

/-- **A network that is known** to a session that knew none is the one that was named last. -/
theorem joinedLast_of_details (hnone : d.adapter.session.details = none) {moves : List Move}
    (hknown : (d.run moves).adapter.session.details = some network) : joinedLast moves = some network := by
  induction moves using List.reverseRecOn generalizing network with
  | nil =>
      rw [run, List.foldl_nil, hnone] at hknown
      contradiction
  | append_singleton before m ih =>
      rw [run_append] at hknown
      rw [joinedLast_concat]
      rcases details_act (d.run before) m with ⟨network', hjoined, hnow⟩ | ⟨hjoined, hsame | hgone⟩
      · rw [hjoined, Option.some_or]
        exact hnow.symm.trans hknown
      · rw [hjoined, Option.none_or]
        exact ih (hsame.symm.trans hknown)
      · exact absurd (hgone.symm.trans hknown) nofun

/-! ## A network that is connected to is known -/

/-- **A desk whose session is never connected to an unknown network**, nor would be if a disconnect were refused. -/
structure Known (d : Desk) : Prop where
  known : ¬ d.adapter.session.Bare
  restorable : ∀ n prior, d.call? n = some (.leaving prior) → d.state = .disconnecting →
    ¬ Session.Bare { d.adapter.session with state := prior }
  apart : d.BegunApart

theorem known_iff : d.Known ↔ d.Upholds fun s => ¬ s.Bare :=
  ⟨fun h => ⟨h.known, h.restorable, h.apart⟩, fun h => ⟨h.stands, h.restorable, h.apart⟩⟩

/-- **A run** of disconnects that do not overlap preserves that. -/
theorem known_run (h : d.Known) {moves : List Move} (horderly : d.Orderly moves) : (d.run moves).Known := by
  rw [known_iff] at h ⊢
  exact upholds_run Session.stable_not_bare h horderly

theorem known_idle {a : Adapter} (ha : a.session = .initial) : (idle a).Known where
  known := by
    unfold idle
    rw [ha]
    decide
  restorable _ _ h := by contradiction
  apart _ _ h := by contradiction

/-! ## Calls keep to their network -/

/-- **A number under which nothing but a connect to this network is in progress.** -/
def Connects (d : Desk) (n : Nat) (ssid : String) : Prop := ∀ call, d.call? n = some call → call.ssid? = some ssid

theorem connects_act {ssid : String} {n : Nat} (hn : n < d.calls.length) (h : d.Connects n ssid) (m : Move) :
    (d.act m).Connects n ssid := by
  intro call hcall
  cases m with
  | ask request now cancelled =>
      simp only [act] at hcall
      split at hcall
      · exact h call hcall
      · rw [call?_append_of_lt hn] at hcall
        exact h call hcall
  | turn k now cancelled reply first =>
      simp only [act] at hcall
      split at hcall
      · exact h call hcall
      · next ongoing hongoing =>
          by_cases hk : k = n
          · subst hk
            split at hcall
            · exact h call hcall
            · next hturn =>
                rw [call?_keep_self hn] at hcall
                obtain rfl := Option.some.inj hcall
                exact Call.ssid?_of_goOn (h ongoing hongoing) hturn
            · rw [call?_keep_self hn] at hcall
              contradiction
          · split at hcall
            · exact h call hcall
            · rw [call?_keep_of_ne hk] at hcall
              exact h call hcall
            · rw [call?_keep_of_ne hk] at hcall
              exact h call hcall
  | event e wall => exact h call hcall

theorem connects_run {ssid : String} {n : Nat} (hn : n < d.calls.length) (h : d.Connects n ssid) (moves : List Move) :
    (d.run moves).Connects n ssid := by
  induction moves generalizing d with
  | nil => exact h
  | cons m rest ih => exact ih (Nat.lt_of_lt_of_le hn (length_le_act d m)) (connects_act hn h m)

/-! ## Networks that are asked for -/

/-- The network that a move begins to connect to. -/
def requested? (d : Desk) : Move → Option String
  | .ask (.connect ssid password timeout) now cancelled =>
    match Call.start d.adapter now cancelled (.connect ssid password timeout) with
    | .ok _ => some ssid
    | .error _ => none
  | _ => none

/-- **The networks that were asked for**: the coprocessor has been sent a command to connect to each. -/
def requested : Desk → List Move → List String
  | _, [] => []
  | d, m :: rest => (d.requested? m).toList ++ requested (d.act m) rest

/-- **A coprocessor that names no network that was not asked for before.** It may name one at any time, however late. -/
def Candid (asked : List String) : Desk → List Move → Prop
  | _, [] => True
  | d, m :: rest =>
    (∀ network ∈ m.joined?, network.ssid ∈ asked) ∧ Candid (asked ++ (d.requested? m).toList) (d.act m) rest

instance decidableCandid : (asked : List String) → (d : Desk) → (moves : List Move) → Decidable (Candid asked d moves)
  | _, _, [] => inferInstanceAs (Decidable True)
  | asked, d, m :: rest =>
    have := decidableCandid (asked ++ (d.requested? m).toList) (d.act m) rest
    inferInstanceAs (Decidable ((∀ network ∈ m.joined?, network.ssid ∈ asked) ∧
      Candid (asked ++ (d.requested? m).toList) (d.act m) rest))

theorem mem_requested_of_candid {asked : List String} {moves : List Move} (h : Candid asked d moves) (hm : m ∈ moves)
    (hjoined : m.joined? = some network) : network.ssid ∈ asked ++ d.requested moves := by
  induction moves generalizing d asked with
  | nil => contradiction
  | cons m' rest ih =>
      obtain ⟨hfirst, hrest⟩ := h
      rcases List.mem_cons.mp hm with rfl | hm
      · exact List.mem_append_left _ (hfirst network hjoined)
      · rw [requested, ← List.append_assoc]
        exact ih hrest hm

theorem mem_of_joinedLast {moves : List Move} (h : joinedLast moves = some network) :
    ∃ m ∈ moves, m.joined? = some network :=
  List.mem_filterMap.mp (List.mem_of_getLast? h)

end Desk

namespace Course

variable {c : Course} {ssid password : String} {timeout : Duration}

/-! ## A connect in a history -/

/-- All that has happened. -/
def history (c : Course) : List Move := c.before ++ .ask c.request c.now c.cancelled :: c.since

/-- **What the call comes to** in a turn after the history: what it answers, and what it logs. -/
def answer (c : Course) (now : Nat) (cancelled : Bool) (reply : Option (Except Error Response))
    (first : Wait := .token) : Option (Except Error Success × List Log.Line) :=
  match (c.desk.call? c.number).map (Call.turn c.desk.adapter now cancelled reply · first) with
  | some (.over _ result lines) => some (result, lines)
  | _ => none

theorem run_history (c : Course) : (Desk.idle c.adapter).run c.history = c.desk := by
  rw [history, Desk.run_append]
  rfl

/-- A connect that has begun has forgotten the network that was known before. -/
theorem begun_of_entered (hrequest : c.request = .connect ssid password timeout) (hentered : c.Entered .connecting) :
    c.begun.adapter.session.details = none ∧ c.begun.Connects c.number ssid := by
  have hlt := number_lt hentered
  obtain ⟨hout, hin⟩ := hentered
  unfold begun at hin hlt ⊢
  rw [hrequest] at hin hlt ⊢
  simp only [Desk.act] at hin hlt ⊢
  split at hin
  · exact absurd hin hout
  · next started hstart =>
      obtain ⟨s, hs, hadapter, hcall⟩ := Call.start_connect hstart
      obtain ⟨-, -, rfl⟩ := Session.beginConnect_eq_ok.mp hs
      refine ⟨by rw [hadapter], ?_⟩
      intro call hfound
      rw [number, Desk.call?_append_self, hcall] at hfound
      obtain rfl := Option.some.inj hfound
      rfl

/-- A connect that answers with success has found the session connected. -/
theorem connected_of_answer (hconnects : c.desk.Connects c.number ssid) {now : Nat} {cancelled : Bool}
    {reply : Option (Except Error Response)} {first : Wait} {lines : List Log.Line}
    (hanswer : c.answer now cancelled reply first = some (.ok .done, lines)) :
    c.desk.state = .connected ∧ lines = [⟨.info, s!"Connected to {ssid}"⟩] := by
  unfold answer at hanswer
  cases hcall : c.desk.call? c.number with
  | none => simp [hcall] at hanswer
  | some call =>
      simp only [hcall, Option.map_some] at hanswer
      split at hanswer
      · next a' result lines' hturn =>
          obtain ⟨rfl, rfl⟩ := Prod.mk.inj (Option.some.inj hanswer)
          obtain ⟨hstate, -, hlines⟩ := Call.connected_of_done (hconnects call hcall) (Option.some.inj hturn)
          exact ⟨hstate, hlines⟩
      · contradiction

theorem details_of_not_bare (hconnected : c.desk.state = .connected) (h : ¬ c.desk.adapter.session.Bare) :
    ∃ network, c.desk.adapter.session.details = some network :=
  Option.ne_none_iff_exists'.mp fun hnone => h ⟨hconnected, hnone⟩

/-- **What a connect that has succeeded has found.** -/
structure Landed (c : Course) (ssid : String) (lines : List Log.Line) : Prop where
  /-- The session is connected. -/
  connected : c.desk.state = .connected
  /-- The log says that this is the network asked for. -/
  said : lines = [⟨.info, s!"Connected to {ssid}"⟩]
  /-- The network that is known, if one is, is the last that an event has named since the call began. -/
  named : ∀ network, c.desk.adapter.session.details = some network → joinedLast c.since = some network
  /-- The answer is right exactly if that is the network asked for and is still known. -/
  right_iff : c.desk.adapter.session.details.map Details.ssid = some ssid ↔
    ¬ c.desk.adapter.session.Bare ∧ (joinedLast c.since).map Details.ssid = some ssid
  /-- Only disconnects that overlap make a connected session forget the network. -/
  known : (Desk.idle c.adapter).Orderly c.history → ¬ c.desk.adapter.session.Bare
  /-- If the coprocessor names only networks that were asked for, the network that is known was asked for, though
  perhaps by another request. -/
  asked : Desk.Candid [] (Desk.idle c.adapter) c.history →
    ∀ network, c.desk.adapter.session.details = some network →
      network.ssid ∈ (Desk.idle c.adapter).requested c.history
  /-- So the answer is right as long as nobody asks for another network. -/
  alone : (Desk.idle c.adapter).Orderly c.history → Desk.Candid [] (Desk.idle c.adapter) c.history →
    (∀ other ∈ (Desk.idle c.adapter).requested c.history, other = ssid) →
      c.desk.adapter.session.details.map Details.ssid = some ssid

/-- **What the success of a connect is worth**, in every history of a new adapter: requests, turns with any answers at
any time, cancellations, and events, in any order. -/
theorem landed {config : WirelessConfig} {runtime : Bool} {wall : Nat} (c : Course)
    (hadapter : Adapter.create config runtime wall = .ok c.adapter)
    (hrequest : c.request = .connect ssid password timeout) (hentered : c.Entered .connecting) {now : Nat}
    {cancelled : Bool} {reply : Option (Except Error Response)} {first : Wait} {lines : List Log.Line}
    (hanswer : c.answer now cancelled reply first = some (.ok .done, lines)) : c.Landed ssid lines := by
  obtain ⟨hnone, hconnects⟩ := begun_of_entered hrequest hentered
  have hstill := Desk.connects_run (number_lt hentered) hconnects c.since
  obtain ⟨hconnected, hlines⟩ := connected_of_answer hstill hanswer
  have hnamed : ∀ network, c.desk.adapter.session.details = some network → joinedLast c.since = some network :=
    fun _ => Desk.joinedLast_of_details hnone
  have hknown : (Desk.idle c.adapter).Orderly c.history → ¬ c.desk.adapter.session.Bare := by
    intro horderly
    have hrun := (Desk.known_run (Desk.known_idle (Desk.session_of_create hadapter)) horderly).known
    rwa [run_history] at hrun
  have hasked : Desk.Candid [] (Desk.idle c.adapter) c.history →
      ∀ network, c.desk.adapter.session.details = some network →
        network.ssid ∈ (Desk.idle c.adapter).requested c.history := by
    intro hcandid network hnetwork
    obtain ⟨m, hm, hjoined⟩ := Desk.mem_of_joinedLast (hnamed network hnetwork)
    have hin : m ∈ c.history := List.mem_append_right _ (List.mem_cons_of_mem _ hm)
    simpa using Desk.mem_requested_of_candid hcandid hin hjoined
  refine ⟨hconnected, hlines, hnamed, ⟨?_, ?_⟩, hknown, hasked, ?_⟩
  · intro hright
    obtain ⟨network, hnetwork, -⟩ := Option.map_eq_some_iff.mp hright
    refine ⟨fun hbare => absurd (hbare.2.symm.trans hnetwork) nofun, ?_⟩
    rw [hnamed network hnetwork, ← hnetwork]
    exact hright
  · rintro ⟨hbare, hright⟩
    obtain ⟨network, hnetwork⟩ := details_of_not_bare hconnected hbare
    rw [hnetwork, ← hnamed network hnetwork]
    exact hright
  · intro horderly hcandid honly
    obtain ⟨network, hnetwork⟩ := details_of_not_bare hconnected (hknown horderly)
    rw [hnetwork, Option.map_some, honly _ (hasked hcandid network hnetwork)]

/-! ## A late event -/

/-- **An event for another request.** A connect to one network times out, and the adapter disconnects; then it connects
to another one, and the coprocessor tells of the first. -/
def stray : Course where
  adapter := radio
  before := [.ask (.connect "lab" "hunter22" ⟨100000000⟩) 0 false, .turn 0 1 false (some (.ok ⟨.completed, []⟩)),
    .turn 0 100 false none, .ask (.disconnect false) 110 false, .turn 1 120 false (some (.ok ⟨.completed, []⟩))]
  request := .connect "guest" "visitor99" ⟨0⟩
  now := 130
  cancelled := false
  since := [.turn 2 131 false (some (.ok ⟨.completed, []⟩)), .event ⟨.connected, .completed, network.encode⟩ 150]

/-- The second connect succeeds and says that it has connected to its own network, while the session knows the first. -/
theorem landed_stray :
    stray.answer 1000 false none = some (.ok .done, [⟨.info, "Connected to guest"⟩]) ∧
      stray.desk.adapter.session.details = some network ∧ network.ssid = "lab" ∧
      stray.Landed "guest" [⟨.info, "Connected to guest"⟩] :=
  have hanswer : stray.answer 1000 false none = some (.ok .done, [⟨.info, "Connected to guest"⟩]) := by decide
  ⟨hanswer, by decide, rfl,
    @landed "guest" "visitor99" ⟨0⟩ {} true 0 stray rfl rfl (by decide) 1000 false none .token _ hanswer⟩

/-- **A connect succeeds only for its own network**: whenever it answers so, with a coprocessor that names no network
that was not asked for before, the session is connected to the network that it was asked for. -/
def ForItself (c : Course) : Prop :=
  ∀ ssid password timeout now cancelled reply lines, c.request = .connect ssid password timeout →
    c.Entered .connecting → Desk.Candid [] (Desk.idle c.adapter) c.history →
      c.answer now cancelled reply = some (.ok .done, lines) →
        c.desk.state = .connected ∧ c.desk.adapter.session.details.map Details.ssid = some ssid

/-- **It does not**, not even if no two calls overlap. -/
theorem not_forItself_stray : (Desk.idle stray.adapter).Orderly stray.history ∧ ¬ stray.ForItself := by
  refine ⟨by decide, fun h => ?_⟩
  have hanswer : stray.answer 1000 false none = some (.ok .done, [⟨.info, "Connected to guest"⟩]) := by decide
  have hright := (h "guest" "visitor99" ⟨0⟩ 1000 false none _ rfl (by decide) (by decide) hanswer).2
  revert hright
  decide

end Course

end Peripherals.Coprocessor
