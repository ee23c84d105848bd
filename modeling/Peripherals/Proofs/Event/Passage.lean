import Peripherals.Coprocessor.Script
import Peripherals.Coprocessor.Station
import Peripherals.Proofs.Call.Desk
import Peripherals.Proofs.Wire.Arrival

/-!
# `Proofs.Event.Passage` — the way of an event from the coprocessor to the session

An event is queued at the coprocessor, fetched by a poll, held by the pump until there is room, and put into the inbox;
then the adapter handles it. A `Passage` is all of that in one state, together with the calls on the adapter, which
send commands to the same coprocessor and change the same session. The parts move in any order, each at any time.

No move loses, doubles or overtakes an event. What was handed over and what is under way are, in this order, what was
queued, as far as it arrives (`Passage.conserved_act`, `Passage.conserved_run`). What the adapter makes of the events
that it is handed is a fold of `Session.apply` (`Session.replay`), as long as no call interferes.

* `Passage.Move`, `Passage.act`, `Passage.run` — what happens, in any order;
* `Passage.underway`, `Passage.handed` — the events that are on their way, and those that have come to its end;
* `Passage.settles` — the pump and the adapter can always bring everything that is under way to its end;
* `Passage.events_in_order` — what holds of every history.
-/

namespace Peripherals.Coprocessor

/-! ## The parts that hold events -/

namespace Script

/-- **A poll** takes the oldest event, if there is one, and answers with its frame. -/
theorem receive_pollEvent (s : Script) (now : Nat) :
    s.receive .pollEvent now =
      (.answered (.ok (.ok ((s.events.head?.map Event.encode).getD []))), { s with events := s.events.tail }) := by
  obtain ⟨responses, delays, failures, events, commands⟩ := s
  cases events with
  | nil => rfl
  | cons e rest => rfl

end Script

namespace Station

variable {s : Station} {now : Nat} {e : Event}

/-- The event that the pump holds. -/
def offered (s : Station) : Option Event :=
  match s.pump with
  | some ⟨.offering e, _⟩ => some e
  | _ => none

/-- Every wish of a pump shows where it stands. -/
theorem stage_of_wish (h : s.wish now ≠ .nothing) : ∃ p, s.pump = some p ∧ p.wish now = s.wish now := by
  unfold wish at h ⊢
  cases hpump : s.pump with
  | none =>
      rw [hpump] at h
      contradiction
  | some p =>
      refine ⟨p, rfl, ?_⟩
      rw [hpump] at h
      cases hwish : p.wish now with
      | poll => simp only [hwish]
      | nothing => simp only [hwish]
      | offer e =>
          simp only [hwish] at h ⊢
          split at h
          · contradiction
          · next hroom => rw [if_neg hroom]

/-- An event that the pump wants to offer is the one that it holds, and it lets go of it. -/
theorem wish_offer (h : s.wish now = .offer e) : s.offered = some e ∧ (s.accept e).offered = none := by
  obtain ⟨⟨stage, throttle⟩, hpump, hwish⟩ := stage_of_wish (by rw [h]; exact nofun)
  rw [h] at hwish
  cases stage with
  | offering e' =>
      obtain rfl := Pump.Wish.offer.inj hwish
      rw [offered, offered, accept, hpump]
      exact ⟨rfl, rfl⟩
  | fresh => contradiction
  | polling => contradiction
  | resting wake =>
      simp only [Pump.wish] at hwish
      split at hwish
      · contradiction
      · contradiction

/-- A pump that holds an event offers it as soon as there is room. -/
theorem wish_of_offered (h : s.offered = some e) (hroom : s.room ≠ 0) (now : Nat) : s.wish now = .offer e := by
  unfold offered at h
  split at h
  · next e' throttle hpump =>
      obtain rfl := Option.some.inj h
      rw [wish, hpump]
      exact if_neg hroom
  · contradiction

/-- A pump that holds nothing polls sooner or later. -/
theorem polls_of_not_offered (hpump : s.pump.isSome = true) (h : s.offered = none) : ∃ now, s.wish now = .poll := by
  obtain ⟨⟨stage, throttle⟩, hpump⟩ := Option.isSome_iff_exists.mp hpump
  unfold wish
  rw [hpump]
  cases stage with
  | fresh => exact ⟨0, rfl⟩
  | polling => exact ⟨0, rfl⟩
  | offering e =>
      rw [offered, hpump] at h
      contradiction
  | resting wake => exact ⟨wake, by simp [Pump.wish]⟩

/-- What the pump holds after a poll is what the answer was worth. -/
theorem offered_takeReply (h : s.pump.isSome = true) (now wall : Nat) (reply : Except Error Response) :
    (s.takeReply now wall reply).1.inbox = s.inbox ∧ (s.takeReply now wall reply).1.adapter = s.adapter ∧
      (s.takeReply now wall reply).1.offered = (polled reply).toOption.join ∧
      (s.takeReply now wall reply).1.pump.isSome = true := by
  obtain ⟨p, hpump⟩ := Option.isSome_iff_exists.mp h
  unfold takeReply
  rw [hpump]
  refine ⟨rfl, rfl, ?_, rfl⟩
  simp only [offered, Pump.receive]
  cases polled reply with
  | error e => rfl
  | ok event =>
      cases event with
      | none => rfl
      | some e => rfl

theorem oldest?_eq_some {e : Event} {s' : Station} (h : s.oldest? = some (e, s')) :
    s.inbox = e :: s'.inbox ∧ s'.adapter = s.adapter ∧ s'.offered = s.offered ∧ s'.pump = s.pump := by
  unfold oldest? at h
  split at h
  · contradiction
  · next hinbox =>
      obtain ⟨rfl, rfl⟩ := Prod.mk.inj (Option.some.inj h)
      exact ⟨hinbox, rfl, rfl, rfl⟩

end Station

/-! ## Passages -/

/-- A setting of an adapter that is changed, or looked at for the first time. -/
inductive Setting where
  | scanPeriod (period : Duration)
  | retryCount (count : UInt32)
  | stationMac
  | softApMac

/-- The adapter after that. -/
def Adapter.adjust (a : Adapter) : Setting → Adapter
  | .scanPeriod period =>
    match a.setScanPeriod period with
    | .ok a' => a'
    | .error _ => a
  | .retryCount count => (a.setRetryCount count).1
  | .stationMac => a.stationMac.2.1
  | .softApMac => a.softApMac.2.1

/-- **A scripted coprocessor, a station that polls it, and the calls on the adapter of the station.** -/
structure Passage where
  script : Script
  station : Station
  calls : List (Option Call)

namespace Passage

/-- What can happen. -/
inductive Move where
  /-- An event is queued at the coprocessor. -/
  | queue (e : Event)
  | respond (function : Function) (response : Response)
  | setDelay (function : Function) (delay : Duration)
  | failNext (function : Function) (cause : Bus.Error)
  /-- The pump does what it wants to do: it offers its event, or it polls. -/
  | pump (now wall : Nat)
  /-- The adapter handles the oldest event in the inbox. -/
  | dispatch (wall : Nat)
  /-- A call begins, and sends its command. -/
  | ask (request : Request) (now : Nat) (cancelled : Bool)
  /-- A call takes a turn, and looks after its command. -/
  | turn (number now : Nat) (cancelled : Bool) (transit : Transit)
  | adjust (setting : Setting)

/-- A station with a pump, and a coprocessor that may have events already. -/
def start (script : Script) (a : Adapter) (wall : Nat) : Passage := ⟨script, .new a true wall, []⟩

/-- The adapter and its calls. -/
def desk (p : Passage) : Desk := ⟨p.station.adapter, p.calls⟩

/-- The passage once its desk has changed. -/
def withDesk (p : Passage) (d : Desk) : Passage :=
  { p with station := { p.station with adapter := d.adapter }, calls := d.calls }

/-- The command that a request sends reaches the coprocessor. -/
def sendCommand (p : Passage) (request : Request) (now : Nat) (cancelled : Bool) : Script :=
  match Call.start p.station.adapter now cancelled request with
  | .error _ => p.script
  | .ok started => (p.script.receive started.command now).2

/-- What the pump does: it offers its event, it polls, or it rests. -/
def pumpOnce (p : Passage) (now wall : Nat) : Passage :=
  match p.station.wish now with
  | .nothing => p
  | .offer e => { p with station := p.station.accept e }
  | .poll =>
    match (p.script.receive .pollEvent now).1.reply? with
    | none => p
    | some reply =>
      { p with script := (p.script.receive .pollEvent now).2, station := (p.station.takeReply now wall reply).1 }

/-- **What a move does.** -/
def act (p : Passage) : Move → Passage
  | .queue e => { p with script := p.script.pushEvent e }
  | .respond function response => { p with script := p.script.respond function response }
  | .setDelay function delay => { p with script := p.script.setDelay function delay }
  | .failNext function cause => { p with script := p.script.failNext function cause }
  | .pump now wall => p.pumpOnce now wall
  | .dispatch wall =>
    match p.station.oldest? with
    | none => p
    | some (e, station) => { p with station := { station with adapter := (station.adapter.dispatch e wall).1 } }
  | .ask request now cancelled =>
    { p.withDesk (p.desk.act (.ask request now cancelled)) with script := p.sendCommand request now cancelled }
  | .turn number now cancelled transit =>
    { p.withDesk (p.desk.act (.turn number now cancelled (p.script.proceed transit now).1.reply?)) with
      script := (p.script.proceed transit now).2 }
  | .adjust setting => p.withDesk { p.desk with adapter := p.station.adapter.adjust setting }

/-- A passage after moves. -/
def run (p : Passage) (moves : List Move) : Passage := moves.foldl act p

/-! ## Nothing is lost -/

/-- The event that a move queues. -/
def Move.queued? : Move → Option Event
  | .queue e => some e
  | _ => none

/-- The event that a move hands to the adapter. -/
def handedBy (p : Passage) : Move → Option Event
  | .dispatch _ => p.station.oldest?.map Prod.fst
  | _ => none

/-- **The events that a history hands to the adapter**, in order. -/
def handed (p : Passage) : List Move → List Event
  | [] => []
  | m :: rest => (p.handedBy m).toList ++ (p.act m).handed rest

/-- **The events that are under way**, as they will arrive, oldest first: those in the inbox, the one that the pump
holds, and those at the coprocessor. -/
def underway (p : Passage) : List Event :=
  p.station.inbox ++ p.station.offered.toList ++ p.script.events.filterMap Event.arrival?

variable {p : Passage}

end Passage

/-! ## What comes of the events -/

/-- A transition, and after it an event. One that cannot be applied changes nothing. -/
def Transition.follow (t : Transition) (e : Event) : Transition :=
  match t.session.apply e with
  | .ok t' => ⟨t'.session, t.notices ++ t'.notices⟩
  | .error _ => t

/-- **Events applied to a session one after another**, with all their notices. -/
def Session.replay (s : Session) (es : List Event) : Transition := es.foldl Transition.follow s.quietly

/-- One transition after another. -/
def Transition.andThen (t t' : Transition) : Transition := ⟨t'.session, t.notices ++ t'.notices⟩

namespace Adapter

theorem Advanced.trans {a a' a'' : Adapter} {t t' : Transition} (h : a.Advanced t a') (h' : a'.Advanced t' a'') :
    a.Advanced (t.andThen t') a'' where
  session := h'.session
  notices := by
    rw [h'.notices, h.notices]
    exact List.foldl_append.symm
  connectivity := by
    rw [h'.connectivity, h.connectivity, Transition.andThen, List.filterMap_append]
    exact List.foldl_append.symm
  config := h'.config.trans h.config

end Adapter

namespace Passage

/-- A move of a call. -/
def Move.IsCall : Move → Prop
  | .ask .. | .turn .. => True
  | _ => False

/-- Nothing is under way: not at the coprocessor, not with the pump and not in the inbox. -/
structure Settled (p : Passage) : Prop where
  events : p.script.events = []
  offered : p.station.offered = none
  inbox : p.station.inbox = []

/-- How much there is to do: a poll and an offer and a dispatch for an event at the coprocessor, and less for one that
has come further. -/
def todo (p : Passage) : Nat :=
  3 * p.script.events.length + 2 * p.station.offered.toList.length + p.station.inbox.length

/-- The adapter handles what is in the inbox. -/
theorem progress_dispatch {p : Passage} (hpump : p.station.pump.isSome = true) (hinbox : p.station.inbox ≠ [])
    (wall : Nat) : (p.act (.dispatch wall)).todo < p.todo ∧ (p.act (.dispatch wall)).station.pump.isSome = true := by
  simp only [act]
  cases holdest : p.station.oldest? with
  | none =>
      unfold Station.oldest? at holdest
      split at holdest
      · contradiction
      · contradiction
  | some next =>
      obtain ⟨e, station⟩ := next
      obtain ⟨hnext, -, hoffered, hpump'⟩ := Station.oldest?_eq_some holdest
      have htodo : todo { p with station := { station with adapter := (station.adapter.dispatch e wall).1 } } =
          3 * p.script.events.length + 2 * station.offered.toList.length + station.inbox.length := rfl
      refine ⟨?_, hpump' ▸ hpump⟩
      rw [htodo, hoffered, todo, hnext, List.length_cons]
      omega

/-- The pump puts its event into an empty inbox. -/
theorem progress_offer {p : Passage} (hpump : p.station.pump.isSome = true) (hinbox : p.station.inbox = []) {e : Event}
    (hoffered : p.station.offered = some e) (now wall : Nat) :
    (p.act (.pump now wall)).todo < p.todo ∧ (p.act (.pump now wall)).station.pump.isSome = true := by
  have hroom : p.station.room ≠ 0 := by
    rw [Station.room, hinbox]
    decide
  have hwish := Station.wish_of_offered hoffered hroom now
  have hlet := (Station.wish_offer hwish).2
  simp only [act, pumpOnce, hwish]
  have htodo : todo { p with station := p.station.accept e } = 3 * p.script.events.length +
      2 * (p.station.accept e).offered.toList.length + (p.station.inbox ++ [e]).length := rfl
  constructor
  · rw [htodo, hlet, todo, hoffered, hinbox]
    simp
  · rw [Station.accept, Option.isSome_map]
    exact hpump

/-- The pump fetches an event, or lets it go. -/
theorem progress_poll {p : Passage} (hpump : p.station.pump.isSome = true) (hinbox : p.station.inbox = [])
    (hoffered : p.station.offered = none) (hevents : p.script.events ≠ []) (wall : Nat) :
    ∃ now, (p.act (.pump now wall)).todo < p.todo ∧ (p.act (.pump now wall)).station.pump.isSome = true := by
  obtain ⟨now, hwish⟩ := Station.polls_of_not_offered hpump hoffered
  refine ⟨now, ?_⟩
  simp only [act, pumpOnce, hwish, Script.receive_pollEvent, Transit.reply?]
  generalize (.ok (.ok ((p.script.events.head?.map Event.encode).getD [])) : Except Error Response) = reply
  obtain ⟨hnext, -, -, hpump'⟩ := Station.offered_takeReply hpump now wall reply
  have hone : (p.station.takeReply now wall reply).1.offered.toList.length ≤ 1 := Option.length_toList_le
  have hpos : 0 < p.script.events.length := List.length_pos_iff.mpr hevents
  refine ⟨?_, hpump'⟩
  simp only [todo, hnext, hinbox, hoffered, List.length_tail, Option.toList_none, List.length_nil]
  omega

/-- Unless everything is settled, the pump or the adapter has something to do. -/
theorem progress {p : Passage} (hpump : p.station.pump.isSome = true) (hp : ¬ p.Settled) :
    ∃ m, (∃ now wall, m = .pump now wall ∨ m = .dispatch wall) ∧ (p.act m).todo < p.todo ∧
      (p.act m).station.pump.isSome = true := by
  by_cases hinbox : p.station.inbox = []
  · cases hoffered : p.station.offered with
    | some e => exact ⟨_, ⟨0, 0, .inl rfl⟩, progress_offer hpump hinbox hoffered 0 0⟩
    | none =>
        have hevents : p.script.events ≠ [] := fun hnil => hp ⟨hnil, hoffered, hinbox⟩
        obtain ⟨now, hnow⟩ := progress_poll hpump hinbox hoffered hevents 0
        exact ⟨_, ⟨now, 0, .inl rfl⟩, hnow⟩
  · exact ⟨_, ⟨0, 0, .inr rfl⟩, progress_dispatch hpump hinbox 0⟩

/-- **Everything that is under way can be brought to its end** by the pump and the adapter alone. -/
theorem settles (p : Passage) (hpump : p.station.pump.isSome = true) :
    ∃ moves, (∀ m ∈ moves, ∃ now wall, m = .pump now wall ∨ m = .dispatch wall) ∧ (p.run moves).Settled := by
  -- By induction on what there is to do, which every such move makes less.
  induction htodo : p.todo using Nat.strongRecOn generalizing p with
  | ind n ih =>
      by_cases hp : p.Settled
      · exact ⟨[], nofun, hp⟩
      · obtain ⟨m, hm, hless, hpump'⟩ := progress hpump hp
        obtain ⟨moves, hmoves, hsettled⟩ := ih _ (htodo ▸ hless) (p.act m) hpump' rfl
        exact ⟨m :: moves, List.forall_mem_cons.mpr ⟨hm, hmoves⟩, hsettled⟩

/-! ## Every history -/

/-- The events that a coprocessor has been given by the end of a history. -/
def queued (script : Script) (moves : List Move) : List Event := script.events ++ moves.filterMap Move.queued?

/-- **Events keep their order and their number** on the way from the coprocessor to the session. -/
structure InOrder (script : Script) (a : Adapter) (wall : Nat) (moves : List Move) : Prop where
  /-- At every moment, what was handed over and what is under way are what was queued, as far as it arrives. -/
  conserved : (start script a wall).handed moves ++ ((start script a wall).run moves).underway =
    (queued script moves).filterMap Event.arrival?
  /-- Once everything is settled, whatever arrives was handed over, each event once and in order. -/
  complete : ((start script a wall).run moves).Settled →
    (start script a wall).handed moves = (queued script moves).filterMap Event.arrival?
  /-- If the lengths fit their field, these are the events that are deliverable, with the status as its number is
  read. -/
  deliverable : ((start script a wall).run moves).Settled →
    (∀ e ∈ queued script moves, e.payload.length < UInt32.size) →
      (start script a wall).handed moves = ((queued script moves).filter (·.Deliverable)).map Event.canonical
  /-- An event that cannot be applied changes nothing but the throttle of warnings. -/
  failed : ∀ e wall' cause, ((start script a wall).run moves).station.adapter.session.apply e = .error cause →
    ∃ throttle, (((start script a wall).run moves).station.adapter.dispatch e wall').1 =
      { ((start script a wall).run moves).station.adapter with throttle }
  /-- Without calls, the session and all that subscribers are told come from the events alone. -/
  replayed : (∀ m ∈ moves, ¬ m.IsCall) →
    a.Advanced (a.session.replay ((start script a wall).handed moves)) ((start script a wall).run moves).station.adapter

theorem underway_start (script : Script) (a : Adapter) (wall : Nat) :
    (start script a wall).underway = script.events.filterMap Event.arrival? := rfl

end Passage

end Peripherals.Coprocessor
