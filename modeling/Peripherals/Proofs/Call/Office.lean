import Peripherals.Proofs.Call.Heard

/-!
# `Proofs.Call.Office` — sessions that change before anybody is told

A task that changes the session does so while the session is locked, and publishes the notices afterwards, message by
message. Other tasks may come in between: the session may change again, and other messages may go out first. An
`Office` is a desk with its outgoing messages. A move leaves the messages for its notices in a tray of its own, and
they go out one at a time, those of one tray in order.

So what subscribers hear depends on how the trays are emptied. The order in which the session has changed is that of
the `tale`, and of it holds what `Desk.Heard` says: the last notice about connectivity fits the state. What has been
`posted` is the same messages, each once, but their order may be another (`Office.delivered`). If no message overtakes
one of an earlier tray, as where one thread runs all tasks, it is the same as well (`Office.delivered_of_inTurn`,
`Office.run_prompt`), and then what subscribers hear fits the state whenever all trays are empty.

* `Desk.enter`, `Office.act`, `Office.run` — a move of which nothing has been told yet, and what steps do;
* `Office.tale`, `Office.posted` — what there is to tell, in the order of the changes, and what has gone out;
* `Office.prompt`, `Office.run_prompt` — the steps of a thread that runs all tasks;
* `Office.Outspoken`, `Office.outspoken_of_created` — what subscribers of a new adapter hear.
-/

namespace Peripherals.Coprocessor

/-! ## Moves and messages -/

namespace Desk

/-- The desk after a move of which nothing has been told yet. -/
def enter (d : Desk) (m : Move) : Desk :=
  { d.act m with
    adapter := { (d.act m).adapter with notices := d.adapter.notices, connectivity := d.adapter.connectivity } }

/-- The messages for what a move has to tell. -/
def parcels (d : Desk) (m : Move) : List Parcel := (d.told m).flatMap Notice.parcels

/-- Once all of them have been sent, the move is complete. -/
theorem posted_enter (d : Desk) (m : Move) :
    (d.parcels m).foldl Adapter.post (d.enter m).adapter = (d.act m).adapter := by
  obtain ⟨t, hchange, hadvanced⟩ := change_act d m
  have htold : d.told m = t.notices := told_of_advanced hadvanced hchange.length_notices_le
  rw [parcels, htold, Adapter.post_all, Notice.notice?_parcels, Notice.connectivity?_parcels]
  simp only [enter]
  rw [← hadvanced.notices, ← hadvanced.connectivity]

end Desk

/-- **A desk with its outgoing messages**: each move has a tray for those that it still has to send. -/
structure Office where
  desk : Desk
  trays : List (List Parcel)

namespace Office

/-- What can happen in an office. -/
inductive Step where
  /-- A move, as far as it is made while the session is locked. -/
  | change (m : Move)
  /-- The next message of a tray goes out. -/
  | post (tray : Nat)

/-- An office where nothing is outgoing. -/
def idle (a : Adapter) : Office := ⟨.idle a, []⟩

/-- The messages in a tray. -/
def tray (o : Office) (k : Nat) : List Parcel := o.trays.getD k []

/-- **What a step does.** -/
def act (o : Office) : Step → Office
  | .change m => ⟨o.desk.enter m, o.trays ++ [o.desk.parcels m]⟩
  | .post k =>
    match o.tray k with
    | [] => o
    | p :: rest => ⟨{ o.desk with adapter := o.desk.adapter.post p }, o.trays.set k rest⟩

/-- An office after steps. -/
def run (o : Office) (steps : List Step) : Office := steps.foldl act o

/-- What there is to tell of a step. -/
def told (o : Office) : Step → List Notice
  | .change m => o.desk.told m
  | .post _ => []

/-- **What there is to tell of steps**, in the order in which the session has changed. -/
def tale : Office → List Step → List Notice
  | _, [] => []
  | o, step :: rest => o.told step ++ tale (o.act step) rest

/-- The message that goes out in a step. -/
def sent? (o : Office) : Step → Option Parcel
  | .change _ => none
  | .post k => (o.tray k).head?

/-- **The messages that go out**, in order. -/
def posted : Office → List Step → List Parcel
  | _, [] => []
  | o, step :: rest => (o.sent? step).toList ++ posted (o.act step) rest

/-- The messages that have not gone out yet, tray by tray. -/
def outgoing (o : Office) : List Parcel := o.trays.flatten

/-- **No disconnect is asked for while another is in progress.** -/
def Orderly : Office → List Step → Prop
  | _, [] => True
  | o, .change m :: rest => (m.isDisconnect = true → o.desk.isLeaving = false) ∧ Orderly (o.act (.change m)) rest
  | o, .post k :: rest => Orderly (o.act (.post k)) rest

instance decidableOrderly : (o : Office) → (steps : List Step) → Decidable (Orderly o steps)
  | _, [] => inferInstanceAs (Decidable True)
  | o, .change m :: rest =>
    have := decidableOrderly (o.act (.change m)) rest
    inferInstanceAs
      (Decidable ((m.isDisconnect = true → o.desk.isLeaving = false) ∧ Orderly (o.act (.change m)) rest))
  | o, .post k :: rest => decidableOrderly (o.act (.post k)) rest

/-- **No message overtakes one of an earlier tray.** -/
def InTurn : Office → List Step → Prop
  | _, [] => True
  | o, .change m :: rest => InTurn (o.act (.change m)) rest
  | o, .post k :: rest => (o.trays.take k).flatten = [] ∧ InTurn (o.act (.post k)) rest

variable {o : Office} {steps : List Step}

theorem run_append (o : Office) (steps steps' : List Step) : o.run (steps ++ steps') = (o.run steps).run steps' :=
  List.foldl_append

theorem tale_append (o : Office) (steps steps' : List Step) :
    o.tale (steps ++ steps') = o.tale steps ++ (o.run steps).tale steps' := by
  induction steps generalizing o with
  | nil => rfl
  | cons step rest ih => rw [List.cons_append, tale, ih, tale, List.append_assoc]; rfl

theorem inTurn_append {steps' : List Step} (h : o.InTurn steps) (h' : (o.run steps).InTurn steps') :
    o.InTurn (steps ++ steps') := by
  induction steps generalizing o with
  | nil => exact h'
  | cons step rest ih =>
      cases step with
      | change m => exact ih (o := o.act (.change m)) h h'
      | post k => exact ⟨h.1, ih h.2 h'⟩

theorem orderly_append {steps' : List Step} (h : o.Orderly steps) (h' : (o.run steps).Orderly steps') :
    o.Orderly (steps ++ steps') := by
  induction steps generalizing o with
  | nil => exact h'
  | cons step rest ih =>
      cases step with
      | change m => exact ⟨h.1, ih h.2 h'⟩
      | post k => exact ih (o := o.act (.post k)) h h'

/-- What there is to tell comes from a change. -/
theorem exists_change {n : Notice} (h : n ∈ o.tale steps) :
    ∃ first m last, steps = first ++ .change m :: last ∧ n ∈ (o.run first).desk.told m := by
  induction steps generalizing o with
  | nil => contradiction
  | cons step rest ih =>
      rcases List.mem_append.mp h with hnow | hlater
      · cases step with
        | change m => exact ⟨[], m, rest, rfl, hnow⟩
        | post k => contradiction
      · obtain ⟨first, m, last, rfl, hmem⟩ := ih hlater
        exact ⟨step :: first, m, last, rfl, hmem⟩

/-! ## Every message goes out once -/

/-- The messages of trays, one of which is looked at. -/
theorem flatten_trays (trays : List (List Parcel)) {k : Nat} {p : Parcel} {rest : List Parcel}
    (h : trays.getD k [] = p :: rest) :
    trays.flatten = (trays.take k).flatten ++ p :: (rest ++ (trays.drop (k + 1)).flatten) ∧
      (trays.set k rest).flatten = (trays.take k).flatten ++ (rest ++ (trays.drop (k + 1)).flatten) := by
  induction trays generalizing k with
  | nil => contradiction
  | cons tray trays ih =>
      cases k with
      | zero =>
          obtain rfl : tray = p :: rest := h
          exact ⟨rfl, rfl⟩
      | succ k =>
          obtain ⟨hall, hset⟩ := ih h
          simp only [List.flatten_cons, List.take_succ_cons, List.drop_succ_cons, List.set_cons_succ, List.append_assoc]
          exact ⟨congrArg (tray ++ ·) hall, congrArg (tray ++ ·) hset⟩

/-- A step puts the messages for what it has to tell behind the others, and takes out the one that it sends. -/
theorem delivered_act (o : Office) (step : Step) :
    ((o.sent? step).toList ++ (o.act step).outgoing).Perm (o.outgoing ++ (o.told step).flatMap Notice.parcels) := by
  cases step with
  | change m =>
      simp only [sent?, act, told, outgoing, Desk.parcels, List.flatten_append, List.flatten_singleton,
        Option.toList_none, List.nil_append]
      exact .refl _
  | post k =>
      simp only [sent?, act, told, outgoing, List.flatMap_nil, List.append_nil]
      cases htray : o.tray k with
      | nil => exact .refl _
      | cons p rest =>
          obtain ⟨hall, hset⟩ := flatten_trays o.trays htray
          simp only [List.head?_cons, Option.toList_some, hall, hset, List.singleton_append]
          exact List.perm_middle.symm

/-- **Every message for what there is to tell goes out once**, in whatever order, or is still outgoing. -/
theorem delivered (o : Office) (steps : List Step) :
    (o.posted steps ++ (o.run steps).outgoing).Perm (o.outgoing ++ (o.tale steps).flatMap Notice.parcels) := by
  induction steps generalizing o with
  | nil => exact .of_eq (List.append_nil _).symm
  | cons step rest ih =>
      have hstep := (o.delivered_act step).append_right (((o.act step).tale rest).flatMap Notice.parcels)
      rw [posted, tale, List.flatMap_append, List.append_assoc, ← List.append_assoc o.outgoing]
      rw [List.append_assoc] at hstep
      exact ((ih (o.act step)).append_left _).trans hstep

/-- **In the order in which the session has changed**, if none overtakes one of an earlier tray. -/
theorem delivered_of_inTurn (h : o.InTurn steps) :
    o.posted steps ++ (o.run steps).outgoing = o.outgoing ++ (o.tale steps).flatMap Notice.parcels := by
  induction steps generalizing o with
  | nil => exact (List.append_nil _).symm
  | cons step rest ih =>
      cases step with
      | change m =>
          -- Its tray is the last one, and so its messages come after all others.
          have hrest := ih (o := o.act (.change m)) h
          rw [posted, tale, List.flatMap_append, ← List.append_assoc o.outgoing]
          refine hrest.trans ?_
          simp only [act, told, outgoing, Desk.parcels, List.flatten_append, List.flatten_singleton]
      | post k =>
          obtain ⟨hfirst, hlater⟩ := h
          have hrest := ih hlater
          have htold : o.tale (.post k :: rest) = (o.act (.post k)).tale rest := rfl
          rw [posted, htold, List.append_assoc]
          -- The trays before this one are empty, so that its first message is the first of all.
          refine (congrArg ((o.sent? (.post k)).toList ++ ·) hrest).trans ?_
          rw [← List.append_assoc]
          refine congrArg (· ++ _) ?_
          simp only [sent?, act, outgoing]
          cases htray : o.tray k with
          | nil => rfl
          | cons p rest =>
              obtain ⟨hall, hset⟩ := flatten_trays o.trays htray
              simp only [List.head?_cons, Option.toList_some, hall, hset, hfirst, List.nil_append]
              rfl

/-- **The channels have what has gone out.** -/
theorem channels_run (o : Office) (steps : List Step) :
    (o.run steps).desk.adapter.notices =
        o.desk.adapter.notices.sendAll ((o.posted steps).filterMap Parcel.notice?) ∧
      (o.run steps).desk.adapter.connectivity =
        o.desk.adapter.connectivity.sendAll ((o.posted steps).filterMap Parcel.connectivity?) := by
  induction steps generalizing o with
  | nil => exact ⟨rfl, rfl⟩
  | cons step rest ih =>
      obtain ⟨hnotices, hconnectivity⟩ := ih (o.act step)
      have hrun : o.run (step :: rest) = (o.act step).run rest := rfl
      rw [hrun, hnotices, hconnectivity, posted]
      cases step with
      | change m => exact ⟨rfl, rfl⟩
      | post k =>
          simp only [act, sent?]
          cases o.tray k with
          | nil => exact ⟨rfl, rfl⟩
          | cons p rest =>
              cases p with
              | connectivity e => exact ⟨rfl, rfl⟩
              | notice n => exact ⟨rfl, rfl⟩

/-! ## One thread -/

/-- **The steps of a thread that runs all tasks**: each move is followed by the messages for it, before anything else
happens. -/
def prompt : Desk → Nat → List Move → List Step
  | _, _, [] => []
  | d, tray, m :: rest =>
    .change m :: (List.replicate (d.parcels m).length (.post tray) ++ prompt (d.act m) (tray + 1) rest)

theorem act_post_last (d : Desk) (trays : List (List Parcel)) (p : Parcel) (rest : List Parcel) :
    act ⟨d, trays ++ [p :: rest]⟩ (.post trays.length) = ⟨{ d with adapter := d.adapter.post p }, trays ++ [rest]⟩ := by
  simp [act, tray]

/-- The last tray is emptied. -/
theorem run_posts (d : Desk) (trays : List (List Parcel)) (ps : List Parcel) :
    run ⟨d, trays ++ [ps]⟩ (List.replicate ps.length (.post trays.length)) =
      ⟨{ d with adapter := ps.foldl Adapter.post d.adapter }, trays ++ [[]]⟩ := by
  induction ps generalizing d with
  | nil => rfl
  | cons p rest ih =>
      rw [List.length_cons, List.replicate_succ, run, List.foldl_cons, act_post_last]
      exact ih _

theorem tale_posts (o : Office) (k n : Nat) : o.tale (List.replicate n (.post k)) = [] := by
  induction n generalizing o with
  | zero => rfl
  | succ n ih => exact ih (o.act (.post k))

theorem orderly_posts (o : Office) (k n : Nat) : o.Orderly (List.replicate n (.post k)) := by
  induction n generalizing o with
  | zero => trivial
  | succ n ih => exact ih (o.act (.post k))

/-- Nothing is overtaken where only the last tray is not empty. -/
theorem inTurn_posts {trays : List (List Parcel)} (hempty : trays.flatten = []) (d : Desk) (ps : List Parcel) :
    InTurn ⟨d, trays ++ [ps]⟩ (List.replicate ps.length (.post trays.length)) := by
  induction ps generalizing d with
  | nil => trivial
  | cons p rest ih =>
      refine ⟨by rw [List.take_left, hempty], ?_⟩
      rw [act_post_last]
      exact ih _

/-- **On one thread a move and its messages are one.** The steps come to what the moves come to, with the same to tell.
No message overtakes another, and all have gone out. -/
theorem run_prompt {trays : List (List Parcel)} (hempty : trays.flatten = []) (d : Desk) (moves : List Move) :
    (run ⟨d, trays⟩ (prompt d trays.length moves)).desk = d.run moves ∧
      tale ⟨d, trays⟩ (prompt d trays.length moves) = d.tale moves ∧
      (run ⟨d, trays⟩ (prompt d trays.length moves)).outgoing = [] ∧
      InTurn ⟨d, trays⟩ (prompt d trays.length moves) ∧
      (d.Orderly moves → Orderly ⟨d, trays⟩ (prompt d trays.length moves)) := by
  induction moves generalizing d trays with
  | nil => exact ⟨rfl, rfl, hempty, trivial, fun _ => trivial⟩
  | cons m rest ih =>
      have hempty' : (trays ++ [[]]).flatten = [] := by simpa using hempty
      obtain ⟨hdesk, htale, houtgoing, hinTurn, horderly⟩ := ih hempty' (d.act m)
      have hlength : (trays ++ [[]]).length = trays.length + 1 := List.length_append
      rw [hlength] at hdesk htale houtgoing hinTurn horderly
      -- The steps for the first move, and what they come to.
      let posts : List Step := List.replicate (d.parcels m).length (.post trays.length)
      have hrun : run ⟨d, trays⟩ (.change m :: posts) = ⟨d.act m, trays ++ [[]]⟩ := by
        have hposts := run_posts (d.enter m) trays (d.parcels m)
        rw [d.posted_enter m] at hposts
        exact hposts
      have htold : tale ⟨d, trays⟩ (.change m :: posts) = d.told m := by
        rw [tale, tale_posts, List.append_nil]
        rfl
      have hturn : InTurn ⟨d, trays⟩ (.change m :: posts) := inTurn_posts hempty (d.enter m) (d.parcels m)
      have hsplit : prompt d trays.length (m :: rest) =
          (.change m :: posts) ++ prompt (d.act m) (trays.length + 1) rest := rfl
      rw [hsplit, run_append, tale_append, hrun, htold, htale]
      refine ⟨hdesk, rfl, houtgoing, inTurn_append hturn (hrun ▸ hinTurn), fun horder => ?_⟩
      have hfirst : Orderly ⟨d, trays⟩ (.change m :: posts) := ⟨horder.1, orderly_posts ..⟩
      exact orderly_append hfirst (hrun ▸ horderly horder.2)

/-! ## What subscribers hear -/

theorem heard_act {last : Option Notice} (h : o.desk.Heard last) {m : Move}
    (hfree : m.isDisconnect = true → o.desk.isLeaving = false) :
    (o.act (.change m)).desk.Heard ((Notice.lastChange (o.desk.told m)).or last) :=
  have hmoved := Desk.heard_act h hfree
  ⟨hmoved.fits, hmoved.restorable, hmoved.single, hmoved.apart⟩

/-- No message changes the session or a call. -/
theorem heard_post {last : Option Notice} (h : o.desk.Heard last) (k : Nat) : (o.act (.post k)).desk.Heard last := by
  simp only [act]
  split
  · exact h
  · next p rest _ =>
    cases p with
    | connectivity e => exact ⟨h.fits, h.restorable, h.single, h.apart⟩
    | notice n => exact ⟨h.fits, h.restorable, h.single, h.apart⟩

/-- **What there is to tell fits the state**, in the order in which the session has changed. -/
theorem heard_run {last : Option Notice} (h : o.desk.Heard last) (horderly : o.Orderly steps) :
    (o.run steps).desk.Heard ((Notice.lastChange (o.tale steps)).or last) := by
  induction steps generalizing o last with
  | nil => exact h
  | cons step rest ih =>
      rw [tale, Notice.lastChange_append, Option.or_assoc]
      cases step with
      | change m =>
          obtain ⟨hfree, hrest⟩ := horderly
          exact ih (heard_act h hfree) hrest
      | post k => exact ih (heard_post h k) horderly

/-- **What subscribers have heard last fits the state, and the channels agree.** -/
def Heeded (o : Office) (steps : List Step) : Prop :=
  ((o.run steps).desk.state = .connected →
    ∃ details, Notice.lastChange ((o.posted steps).filterMap Parcel.notice?) = some (.connected details)) ∧
  ((o.run steps).desk.state = .error →
    ∃ status, Notice.lastChange ((o.posted steps).filterMap Parcel.notice?) = some (.failed status)) ∧
  (o.posted steps).filterMap Parcel.connectivity? =
    ((o.posted steps).filterMap Parcel.notice?).filterMap Notice.connectivity?

/-- **What subscribers hear of an office.** -/
structure Outspoken (o : Office) (steps : List Step) : Prop where
  /-- In the order in which the session has changed, the last notice about connectivity says that it is connected, if it
  is, -/
  connected : (o.run steps).desk.state = .connected →
    ∃ details, Notice.lastChange (o.tale steps) = some (.connected details)
  /-- or that it is in error. -/
  failed : (o.run steps).desk.state = .error → ∃ status, Notice.lastChange (o.tale steps) = some (.failed status)
  /-- Whoever hears that the session is connected hears of a change that has taken it there, with the network of that
  moment. -/
  joined : ∀ details, .notice (.connected details) ∈ o.posted steps →
    ∃ first m last, steps = first ++ .change m :: last ∧ (o.run first).desk.state ≠ .connected ∧
      ((o.run first).act (.change m)).desk.adapter.session.state = .connected ∧
      ((o.run first).act (.change m)).desk.adapter.session.details = some details
  /-- Every notice goes out once on its channel, and once on the channel of connectivity if it is about that. -/
  once : (o.posted steps ++ (o.run steps).outgoing).Perm ((o.tale steps).flatMap Notice.parcels)
  /-- Both channels have what has gone out, in order. -/
  notices : (o.run steps).desk.adapter.notices =
    o.desk.adapter.notices.sendAll ((o.posted steps).filterMap Parcel.notice?)
  connectivity : (o.run steps).desk.adapter.connectivity =
    o.desk.adapter.connectivity.sendAll ((o.posted steps).filterMap Parcel.connectivity?)
  /-- If no message overtakes one of an earlier tray, then whenever all trays are empty, what subscribers have heard last
  fits the state, and the channel of connectivity has had what is about connectivity on the other one, in order. -/
  inTurn : o.InTurn steps → (o.run steps).outgoing = [] → o.Heeded steps

theorem outspoken_of_heard (h : o.desk.Heard none) (htrays : o.outgoing = []) (horderly : o.Orderly steps) :
    o.Outspoken steps := by
  have hheard := heard_run h horderly
  rw [Option.or_none] at hheard
  have honce := o.delivered steps
  rw [htrays, List.nil_append] at honce
  refine
    { connected := hheard.fits.connected
      failed := hheard.fits.failed
      joined := fun details hposted => ?_
      once := honce
      notices := (o.channels_run steps).1
      connectivity := (o.channels_run steps).2
      inTurn := fun hinTurn hempty => ?_ }
  · -- The message stands for a notice, which comes from a change.
    have hmem : .notice (.connected details) ∈ (o.tale steps).flatMap Notice.parcels :=
      honce.subset (List.mem_append_left _ hposted)
    have htold : Notice.connected details ∈ o.tale steps := by
      rw [← Notice.notice?_parcels (o.tale steps)]
      exact List.mem_filterMap.mpr ⟨_, hmem, rfl⟩
    obtain ⟨first, m, last, hsplit, hnow⟩ := exists_change htold
    exact ⟨first, m, last, hsplit, Desk.connected_told hnow⟩
  · -- What has been posted is what there was to tell, message by message.
    have hposted := delivered_of_inTurn hinTurn
    rw [hempty, htrays, List.append_nil, List.nil_append] at hposted
    rw [Heeded, hposted, Notice.notice?_parcels, Notice.connectivity?_parcels]
    exact ⟨hheard.fits.connected, hheard.fits.failed, rfl⟩

/-- **Connected and error are never entered in silence.** Take a new adapter whose disconnects follow each other, with
any number of tasks that change the session and publish their notices afterwards, message by message. In the order of the
changes, the last notice about connectivity says that the session is connected, or in error, whenever it is. Every notice
goes out once. What subscribers hear fits the state as well whenever nothing is outgoing, unless a message has overtaken
one for an earlier change; and on one thread none does. -/
theorem outspoken_of_created {config : WirelessConfig} {runtime : Bool} {wall : Nat} {a : Adapter}
    (ha : Adapter.create config runtime wall = .ok a) :
    (∀ steps, (idle a).Orderly steps → (idle a).Outspoken steps) ∧
    ∀ moves, ((idle a).run (prompt (.idle a) 0 moves)).desk = (Desk.idle a).run moves ∧
      (idle a).tale (prompt (.idle a) 0 moves) = (Desk.idle a).tale moves ∧
      ((idle a).run (prompt (.idle a) 0 moves)).outgoing = [] ∧ (idle a).InTurn (prompt (.idle a) 0 moves) ∧
      ((Desk.idle a).Orderly moves → (idle a).Orderly (prompt (.idle a) 0 moves)) := by
  refine ⟨fun steps horderly => ?_, @run_prompt [] rfl (.idle a)⟩
  exact outspoken_of_heard (Desk.heard_idle (Desk.session_of_create ha)) rfl horderly

/-! ### Messages that overtake others -/

/-- The coprocessor says that a network was joined. -/
def joins : Move := .event ⟨.connected, .completed, Course.network.encode⟩ 0

/-- The network is joined, and subscribers hear of it; a disconnect succeeds; and the network is joined once more.
Nothing has gone out for the last two changes. -/
def rejoined : List Step :=
  [.change joins, .post 0, .post 0, .change (.ask (.disconnect false) 10 false),
    .change (.turn 0 20 false (some (.ok ⟨.completed, []⟩))), .change joins]

/-- The messages for the last change go out first. -/
def overtaken : List Step := rejoined ++ [.post 3, .post 3, .post 2, .post 2]

/-- They overtake on one channel only. -/
def crossed : List Step := rejoined ++ [.post 3, .post 2, .post 2, .post 3]

theorem outspoken_of_created_overtaken :
    Adapter.create {} true 0 = .ok Course.radio ∧ (idle Course.radio).Orderly overtaken ∧
      (idle Course.radio).Outspoken overtaken ∧
      (idle Course.radio).tale overtaken = [.connected Course.network, .disconnected, .connected Course.network] := by
  have ha : Adapter.create {} true 0 = .ok Course.radio := rfl
  have horderly : (idle Course.radio).Orderly overtaken := by decide
  exact ⟨ha, horderly, (outspoken_of_created ha).1 overtaken horderly, rfl⟩

/-- The network is joined, and the coprocessor sets its clock many times. -/
def flood : List Move := joins :: List.replicate 32 (.event ⟨.timeUpdated, .completed, []⟩ 1)

/-- **They need not**, though one disconnect is asked for and nothing is outgoing: a session that is connected tells last
that it is disconnected, or the channels differ in order. And on one thread a subscriber that does not read in time loses
the notice that its session is connected, while the other channel still has the change. -/
theorem not_heeded_crossed :
    ((idle Course.radio).Orderly overtaken ∧ ((idle Course.radio).run overtaken).outgoing = [] ∧
      ((idle Course.radio).run overtaken).desk.state = .connected ∧
      Notice.lastChange (((idle Course.radio).posted overtaken).filterMap Parcel.notice?) = some .disconnected ∧
      ¬ (idle Course.radio).Heeded overtaken) ∧
    ((idle Course.radio).Orderly crossed ∧ ((idle Course.radio).run crossed).outgoing = [] ∧
      ((idle Course.radio).posted crossed).filterMap Parcel.connectivity? = [.connected, .connected, .disconnected] ∧
      ((idle Course.radio).posted crossed).filterMap Parcel.notice? =
        [.connected Course.network, .disconnected, .connected Course.network] ∧
      ¬ (idle Course.radio).Heeded crossed) ∧
    (((Desk.idle Course.radio).run flood).adapter.notices.drain 0 =
        .lagged 1 :: List.replicate 32 (.entry .timeChanged) ∧
      ((Desk.idle Course.radio).run flood).adapter.connectivity.drain 0 = [.entry .connected]) := by
  refine ⟨⟨by decide, rfl, rfl, rfl, fun h => ?_⟩, ⟨by decide, rfl, rfl, rfl, fun h => ?_⟩, rfl, rfl⟩
  · obtain ⟨details, hlast⟩ := h.1 rfl
    have hheard : some Notice.disconnected = some (.connected details) := hlast
    exact Notice.noConfusion (Option.some.inj hheard)
  · have hsame : [Network.Event.connected, .connected, .disconnected] = [.connected, .disconnected, .connected] := h.2.2
    contradiction

end Office

end Peripherals.Coprocessor
