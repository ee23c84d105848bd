import Mathlib.Data.List.Forall2
import Mathlib.Data.List.Induction
import Mathlib.Data.List.ReduceOption
import Peripherals.Converter
import Peripherals.Proofs.Hardware.Faults

/-!
# `Proofs.Hardware.Scripts` — a simulated driver serves its scripts in order

What a simulated driver answers is scripted beforehand: codes for the calls of an operation, replies of a two-wire
address, replies on the four-wire bus, and readings of a pin. All of them are kept in one state, and one call looks at
several of them. Yet each script is served as if it were alone.

A `Tape` says how: what is scripted is written at its end, and nothing that was written is ever changed; a head moves
along it, one value at a time. A `Feed` says what is written and what moves the head, from what can be seen of the
driver: the deeds and the answers. A queue of the driver is what its tape has left, since each deed does to the queue
what it does to the tape (`Simulated.FedBy`): `fedBy_faults`, `fedBy_twoWire`, `fedBy_fourWire`, `fedBy_readings`.

* `Tape`, `Feed` — scripts by themselves;
* `Simulated.Deed`, `Simulated.after`, `Simulated.seen` — what is done to a driver, and what is seen of it;
* `Simulated.holds_after` — what every deed preserves holds after every history;
* `Simulated.FedBy.queue_after`, `Simulated.FedBy.handedOut` — so does what is said of a queue;
* `Simulated.Faithful`, `Simulated.faithful_after` — every answer is the one that is scripted.
-/

namespace Peripherals.Driver

/-! ## Tapes -/

/-- **Values in the order in which they were written**, of which the first have been passed by the head. -/
structure Tape (α : Type) where
  written : List α
  read : Nat
  read_le : read ≤ written.length

namespace Tape

variable {α : Type}

theorem zero_le_length_nil : 0 ≤ ([] : List α).length := Nat.le_refl 0

def blank : Tape α := ⟨[], 0, zero_le_length_nil⟩

/-- The value at the head. -/
def next? (t : Tape α) : Option α := t.written[t.read]?

/-- What the head has not passed yet. -/
def rest (t : Tape α) : List α := t.written.drop t.read

/-- Writes values at the end. -/
def write (t : Tape α) (values : List α) : Tape α :=
  ⟨t.written ++ values, t.read, Nat.le_trans t.read_le (by simp)⟩

/-- Moves the head on by one value, unless no more than `kept` are left. -/
def advance (kept : Nat) (t : Tape α) : Tape α :=
  if h : t.read + kept < t.written.length then ⟨t.written, t.read + 1, by omega⟩ else t

variable {t : Tape α} {values : List α} {kept : Nat}

theorem head?_rest : t.rest.head? = t.next? := List.head?_drop

theorem length_rest : t.rest.length = t.written.length - t.read := List.length_drop

theorem rest_write : (t.write values).rest = t.rest ++ values := List.drop_append_of_le_length t.read_le

theorem written_advance : (t.advance kept).written = t.written := by
  unfold advance
  split
  · rfl
  · rfl

/-- The values without the first, unless no more than `kept` are left. -/
def dropFirst (kept : Nat) (values : List α) : List α := if kept < values.length then values.tail else values

theorem dropFirst_zero : dropFirst 0 values = values.tail := by
  cases values with
  | nil => rfl
  | cons a values => exact if_pos (Nat.zero_lt_succ _)

theorem rest_advance : (t.advance kept).rest = dropFirst kept t.rest := by
  have hread := t.read_le
  have hlength := t.length_rest
  unfold advance dropFirst
  split
  · next h => rw [if_pos (by omega), rest, rest, List.tail_drop]
  · next h => rw [if_neg (by omega)]

/-- A tape with something on it has something left. -/
def Holding (t : Tape α) : Prop := t.rest = [] → t.written = []

theorem holding_blank : (blank : Tape α).Holding := fun _ => rfl

theorem Holding.write (h : t.Holding) : (t.write values).Holding := by
  intro hrest
  rw [rest_write] at hrest
  obtain ⟨hrest, hvalues⟩ := List.append_eq_nil_iff.mp hrest
  exact List.append_eq_nil_iff.mpr ⟨h hrest, hvalues⟩

/-- If something is kept, the head does not come to the end. -/
theorem Holding.advance (h : t.Holding) (hkept : 0 < kept) : (t.advance kept).Holding := by
  intro hrest
  rw [rest_advance, dropFirst] at hrest
  rw [written_advance]
  split at hrest
  · next hmore =>
    have hlength := congrArg List.length hrest
    rw [List.length_tail, List.length_nil] at hlength
    omega
  · exact h hrest

theorem Holding.exists_next (h : t.Holding) (hwritten : t.written ≠ []) : ∃ a, t.next? = some a := by
  rw [← head?_rest]
  exact Option.isSome_iff_exists.mp (List.isSome_head?.mpr fun hrest => hwritten (h hrest))

end Tape

/-- **How a tape is fed** by what happens: what is written at its end, and what makes its head move on. -/
structure Feed (ε α : Type) where
  puts : ε → List α
  takes : ε → Bool
  /-- The number of values that stay at the end. -/
  kept : Nat := 0

namespace Feed

variable {ε α : Type} (feed : Feed ε α)

/-- The tape after one more event. -/
def move (t : Tape α) (e : ε) : Tape α := (if feed.takes e then t.advance feed.kept else t).write (feed.puts e)

/-- **The tape after some events.** -/
def tape (events : List ε) : Tape α := events.foldl feed.move .blank

/-- What an event leaves of a queue that holds what its tape has left. -/
def serve (queue : List α) (e : ε) : List α := if feed.takes e then Tape.dropFirst feed.kept queue else queue

variable {feed} {events : List ε} {e : ε} {queue : List α}

theorem tape_snoc : feed.tape (events ++ [e]) = feed.move (feed.tape events) e := by
  rw [tape, List.foldl_append, List.foldl_cons, List.foldl_nil, ← tape]

theorem rest_tape_snoc :
    (feed.tape (events ++ [e])).rest = feed.serve (feed.tape events).rest e ++ feed.puts e := by
  rw [tape_snoc, move, Tape.rest_write, serve]
  cases htakes : feed.takes e with
  | false => rfl
  | true => rw [if_pos rfl, if_pos rfl, Tape.rest_advance]

theorem holding_tape (hkept : 0 < feed.kept) : (feed.tape events).Holding := by
  induction events using List.reverseRecOn with
  | nil => exact Tape.holding_blank
  | append_singleton events e ih =>
    rw [tape_snoc, move]
    split
    · exact (ih.advance hkept).write
    · exact ih.write

/-- **Everything that was put in was handed out or is left**, each value once and in order. Whatever takes a value is
answered with it, if there is one: `shows e a` says that the answer to `e` is `a`. -/
def HandedOut (feed : Feed ε α) (shows : ε → Option α → Prop) (events : List ε) (left : List α) : Prop :=
  ∃ answers, List.Forall₂ shows (events.filter feed.takes) answers ∧
    answers.reduceOption ++ left = events.flatMap feed.puts

variable {shows : ε → Option α → Prop}

theorem handedOut_nil : feed.HandedOut shows [] [] := ⟨[], .nil, rfl⟩

theorem HandedOut.snoc (h : feed.HandedOut shows events queue) (hkept : feed.kept = 0)
    (hshows : feed.takes e → shows e queue.head?) :
    feed.HandedOut shows (events ++ [e]) (feed.serve queue e ++ feed.puts e) := by
  obtain ⟨answers, hanswers, hsame⟩ := h
  rw [HandedOut, List.filter_append, List.flatMap_append, List.flatMap_singleton, ← hsame, serve]
  cases htakes : feed.takes e with
  | false =>
    rw [List.filter_cons_of_neg (by simp [htakes]), List.filter_nil, List.append_nil, if_neg Bool.false_ne_true]
    exact ⟨answers, hanswers, (List.append_assoc _ _ _).symm⟩
  | true =>
    -- What is handed out is the first of what was left, or nothing if nothing was.
    rw [List.filter_cons_of_pos htakes, List.filter_nil, if_pos rfl, hkept, Tape.dropFirst_zero]
    refine ⟨answers ++ [queue.head?], List.rel_append hanswers (.cons (hshows htakes) .nil), ?_⟩
    rw [← List.concat_eq_append, List.reduceOption_concat]
    cases queue with
    | nil => simp
    | cons a queue => simp

end Feed

namespace Simulated

/-! ## Histories -/

/-- What can be done to a simulated driver: it is called, or told what to do later. -/
inductive Deed where
  | call (c : Call)
  | addDevice (address : UInt16)
  | queueTwoWire (address : UInt16) (reply : Bytes)
  | queueFourWire (reply : Bytes)
  | queueReadings (key : UInt16) (values : List UInt32)
  | setLevel (key : UInt16) (level : Bool)
  | injectFault (opcode : Opcode) (code : Int32)
  | clearRecords
  deriving DecidableEq

/-- A driver after a deed. -/
def undergo (s : Simulated) : Deed → Simulated
  | .call c => (s.call c).2
  | .addDevice address => s.addDevice address
  | .queueTwoWire address reply => s.queueTwoWire address reply
  | .queueFourWire reply => s.queueFourWire reply
  | .queueReadings key values => s.queueReadings key values
  | .setLevel key level => s.setLevel key level
  | .injectFault opcode code => s.injectFault opcode code
  | .clearRecords => s.clearRecords

/-- **What is seen of a deed**: only calls are answered. -/
abbrev Event := Deed × Option Reply

def event (s : Simulated) : Deed → Event
  | .call c => (.call c, some (s.call c).1)
  | d => (d, none)

/-- A driver after one deed and another. -/
def after (s : Simulated) (history : List Deed) : Simulated := history.foldl undergo s

/-- What is seen of one deed and another. -/
def seen (s : Simulated) : List Deed → List Event
  | [] => []
  | d :: history => s.event d :: (s.undergo d).seen history

variable {s : Simulated} {d : Deed} {history : List Deed} {c : Call} {o : Opcode}

theorem after_snoc : s.after (history ++ [d]) = (s.after history).undergo d := by
  rw [after, List.foldl_append, List.foldl_cons, List.foldl_nil, ← after]

theorem seen_snoc : s.seen (history ++ [d]) = s.seen history ++ [(s.after history).event d] := by
  induction history generalizing s with
  | nil => rfl
  | cons d' history ih =>
    rw [List.cons_append, seen, ih]
    rfl

theorem addDevice_eq (s : Simulated) (address : UInt16) :
    ∃ devices, s.addDevice address = { s with devices } ∧ ∀ a, a ∈ devices ↔ a ∈ s.devices ∨ a = address := by
  unfold addDevice
  split
  · next hknown =>
    refine ⟨s.devices, rfl, fun a => ⟨.inl, fun h => h.elim id fun heq => heq ▸ hknown⟩⟩
  · exact ⟨_, rfl, fun a => by simp⟩

/-- Whether a deed makes a device answer at an address. -/
def Deed.adds (address : UInt16) : Deed → Bool
  | .addDevice address' => address' = address
  | .queueTwoWire address' _ => address' = address
  | _ => false

/-- A driver after a deed, without the devices that answer. Calls are left out. -/
def scripted (s : Simulated) : Deed → Simulated
  | .queueTwoWire address reply =>
    { s with twoWireReplies := s.twoWireReplies.set address (s.twoWireReplies.getD address [] ++ [reply]) }
  | .queueFourWire reply => s.queueFourWire reply
  | .queueReadings key values => s.queueReadings key values
  | .setLevel key level => s.setLevel key level
  | .injectFault opcode code => s.injectFault opcode code
  | .clearRecords => s.clearRecords
  | _ => s

/-- **A deed is a call, or a change to the scripts.** -/
theorem undergo_cases (s : Simulated) (d : Deed) :
    (∃ c, d = .call c) ∨ s.event d = (d, none) ∧
      ∃ devices, s.undergo d = { s.scripted d with devices } ∧ ∀ a, a ∈ devices ↔ a ∈ s.devices ∨ d.adds a := by
  cases d with
  | call c => exact .inl ⟨c, rfl⟩
  | addDevice address =>
    obtain ⟨devices, heq, hdevices⟩ := s.addDevice_eq address
    exact .inr ⟨rfl, devices, heq, fun a => by simp [hdevices, Deed.adds, eq_comm]⟩
  | queueTwoWire address reply =>
    obtain ⟨devices, heq, hdevices⟩ := s.addDevice_eq address
    refine .inr ⟨rfl, devices, ?_, fun a => by simp [hdevices, Deed.adds, eq_comm]⟩
    rw [undergo, queueTwoWire, heq]
    rfl
  | _ => exact .inr ⟨rfl, s.devices, rfl, fun a => by simp [Deed.adds]⟩

/-- No fault is injected with the code zero, which makes a call succeed that has done nothing. -/
def Deed.Honest : Deed → Prop
  | .injectFault _ code => code ≠ 0
  | _ => True

/-- No call will be answered with zero before it has done anything. -/
def AllCandid (s : Simulated) : Prop := ∀ o, s.Candid o

theorem allCandid_empty : empty.AllCandid := fun _ _ hcode => absurd hcode List.not_mem_nil

theorem AllCandid.undergo (h : s.AllCandid) (hhonest : d.Honest) : (s.undergo d).AllCandid := by
  intro o
  rcases s.undergo_cases d with ⟨c, rfl⟩ | ⟨-, devices, heq, -⟩
  · exact (h o).call c
  · rw [heq]
    show (s.scripted d).Candid o
    cases d with
    | injectFault o' code => exact (h o).injectFault hhonest
    | _ => exact h o

theorem AllCandid.after (hhonest : ∀ d ∈ history, d.Honest) : (empty.after history).AllCandid := by
  induction history using List.reverseRecOn with
  | nil => exact allCandid_empty
  | append_singleton history d ih =>
    rw [after_snoc]
    exact (ih fun d' hd' => hhonest d' (List.mem_append_left _ hd')).undergo (hhonest d (by simp))

/-- **What every deed preserves holds after every history**, if it holds of a driver on which nothing has happened. -/
theorem holds_after {P : List Event → Simulated → Prop} (hstart : P [] empty)
    (hstep : ∀ events s d, s.AllCandid → P events s → P (events ++ [s.event d]) (s.undergo d))
    (hhonest : ∀ d ∈ history, d.Honest) : P (empty.seen history) (empty.after history) := by
  induction history using List.reverseRecOn with
  | nil => exact hstart
  | append_singleton history d ih =>
    have hbefore : ∀ d' ∈ history, d'.Honest := fun d' hd' => hhonest d' (List.mem_append_left _ hd')
    rw [seen_snoc, after_snoc]
    exact hstep _ _ d (AllCandid.after hbefore) (ih hbefore)

/-! ## Calls -/

/-- **A call meets a fault and fails, or does what it is for.** -/
theorem call_cases (hcandid : s.Candid c.opcode) :
    ((s.call c).1.status ≠ 0 ∧ s.Still (s.call c).2) ∨
      (s.faults.getD c.opcode [] = [] ∧
        ∃ s' records, Performed s c (s.call c).1 s' ∧ (s.call c).2 = { s' with records }) := by
  cases hfaults : s.faults.getD c.opcode [] with
  | nil =>
    rw [call_of_no_fault hfaults]
    exact .inr ⟨rfl, _, _, s.performed c, rfl⟩
  | cons code rest =>
    have hstatus : (s.call c).1.status ≠ 0 := by
      rw [call, answer, hfaults]
      exact hcandid code (hfaults ▸ List.mem_cons_self)
    exact .inl ⟨hstatus, still_of_failure hstatus⟩

/-! ## Queues as what is left of tapes -/

/-- The list of one key grows, and the others stay. -/
theorem getD_set_append {κ α : Type} [DecidableEq κ] {t : Table κ (List α)} {k k' : κ} {added : List α} :
    (t.set k (t.getD k [] ++ added)).getD k' [] = t.getD k' [] ++ if k = k' then added else [] := by
  rw [Table.getD_set]
  split
  · next heq => rw [heq]
  · rw [List.append_nil]

/-- **A queue of the driver is fed like this**: each deed does to it what it does to the tape. -/
structure FedBy {α : Type} (queue : Simulated → List α) (feed : Feed Event α) : Prop where
  start : queue empty = []
  step : ∀ (s : Simulated) (d : Deed), s.AllCandid →
    queue (s.undergo d) = feed.serve (queue s) (s.event d) ++ feed.puts (s.event d)

variable {α : Type} {queue : Simulated → List α} {feed : Feed Event α}

/-- **A queue is what its tape has left**, after every history. -/
theorem FedBy.queue_after (h : FedBy queue feed) (hhonest : ∀ d ∈ history, d.Honest) :
    queue (empty.after history) = (feed.tape (empty.seen history)).rest := by
  refine holds_after (P := fun events s => queue s = (feed.tape events).rest) h.start ?_ hhonest
  intro events s d hcandid ih
  rw [h.step s d hcandid, ih, Feed.rest_tape_snoc]

/-- **Nothing that is queued is lost**, if every call that takes a value is answered with the first in the queue. -/
theorem FedBy.handedOut {shows : Event → Option α → Prop} (h : FedBy queue feed) (hkept : feed.kept = 0)
    (hshows : ∀ (s : Simulated) (d : Deed), s.AllCandid → feed.takes (s.event d) → shows (s.event d) (queue s).head?)
    (hhonest : ∀ d ∈ history, d.Honest) :
    feed.HandedOut shows (empty.seen history) (queue (empty.after history)) := by
  refine holds_after (P := fun events s => feed.HandedOut shows events (queue s)) ?_ ?_ hhonest
  · exact h.start ▸ Feed.handedOut_nil
  · intro events s d hcandid ih
    rw [h.step s d hcandid]
    exact ih.snoc hkept (hshows s d hcandid)

/-- A feed from which calls take that succeed. -/
def scriptFeed (puts : Deed → List α) (takes : Call → Bool) (kept : Nat) : Feed Event α where
  puts e := puts e.1
  takes
    | (.call c, some r) => takes c && r.status == 0
    | _ => false
  kept := kept

variable {puts : Deed → List α} {takes : Call → Bool} {kept : Nat}

theorem scriptFeed_takes {r : Reply} :
    (scriptFeed puts takes kept).takes (.call c, some r) ↔ takes c ∧ r.status = 0 := by
  simp [scriptFeed]

theorem scriptFeed_not_takes : ¬ (scriptFeed puts takes kept).takes (d, none) := by
  cases d with
  | call c => exact Bool.false_ne_true
  | _ => exact Bool.false_ne_true

/-- The script is right about a queue if it is about the calls that do what they are for, and about the other deeds.
Nothing has to be said of calls that fail. -/
theorem fedBy_script (hstart : queue empty = [])
    (hframe : ∀ (s : Simulated) devices faults records, queue { s with devices, faults, records } = queue s)
    (hscripted : ∀ (s : Simulated) d, queue (s.scripted d) = queue s ++ puts d)
    (hperformed : ∀ s c r s', Performed s c r s' →
      queue s' = if takes c ∧ r.status = 0 then Tape.dropFirst kept (queue s) else queue s) :
    FedBy queue (scriptFeed puts takes kept) := by
  refine ⟨hstart, fun s d hcandid => ?_⟩
  rcases s.undergo_cases d with ⟨c, rfl⟩ | ⟨hevent, devices, heq, -⟩
  · -- A call puts nothing in, since it leaves the scripts as they are.
    have hputs : puts (.call c) = [] := List.self_eq_append_right.mp (hscripted s (.call c))
    show queue (s.call c).2 =
      (scriptFeed puts takes kept).serve (queue s) (.call c, some (s.call c).1) ++ puts (.call c)
    rw [hputs, List.append_nil]
    rcases call_cases (hcandid c.opcode) with ⟨hstatus, faults, records, hstill⟩ | ⟨-, s', records, hcall, hs'⟩
    · rw [hstill, Feed.serve, if_neg fun h => hstatus (scriptFeed_takes.mp h).2]
      exact hframe s s.devices faults records
    · have hqueue := (hframe s' s'.devices s'.faults records).trans (hperformed _ _ _ _ hcall)
      rw [hs', Feed.serve]
      exact hqueue.trans (if_congr scriptFeed_takes.symm rfl rfl)
  · have hqueue := (hframe (s.scripted d) devices (s.scripted d).faults (s.scripted d).records).trans (hscripted s d)
    rw [hevent, heq, Feed.serve, if_neg scriptFeed_not_takes]
    exact hqueue

/-! ### Faults -/

/-- The codes that are injected for an operation; every call of it takes one. -/
def faultFeed (o : Opcode) : Feed Event Int32 where
  puts
    | (.injectFault o' code, _) => if o' = o then [code] else []
    | _ => []
  takes
    | (.call c, _) => c.opcode = o
    | _ => false

theorem faults_undergo (s : Simulated) (d : Deed) (o : Opcode) :
    (s.undergo d).faults.getD o [] =
      (faultFeed o).serve (s.faults.getD o []) (s.event d) ++ (faultFeed o).puts (s.event d) := by
  rcases s.undergo_cases d with ⟨c, rfl⟩ | ⟨hevent, devices, heq, -⟩
  · show (s.call c).2.faults.getD o [] = (if decide (c.opcode = o) then Tape.dropFirst 0 _ else _) ++ []
    rw [faults_call, List.append_nil, Tape.dropFirst_zero]
    exact if_congr (eq_comm.trans decide_eq_true_iff.symm) rfl rfl
  · rw [hevent, heq]
    cases d with
    | call c => nomatch hevent
    | injectFault o' code => exact getD_set_append
    | _ => exact (List.append_nil _).symm

theorem fedBy_faults (o : Opcode) : FedBy (fun s => s.faults.getD o []) (faultFeed o) :=
  ⟨rfl, fun s d _ => s.faults_undergo d o⟩

/-! ### Replies of two-wire devices -/

/-- The replies of a two-wire device; a read takes one. -/
def twoWireFeed (address : UInt16) : Feed Event Bytes :=
  scriptFeed
    (fun
      | .queueTwoWire address' reply => if address' = address then [reply] else []
      | _ => [])
    (fun c => c.opcode = .twoWireTransfer ∧ c.target = address ∧ c.rx ≠ []) 0

variable {r : Reply} {s' : Simulated}

theorem Performed.replies (h : Performed s c r s') (address : UInt16) :
    s'.twoWireReplies.getD address [] =
      if (c.opcode = .twoWireTransfer ∧ c.target = address ∧ c.rx ≠ []) ∧ r.status = 0 then
        (s.twoWireReplies.getD address []).tail
      else s.twoWireReplies.getD address [] := by
  cases h with
  | stopped hopcode hbus => rw [if_neg fun h => busStopped_ne_zero h.2]
  | unanswered hopcode hbus hdevice => rw [if_neg fun h => nobodyHome_ne_zero h.2]
  | twoWireWrite hopcode hbus hdevice hrx => rw [if_neg fun h => h.1.2.2 hrx]
  | twoWireRead hopcode hbus hdevice hrx =>
    rw [Table.getD_set]
    split
    · next htarget => rw [if_pos ⟨⟨hopcode, htarget, hrx⟩, rfl⟩, htarget]
    · next htarget => rw [if_neg fun h => htarget h.1.2.1]
  | pin hopcode => rw [if_neg fun h => hopcode (by simp [h.1.1])]
  | _ hopcode => rw [if_neg fun h => absurd (hopcode.symm.trans h.1.1) (by decide)]

theorem fedBy_twoWire (address : UInt16) : FedBy (fun s => s.twoWireReplies.getD address []) (twoWireFeed address) := by
  refine fedBy_script rfl (fun s devices faults records => rfl) (fun s d => ?_) fun s c r s' hcall => ?_
  · cases d with
    | queueTwoWire address' reply => exact getD_set_append
    | _ => exact (List.append_nil _).symm
  · rw [hcall.replies, Tape.dropFirst_zero]
    exact if_congr (and_congr_left' decide_eq_true_iff.symm) rfl rfl

/-! ### Replies on the four-wire bus -/

/-- The replies on the four-wire bus; a read takes one. -/
def fourWireFeed : Feed Event Bytes :=
  scriptFeed
    (fun
      | .queueFourWire reply => [reply]
      | _ => [])
    (fun c => c.opcode = .fourWireTransfer ∧ c.rx ≠ []) 0

theorem Performed.fourWireReplies (h : Performed s c r s') :
    s'.fourWireReplies =
      if (c.opcode = .fourWireTransfer ∧ c.rx ≠ []) ∧ r.status = 0 then s.fourWireReplies.tail
      else s.fourWireReplies := by
  cases h with
  | fourWireWrite hopcode hrx => rw [if_neg fun h => h.1.2 hrx]
  | fourWireRead hopcode hrx => rw [if_pos ⟨⟨hopcode, hrx⟩, rfl⟩]
  | pin hopcode => rw [if_neg fun h => hopcode (by simp [h.1.1])]
  | _ hopcode => rw [if_neg fun h => absurd (hopcode.symm.trans h.1.1) (by decide)]

theorem fedBy_fourWire : FedBy (·.fourWireReplies) fourWireFeed := by
  refine fedBy_script rfl (fun s devices faults records => rfl) (fun s d => ?_) fun s c r s' hcall => ?_
  · cases d with
    | queueFourWire reply => rfl
    | _ => exact (List.append_nil _).symm
  · rw [hcall.fourWireReplies, Tape.dropFirst_zero]
    exact if_congr (and_congr_left' decide_eq_true_iff.symm) rfl rfl

/-! ### Readings -/

/-- The readings of a pin; a conversion takes one, but the last one stays. -/
def readingFeed (key : UInt16) : Feed Event UInt32 :=
  scriptFeed
    (fun
      | .queueReadings key' values => if key' = key then values else []
      | _ => [])
    (fun c => c.opcode = .convert ∧ c.target = key) 1

theorem takeReading_eq (values : List UInt32) :
    takeReading values = (values.head?.getD 0, Tape.dropFirst 1 values) := by
  match values with
  | [] => rfl
  | [value] => rfl
  | value :: value' :: values => rfl

theorem Performed.readings (h : Performed s c r s') (key : UInt16) :
    s'.readings.getD key [] =
      if (c.opcode = .convert ∧ c.target = key) ∧ r.status = 0 then Tape.dropFirst 1 (s.readings.getD key [])
      else s.readings.getD key [] := by
  cases h with
  | convert hopcode =>
    rw [Table.getD_set]
    split
    · next htarget => rw [if_pos ⟨⟨hopcode, htarget⟩, rfl⟩, takeReading_eq, htarget]
    · next htarget => rw [if_neg fun h => htarget h.1.2]
  | pin hopcode => rw [if_neg fun h => hopcode (by simp [h.1.1])]
  | _ hopcode => rw [if_neg fun h => absurd (hopcode.symm.trans h.1.1) (by decide)]

theorem fedBy_readings (key : UInt16) : FedBy (fun s => s.readings.getD key []) (readingFeed key) := by
  refine fedBy_script rfl (fun s devices faults records => rfl) (fun s d => ?_) fun s c r s' hcall => ?_
  · cases d with
    | queueReadings key' values => exact getD_set_append
    | _ => exact (List.append_nil _).symm
  · rw [hcall.readings]
    exact if_congr (and_congr_left' decide_eq_true_iff.symm) rfl rfl

/-! ## Devices and buses -/

theorem devices_call : (s.call c).2.devices = s.devices := by
  show (s.answer c).2.devices = s.devices
  unfold answer
  split
  · rfl
  · exact (s.performed c).devices

/-- A device answers at the addresses at which one was added, or for which a reply was queued. -/
theorem mem_devices_after (hhonest : ∀ d ∈ history, d.Honest) (address : UInt16) :
    address ∈ (empty.after history).devices ↔ (empty.seen history).any (·.1.adds address) := by
  refine holds_after (P := fun events s => address ∈ s.devices ↔ events.any (·.1.adds address)) ?_ ?_ hhonest
  · simp [empty]
  · intro events s d _ ih
    rw [List.any_append, Bool.or_eq_true, ← ih, List.any_cons, List.any_nil, Bool.or_false]
    rcases s.undergo_cases d with ⟨c, rfl⟩ | ⟨hevent, devices, heq, hdevices⟩
    · rw [undergo, devices_call]
      exact (or_iff_left Bool.false_ne_true).symm
    · rw [heq, hevent]
      exact hdevices address

/-- Whether an event shuts a two-wire bus down. -/
def stops (bus : UInt8) : Event → Bool
  | (.call c, some r) => c.opcode = .twoWireShutdown ∧ c.bus = bus ∧ r.status = 0
  | _ => false

theorem Performed.stoppedBuses (h : Performed s c r s') (bus : UInt8) :
    bus ∈ s'.stoppedBuses ↔ bus ∈ s.stoppedBuses ∨ stops bus (.call c, some r) := by
  have hstops : stops bus (.call c, some r) ↔ c.opcode = .twoWireShutdown ∧ c.bus = bus ∧ r.status = 0 :=
    decide_eq_true_iff
  rw [hstops]
  cases h with
  | shutdown hopcode hbuses =>
    rw [hbuses bus]
    exact or_congr_right ⟨fun heq => ⟨hopcode, heq.symm, rfl⟩, fun h => h.2.1.symm⟩
  | pin hopcode => exact (or_iff_left fun h => hopcode (by simp [h.1])).symm
  | _ hopcode => exact (or_iff_left fun h => absurd (hopcode.symm.trans h.1) (by decide)).symm

theorem stoppedBuses_undergo (hcandid : s.AllCandid) (bus : UInt8) :
    bus ∈ (s.undergo d).stoppedBuses ↔ bus ∈ s.stoppedBuses ∨ stops bus (s.event d) := by
  rcases s.undergo_cases d with ⟨c, rfl⟩ | ⟨hevent, devices, heq, -⟩
  · rw [undergo, event]
    rcases call_cases (hcandid c.opcode) with ⟨hstatus, faults, records, hstill⟩ | ⟨-, s', records, hcall, hs'⟩
    · rw [hstill]
      exact (or_iff_left fun h => hstatus (of_decide_eq_true h).2.2).symm
    · rw [hs']
      exact hcall.stoppedBuses bus
  · have hbuses : (s.scripted d).stoppedBuses = s.stoppedBuses := by
      cases d with
      | _ => rfl
    have hstops : stops bus (d, none) = false := by
      cases d with
      | _ => rfl
    rw [hevent, heq, hstops]
    show bus ∈ (s.scripted d).stoppedBuses ↔ _
    rw [hbuses]
    exact (or_iff_left Bool.false_ne_true).symm

/-- The buses that are shut down stay so. -/
theorem mem_stoppedBuses_after (hhonest : ∀ d ∈ history, d.Honest) (bus : UInt8) :
    bus ∈ (empty.after history).stoppedBuses ↔ (empty.seen history).any (stops bus) := by
  refine holds_after (P := fun events s => bus ∈ s.stoppedBuses ↔ events.any (stops bus)) ?_ ?_ hhonest
  · simp [empty]
  · intro events s d hcandid ih
    rw [List.any_append, Bool.or_eq_true, ← ih, List.any_cons, List.any_nil, Bool.or_false,
      stoppedBuses_undergo hcandid]

/-! ## Answers -/

theorem call_status :
    (s.call c).1.status = (s.faults.getD c.opcode []).head?.getD (s.perform c).1.status := by
  cases hfaults : s.faults.getD c.opcode [] with
  | nil => rw [call_of_no_fault hfaults, List.head?_nil, Option.getD_none]
  | cons code rest => rw [call, answer, hfaults, List.head?_cons, Option.getD_some]

theorem Performed.status (h : Performed s c r s') :
    r.status =
      if c.opcode = .twoWireTransfer then
        if c.bus ∈ s.stoppedBuses then busStopped else if c.target ∈ s.devices then 0 else nobodyHome
      else 0 := by
  cases h with
  | stopped hopcode hbus => rw [if_pos hopcode, if_pos hbus]
  | unanswered hopcode hbus hdevice => rw [if_pos hopcode, if_neg hbus, if_neg hdevice]
  | twoWireWrite hopcode hbus hdevice => rw [if_pos hopcode, if_neg hbus, if_pos hdevice]
  | twoWireRead hopcode hbus hdevice => rw [if_pos hopcode, if_neg hbus, if_pos hdevice]
  | pin hopcode => rw [if_neg fun h => hopcode (by simp [h])]
  | _ hopcode => rw [if_neg fun h => absurd (hopcode.symm.trans h) (by decide)]

theorem fit_nil {bs : Bytes} : Bytes.fit 0 bs = [] := by simp [Bytes.fit, Bytes.zeros]

theorem Performed.rx_twoWire (h : Performed s c r s') (hopcode : c.opcode = .twoWireTransfer) (hstatus : r.status = 0) :
    r.rx = Bytes.fit c.rx.length ((s.twoWireReplies.getD c.target []).head?.getD []) := by
  cases h with
  | stopped => exact absurd hstatus busStopped_ne_zero
  | unanswered => exact absurd hstatus nobodyHome_ne_zero
  | twoWireWrite _ hbus hdevice hrx =>
    show c.rx = _
    rw [hrx]
    exact fit_nil.symm
  | twoWireRead => rw [List.headD_eq_head?_getD]
  | pin hopcode' => exact absurd hopcode fun h => hopcode' (by simp [h])
  | _ hopcode' => exact absurd (hopcode'.symm.trans hopcode) (by decide)

theorem Performed.rx_fourWire (h : Performed s c r s') (hopcode : c.opcode = .fourWireTransfer) :
    r.rx = Bytes.fit c.rx.length (s.fourWireReplies.head?.getD []) := by
  cases h with
  | fourWireWrite _ hrx =>
    show c.rx = _
    rw [hrx]
    exact fit_nil.symm
  | fourWireRead => rw [List.headD_eq_head?_getD]
  | pin hopcode' => exact absurd hopcode fun h => hopcode' (by simp [h])
  | _ hopcode' => exact absurd (hopcode'.symm.trans hopcode) (by decide)

theorem Performed.rx_convert (h : Performed s c r s') (hopcode : c.opcode = .convert) :
    r.rx = Bytes.fit c.rx.length (Bytes.ofWord32 ((s.readings.getD c.target []).head?.getD 0)) := by
  cases h with
  | convert => rw [takeReading_eq]
  | pin hopcode' => exact absurd hopcode fun h => hopcode' (by simp [h])
  | _ hopcode' => exact absurd (hopcode'.symm.trans hopcode) (by decide)

/-- With which status a call ends that no fault meets, by what was seen before. -/
def plainStatus (events : List Event) (c : Call) : Int32 :=
  if c.opcode = .twoWireTransfer then
    if events.any (stops c.bus) then busStopped
    else if events.any (·.1.adds c.target) then 0
    else nobodyHome
  else 0

/-- What a conversion comes to: the reading that is next, or zero if there has not been any. -/
def Converts (t : Tape UInt32) (value : UInt32) : Prop := if t.written = [] then value = 0 else t.next? = some value

theorem converts_next {t : Tape UInt32} (h : t.Holding) : Converts t (t.next?.getD 0) := by
  unfold Converts
  split
  · next hwritten =>
    rw [← Tape.head?_rest, Tape.rest, hwritten, List.drop_nil, List.head?_nil, Option.getD_none]
  · next hwritten =>
    obtain ⟨value, hvalue⟩ := h.exists_next hwritten
    rw [hvalue, Option.getD_some]

/-- **The answer to a call is the one that is scripted**, by what was seen before. -/
structure Answered (events : List Event) (s : Simulated) (c : Call) : Prop where
  status : (s.call c).1.status = ((faultFeed c.opcode).tape events).next?.getD (plainStatus events c)
  twoWire : c.opcode = .twoWireTransfer → (s.call c).1.status = 0 →
    (s.call c).1.rx = Bytes.fit c.rx.length (((twoWireFeed c.target).tape events).next?.getD [])
  fourWire : c.opcode = .fourWireTransfer → (s.call c).1.status = 0 →
    (s.call c).1.rx = Bytes.fit c.rx.length ((fourWireFeed.tape events).next?.getD [])
  convert : c.opcode = .convert → (s.call c).1.status = 0 →
    ∃ value, Converts ((readingFeed c.target).tape events) value ∧
      (s.call c).1.rx = Bytes.fit c.rx.length (Bytes.ofWord32 value)
  failure : (s.call c).1.status ≠ 0 → (s.call c).1.rx = c.rx ∧ s.Still (s.call c).2
  stopped : events.any (stops c.bus) → c.opcode = .twoWireTransfer → (s.call c).1.status ≠ 0

/-- A call that succeeds has done what it is for. -/
theorem performed_of_success (hcandid : s.AllCandid) (hstatus : (s.call c).1.status = 0) :
    ∃ s', Performed s c (s.call c).1 s' := by
  rcases call_cases (hcandid c.opcode) with ⟨hfailed, -⟩ | ⟨-, s', -, hcall, -⟩
  · exact absurd hstatus hfailed
  · exact ⟨s', hcall⟩

theorem answered_after (hhonest : ∀ d ∈ history, d.Honest) (c : Call) :
    Answered (empty.seen history) (empty.after history) c := by
  have hcandid := AllCandid.after hhonest
  have hnext {α : Type} {queue : Simulated → List α} {feed : Feed Event α} (h : FedBy queue feed) :
      (queue (empty.after history)).head? = (feed.tape (empty.seen history)).next? := by
    rw [h.queue_after hhonest, Tape.head?_rest]
  constructor
  case status =>
    rw [call_status, hnext (fedBy_faults c.opcode), ((empty.after history).performed c).status]
    congr 1
    exact if_congr Iff.rfl (if_congr (mem_stoppedBuses_after hhonest c.bus) rfl
      (if_congr (mem_devices_after hhonest c.target) rfl rfl)) rfl
  case twoWire =>
    intro hopcode hstatus
    obtain ⟨s', hcall⟩ := performed_of_success hcandid hstatus
    rw [hcall.rx_twoWire hopcode hstatus, hnext (fedBy_twoWire c.target)]
  case fourWire =>
    intro hopcode hstatus
    obtain ⟨s', hcall⟩ := performed_of_success hcandid hstatus
    rw [hcall.rx_fourWire hopcode, hnext fedBy_fourWire]
  case convert =>
    intro hopcode hstatus
    obtain ⟨s', hcall⟩ := performed_of_success hcandid hstatus
    refine ⟨_, ?_, hcall.rx_convert hopcode⟩
    rw [hnext (fedBy_readings c.target)]
    exact converts_next (Feed.holding_tape Nat.one_pos)
  case failure => exact fun hstatus => ⟨rx_of_failure hstatus, still_of_failure hstatus⟩
  case stopped =>
    intro hstopped hopcode hstatus
    obtain ⟨s', hcall⟩ := performed_of_success hcandid hstatus
    rw [hcall.status, if_pos hopcode, if_pos ((mem_stoppedBuses_after hhonest c.bus).mpr hstopped)] at hstatus
    exact busStopped_ne_zero hstatus

/-- What the converter of a board reads is what the conversion comes to. -/
theorem Answered.readRaw {events : List Event} {h h' : Hardware} {pin : Pin} {value : UInt32}
    (hanswered : ∀ c, Answered events h.driver c) (hrun : (Converter.readRaw pin).run h = (.ok value, h')) :
    Converts ((readingFeed pin.key).tape events) value := by
  let c : Call := { opcode := .convert, target := pin.key, rx := Bytes.zeros 4 }
  rcases Hardware.issued_read_cases c (fun rx => ((Bytes.takeWord32? rx).map (·.1)).getD 0) h with
    ⟨h₁, hissued, heq⟩ | ⟨status, h₁, -, -, heq⟩
  · obtain ⟨value', hconverts, hrx⟩ := (hanswered c).convert rfl hissued.status
    rw [Converter.readRaw, heq, hrx] at hrun
    have hword : Bytes.fit c.rx.length (Bytes.ofWord32 value') = Bytes.ofWord32 value' ++ [] :=
      (Bytes.fit_length (Bytes.ofWord32 value')).trans (List.append_nil _).symm
    rw [hword, Bytes.takeWord32?_ofWord32] at hrun
    obtain rfl : value' = value := Except.ok.inj (Prod.mk.inj hrun).1
    exact hconverts
  · rw [Converter.readRaw, heq] at hrun
    exact nomatch (Prod.mk.inj hrun).1

/-- An answer that fills the receive buffer with a reply, cut or filled up with zeros. -/
def Fills (e : Event) (reply : Option Bytes) : Prop :=
  ∃ c r, e = (.call c, some r) ∧ r.rx = Bytes.fit c.rx.length (reply.getD [])

/-- An answer that carries the code of a fault, if there is one. -/
def Fails (e : Event) (code : Option Int32) : Prop := ∃ c r, e = (.call c, some r) ∧ ∀ i ∈ code, r.status = i

/-- **A driver serves its scripts**, without loss, mixing or reordering. -/
structure Faithful (events : List Event) (s : Simulated) : Prop where
  answered : ∀ c, Answered events s c
  faults : ∀ o, (faultFeed o).HandedOut Fails events (s.faults.getD o [])
  twoWire : ∀ address, (twoWireFeed address).HandedOut Fills events (s.twoWireReplies.getD address [])
  fourWire : fourWireFeed.HandedOut Fills events s.fourWireReplies
  converted : ∀ h pin value h', h.driver = s → (Converter.readRaw pin).run h = (.ok value, h') →
    Converts ((readingFeed pin.key).tape events) value

theorem fails_event (hcode : c.opcode = o) : Fails (s.event (.call c)) (s.faults.getD o []).head? := by
  refine ⟨c, _, rfl, fun i hi => ?_⟩
  rw [call_status, hcode, Option.mem_def.mp hi, Option.getD_some]

/-- **Every history**: a simulated driver serves its scripts in order, if it is told to fail with codes other than
zero. -/
theorem faithful_after (history : List Deed) (hhonest : ∀ d ∈ history, d.Honest) :
    Faithful (empty.seen history) (empty.after history) := by
  constructor
  case answered => exact answered_after hhonest
  case faults =>
    refine fun o => (fedBy_faults o).handedOut rfl (fun s d _ htakes => ?_) hhonest
    cases d with
    | call c => exact fails_event (of_decide_eq_true htakes)
    | _ => exact absurd htakes Bool.false_ne_true
  case twoWire =>
    refine fun address => (fedBy_twoWire address).handedOut rfl (fun s d hcandid htakes => ?_) hhonest
    cases d with
    | call c =>
      obtain ⟨hread, hstatus⟩ := scriptFeed_takes.mp htakes
      obtain ⟨hopcode, rfl, -⟩ := of_decide_eq_true hread
      obtain ⟨s', hcall⟩ := performed_of_success hcandid hstatus
      exact ⟨c, _, rfl, hcall.rx_twoWire hopcode hstatus⟩
    | _ => exact absurd htakes Bool.false_ne_true
  case fourWire =>
    refine fedBy_fourWire.handedOut rfl (fun s d hcandid htakes => ?_) hhonest
    cases d with
    | call c =>
      obtain ⟨hread, hstatus⟩ := scriptFeed_takes.mp htakes
      obtain ⟨s', hcall⟩ := performed_of_success hcandid hstatus
      exact ⟨c, _, rfl, hcall.rx_fourWire (of_decide_eq_true hread).1⟩
    | _ => exact absurd htakes Bool.false_ne_true
  case converted =>
    intro h pin value h' hdriver hrun
    exact Answered.readRaw (hdriver ▸ answered_after hhonest) hrun

/-- A fault is met before the reply is taken that is queued as well. -/
theorem faithful_after_fault :
    (∀ d ∈ [Deed.queueTwoWire 72 [1, 2], .injectFault .twoWireTransfer 5], d.Honest) ∧
      ((empty.after [.queueTwoWire 72 [1, 2], .injectFault .twoWireTransfer 5]).call
        { opcode := .twoWireTransfer, target := 72, rx := [9, 9, 9] }).1 = ⟨5, [9, 9, 9]⟩ := by
  have hhonest : ∀ d ∈ [Deed.queueTwoWire 72 [1, 2], .injectFault .twoWireTransfer 5], d.Honest := by
    simp [Deed.Honest]
  have hanswered := (faithful_after _ hhonest).answered { opcode := .twoWireTransfer, target := 72, rx := [9, 9, 9] }
  have hstatus := hanswered.status
  have hrx := (hanswered.failure (by rw [hstatus]; decide)).1
  exact ⟨hhonest, congrArg₂ Reply.mk hstatus hrx⟩

end Simulated

end Peripherals.Driver
