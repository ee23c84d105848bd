import Mathlib
import Peripherals.Network.Registry
import Peripherals.Proofs.Call.Effect

/-!
# `Proofs.Network.Merging` — what becomes of the events of many adapters

A registry has one forwarder for each of its adapters, and all of them send to one merged channel. A `Hub` is a
registry with the channels of the adapters. Adapters are added at any time, also one that is there already; they tell
events at any time, also before they are added; and the forwarders take their steps in any order, each as often as it
likes or never.

A forwarder has passed a number of the events that its adapter has told since it was added: those that it has sent on,
and those that it has lost and warned of. So what it has sent on is a part of what was told, in order
(`Broadcast.Followed`), and when it has come to the end the losses make up exactly for the rest. The other adapters and
forwarders have no part in that: they send under other indices and keep places of their own (`Hub.tracked_act`).

* `Broadcast.receive_sendAll` — what a reader finds in a channel that has gone on;
* `Hub`, `Hub.Move`, `Hub.act`, `Hub.run` — registry and channels, and what happens to them in any order;
* `Hub.merged`, `Hub.warnings`, `Hub.Move.told` — what is sent to the merged channel, what one forwarder warns of, and
  what one adapter tells;
* `Hub.Tracked` — where a forwarder stands; `Hub.tracked_act`, `Hub.tracked_run` — one step and a whole history;
* `Hub.Faithful` — what the merged channel owes to an adapter.
-/

namespace Peripherals

namespace Broadcast

variable {α : Type} {b : Broadcast α} {as told passed : List α} {losses : List Nat} {place : Nat}

/-! ## Reading a channel that has gone on -/

theorem sent_sendAll (b : Broadcast α) (as : List α) : (b.sendAll as).sent = b.sent + as.length := by
  induction as generalizing b with
  | nil => rfl
  | cons a rest ih =>
      rw [sendAll, List.foldl_cons]
      refine (ih (b.send a)).trans ?_
      simp only [send, List.length_cons]
      omega

/-- What a channel keeps is the end of all that was sent. -/
theorem recent_sendAll (b : Broadcast α) (as : List α) : (b.sendAll as).recent <:+ b.recent ++ as := by
  induction as generalizing b with
  | nil => rw [List.append_nil]; exact List.suffix_refl _
  | cons a rest ih =>
      obtain ⟨gone, hgone⟩ : (b.send a).recent <:+ b.recent ++ [a] := List.drop_suffix _ _
      refine (ih (b.send a)).trans ⟨gone, ?_⟩
      rw [← List.append_assoc, hgone, List.append_assoc, List.singleton_append]

theorem sendAll_append (b : Broadcast α) (as as' : List α) : b.sendAll (as ++ as') = (b.sendAll as).sendAll as' :=
  List.foldl_append

/-- **What a reader finds** that has passed `n` of the entries sent since: the next one, or that some are gone, or
nothing if it has passed them all. -/
theorem receive_sendAll {n : Nat} (hn : n ≤ as.length) :
    (∃ a, (b.sendAll as).receive (b.sent + n) = some (.entry a, b.sent + (n + 1)) ∧ as[n]? = some a) ∨
    (∃ m, (b.sendAll as).receive (b.sent + n) = some (.lagged m, b.sent + (n + m)) ∧ 0 < m ∧ n + m ≤ as.length) ∨
    ((b.sendAll as).receive (b.sent + n) = none ∧ n = as.length) := by
  have hsent := sent_sendAll b as
  have hkept := (b.sendAll as).length_recent_le
  have hroom := b.length_recent_le
  have hdrop := List.suffix_iff_eq_drop.mp (recent_sendAll b as)
  have hlength := (recent_sendAll b as).length_le
  rw [List.length_append] at hdrop hlength
  unfold receive oldest
  rw [hsent] at hkept ⊢
  by_cases hgone : b.sent + n < b.sent + as.length - (b.sendAll as).recent.length
  · refine .inr (.inl ⟨b.sent + as.length - (b.sendAll as).recent.length - (b.sent + n), ?_, by omega, by omega⟩)
    rw [if_pos hgone]
    congr 2
    omega
  · -- The place of the reader among the entries kept is its place among all that were sent.
    have hentry :
        (b.sendAll as).recent[b.sent + n - (b.sent + as.length - (b.sendAll as).recent.length)]? = as[n]? := by
      rw [hdrop, List.getElem?_drop, ← hdrop, List.getElem?_append_right (by omega)]
      congr 1
      omega
    rw [if_neg hgone, hentry]
    rcases Nat.lt_or_eq_of_le hn with hlt | heq
    · rw [List.getElem?_eq_getElem hlt]
      exact .inl ⟨as[n], rfl, rfl⟩
    · rw [heq, List.getElem?_eq_none (Nat.le_refl _)]
      exact .inr (.inr ⟨rfl, rfl⟩)

/-! ## Passing entries -/

/-- **A reader has passed** entries on and lost others: of those told since it began at the end of `b`, it has passed on
`passed` in order, it was told of `losses`, and it stands behind all of these. -/
structure Followed (b : Broadcast α) (told passed : List α) (losses : List Nat) (place : Nat) : Prop where
  place_eq : place = b.sent + (passed.length + losses.sum)
  le : passed.length + losses.sum ≤ told.length
  sublist : passed.Sublist (told.take (passed.length + losses.sum))
  pos : ∀ loss ∈ losses, 0 < loss

namespace Followed

theorem subscribe (b : Broadcast α) : Followed b [] [] [] b.subscribe := ⟨rfl, Nat.le_refl 0, .slnil, nofun⟩

theorem tell (h : Followed b told passed losses place) (as : List α) :
    Followed b (told ++ as) passed losses place := by
  refine ⟨h.place_eq, ?_, ?_, h.pos⟩
  · exact Nat.le_trans h.le (by simp)
  · rw [List.take_append_of_le_length h.le]
    exact h.sublist

/-- **What the reader finds next** goes on, or is a loss; and if it finds nothing, it has passed everything. -/
theorem receive (h : Followed b told passed losses place) :
    (∃ a place', (b.sendAll told).receive place = some (.entry a, place') ∧
      Followed b told (passed ++ [a]) losses place') ∨
    (∃ m place', (b.sendAll told).receive place = some (.lagged m, place') ∧
      Followed b told passed (losses ++ [m]) place') ∨
    ((b.sendAll told).receive place = none ∧ told.length = passed.length + losses.sum) := by
  obtain ⟨rfl, hle, hsublist, hpos⟩ := h
  rcases receive_sendAll (b := b) hle with ⟨a, hfound, ha⟩ | ⟨m, hfound, hm, hle'⟩ | ⟨hfound, hall⟩
  · refine .inl ⟨a, _, hfound, ?_, ?_, ?_, hpos⟩
    · simp only [List.length_append, List.length_singleton]
      omega
    · obtain ⟨hlt, -⟩ := List.getElem?_eq_some_iff.mp ha
      simp only [List.length_append, List.length_singleton]
      omega
    · have hone : (passed ++ [a]).length + losses.sum = passed.length + losses.sum + 1 := by
        simp only [List.length_append, List.length_singleton]
        omega
      rw [hone, List.take_add_one, ha]
      exact hsublist.append (.refl _)
  · have hsum : (losses ++ [m]).sum = losses.sum + m := by rw [List.sum_append, List.sum_singleton]
    refine .inr (.inl ⟨m, _, hfound, ?_, ?_, ?_, ?_⟩)
    · rw [hsum, Nat.add_assoc]
    · rw [hsum, ← Nat.add_assoc]
      exact hle'
    · rw [hsum]
      exact hsublist.trans (List.take_sublist_take_left (by omega))
    · intro loss hloss
      rcases List.mem_append.mp hloss with hloss | hloss
      · exact hpos loss hloss
      · exact List.mem_singleton.mp hloss ▸ hm
  · exact .inr (.inr ⟨hfound, hall.symm⟩)

theorem entry {a : α} {place' : Nat} (h : Followed b told passed losses place)
    (hfound : (b.sendAll told).receive place = some (.entry a, place')) :
    Followed b told (passed ++ [a]) losses place' := by
  rcases h.receive with ⟨a', p, hreceive, hnext⟩ | ⟨n, p, hreceive, -⟩ | ⟨hreceive, -⟩
  · obtain ⟨hentry, rfl⟩ := Prod.mk.inj (Option.some.inj (hreceive.symm.trans hfound))
    exact Received.entry.inj hentry ▸ hnext
  · simp [hreceive] at hfound
  · simp [hreceive] at hfound

theorem lagged {n place' : Nat} (h : Followed b told passed losses place)
    (hfound : (b.sendAll told).receive place = some (.lagged n, place')) :
    Followed b told passed (losses ++ [n]) place' := by
  rcases h.receive with ⟨a, p, hreceive, -⟩ | ⟨n', p, hreceive, hnext⟩ | ⟨hreceive, -⟩
  · simp [hreceive] at hfound
  · obtain ⟨hloss, rfl⟩ := Prod.mk.inj (Option.some.inj (hreceive.symm.trans hfound))
    exact Received.lagged.inj hloss ▸ hnext
  · simp [hreceive] at hfound

theorem length_of_none (h : Followed b told passed losses place) (hfound : (b.sendAll told).receive place = none) :
    told.length = passed.length + losses.sum := by
  rcases h.receive with ⟨a, p, hreceive, -⟩ | ⟨n, p, hreceive, -⟩ | ⟨-, hall⟩
  · simp [hreceive] at hfound
  · simp [hreceive] at hfound
  · exact hall

end Followed

end Broadcast

namespace Network

/-! ## Registry and channels -/

/-- **A registry, and the channels on which adapters tell their events.** -/
structure Hub (α : Type) where
  registry : Registry α
  channel : α → Broadcast Event

/-- What can happen. -/
inductive Hub.Move (α : Type) where
  /-- An adapter is added; `runtime` says whether tasks can run in the background. -/
  | add (runtime : Bool) (adapter : α) (name : String)
  /-- An adapter tells an event. -/
  | tell (adapter : α) (event : Event)
  /-- A forwarder takes a step. -/
  | forward (index : Nat)

/-- Whether a move is a step of a forwarder. -/
def Hub.Move.isForward {α : Type} (index : Nat) : Hub.Move α → Bool
  | .forward index' => index' = index
  | _ => false

/-- The warning of a forwarder that has lost events. -/
def lossWarning (index : Nat) (name : String) (missed : Nat) : Log.Line :=
  ⟨.warn, s!"Adapter {index} ({name}): dropped {missed} events"⟩

/-- It tells how many were lost. -/
theorem lossWarning_injective (index : Nat) (name : String) : Function.Injective (lossWarning index name) := by
  intro missed missed' h
  have htext := congrArg Log.Line.text h
  exact Nat.repr_inj.mp (by simpa [lossWarning] using htext)

/-- The events with one index. -/
def share (index : Nat) (stream : List (Nat × Event)) : List Event :=
  stream.filterMap fun x => if x.1 = index then some x.2 else none

theorem share_append (index : Nat) (xs ys : List (Nat × Event)) :
    share index (xs ++ ys) = share index xs ++ share index ys := List.filterMap_append

theorem mem_share {index : Nat} {stream : List (Nat × Event)} {e : Event} :
    e ∈ share index stream ↔ (index, e) ∈ stream := by
  simp [share]

namespace Hub

variable {α : Type}

/-- Adapters that may have told events already, and a registry without any. -/
def start (channel : α → Broadcast Event) : Hub α := ⟨.empty, channel⟩

theorem getElem?_set_of_member {members : List (Member α)} {index : Nat} {member : Member α}
    (hmember : members[index]? = some member) (member' : Member α) :
    (members.set index member')[index]? = some member' :=
  List.getElem?_set_self (List.getElem?_eq_some_iff.mp hmember).1

/-- A forwarder has come to the end of the channel of its adapter. -/
def CaughtUp (h : Hub α) (index : Nat) : Prop :=
  ((h.registry.get? index).map h.channel).bind (h.registry.forward index) = none

variable {h : Hub α} {m : Move α} {index : Nat} {member : Member α} {adapter : α} {name : String}
  {b : Broadcast Event} {events passed : List Event} {lines : List Log.Line}

/-- A forwarder works on the channel of its own adapter. -/
theorem forward_of_member (hmember : h.registry.members[index]? = some member) :
    ((h.registry.get? index).map h.channel).bind (h.registry.forward index) =
      ((h.channel member.adapter).receive member.place).map fun (found, place) =>
        { h.registry with members := h.registry.members.set index { member with place } }.relay index member.name
          found := by
  simp only [Registry.get?, Registry.forward, hmember, Option.map_some, Option.bind_some, Option.bind_eq_bind]
  cases (h.channel member.adapter).receive member.place with
  | none => rfl
  | some found => rfl

theorem caughtUp_iff (hmember : h.registry.members[index]? = some member) :
    h.CaughtUp index ↔ (h.channel member.adapter).receive member.place = none := by
  rw [CaughtUp, forward_of_member hmember, Option.map_eq_none_iff]

theorem caughtUp_of_not_member (hmember : h.registry.members[index]? = none) : h.CaughtUp index := by
  rw [CaughtUp, Registry.get?, hmember]
  rfl

/-- The answer to an attempt to add an adapter. -/
def answer (h : Hub α) (runtime : Bool) (adapter : α) (name : String) : Except Error Nat :=
  (h.registry.add runtime adapter name (h.channel adapter)).map Prod.fst

theorem answer_eq_ok_iff {runtime : Bool} :
    h.answer runtime adapter name = .ok index ↔ runtime = true ∧ h.registry.size = index := by
  unfold answer Registry.add
  cases runtime with
  | false => simp [Except.map]
  | true => simp [Except.map]

/-! ## Where a forwarder stands -/

/-- **Where the forwarder of an adapter stands**: since it was added, when its channel was `b`, the adapter has told
`events`, and the forwarder has passed on `passed` and logged `lines`. -/
structure Tracked (index : Nat) (adapter : α) (name : String) (b : Broadcast Event) (events passed : List Event)
    (lines : List Log.Line) (h : Hub α) : Prop where
  channel : h.channel adapter = b.sendAll events
  stands : ∃ place losses, h.registry.members[index]? = some ⟨adapter, name, place⟩ ∧
    Broadcast.Followed b events passed losses place ∧ lines = losses.map (lossWarning index name)

/-- A forwarder that has come to the end has passed on, or has lost, all that its adapter has told. -/
theorem Tracked.account (ht : Tracked index adapter name b events passed lines h) :
    h.registry.get? index = some adapter ∧ ∃ losses : List Nat, lines = losses.map (lossWarning index name) ∧
      (∀ loss ∈ losses, 0 < loss) ∧ passed.Sublist events ∧ passed.length + losses.sum ≤ events.length ∧
      (h.CaughtUp index → events.length = passed.length + losses.sum) := by
  obtain ⟨hchannel, place, losses, hmember, hfollowed, hlines⟩ := ht
  refine ⟨?_, losses, hlines, hfollowed.pos, hfollowed.sublist.trans (List.take_sublist _ _), hfollowed.le, ?_⟩
  · rw [Registry.get?, hmember]
    rfl
  · intro hcaught
    rw [caughtUp_iff hmember, hchannel] at hcaught
    exact hfollowed.length_of_none hcaught

theorem Tracked.length_le (ht : Tracked index adapter name b events passed lines h) :
    passed.length + lines.length ≤ events.length := by
  obtain ⟨-, losses, hlines, hpos, -, hle, -⟩ := ht.account
  have hlength : losses.length ≤ losses.sum := List.length_le_sum_of_one_le losses hpos
  rw [hlines, List.length_map]
  omega

/-- What becomes of the other adapters and forwarders does not matter. -/
theorem Tracked.still {h' : Hub α} (ht : Tracked index adapter name b events passed lines h)
    (hchannel : h'.channel adapter = h.channel adapter)
    (hmember : h'.registry.members[index]? = h.registry.members[index]?) :
    Tracked index adapter name b events passed lines h' := by
  obtain ⟨hheld, place, losses, hstands, hfollowed, hlines⟩ := ht
  exact ⟨hchannel.trans hheld, place, losses, hmember.trans hstands, hfollowed, hlines⟩

section Forward

variable {place : Nat} (ht : Tracked index adapter name b events passed lines h)
  (hmember : h.registry.members[index]? = some member)

include ht hmember

theorem Tracked.passOn {event : Event} (merged : Broadcast (Nat × Event))
    (hfound : (h.channel member.adapter).receive member.place = some (.entry event, place)) :
    Tracked index adapter name b events (passed ++ [event]) lines
      { h with registry := ⟨h.registry.members.set index { member with place }, merged⟩ } := by
  obtain ⟨hchannel, _, losses, hstands, hfollowed, hlines⟩ := ht
  obtain rfl := Option.some.inj (hmember.symm.trans hstands)
  dsimp only at hfound
  rw [hchannel] at hfound
  exact ⟨hchannel, place, losses, getElem?_set_of_member hmember _, hfollowed.entry hfound, hlines⟩

theorem Tracked.lose {missed : Nat}
    (hfound : (h.channel member.adapter).receive member.place = some (.lagged missed, place)) :
    Tracked index adapter name b events passed (lines ++ [lossWarning index member.name missed])
      { h with registry := { h.registry with members := h.registry.members.set index { member with place } } } := by
  obtain ⟨hchannel, _, losses, hstands, hfollowed, hlines⟩ := ht
  obtain rfl := Option.some.inj (hmember.symm.trans hstands)
  dsimp only at hfound
  rw [hchannel] at hfound
  refine ⟨hchannel, place, losses ++ [missed], getElem?_set_of_member hmember _, hfollowed.lagged hfound, ?_⟩
  rw [hlines, List.map_append, List.map_singleton]

end Forward

/-! ## Steps -/

variable [DecidableEq α]

/-- **What a move does**, and what it logs. -/
def step (h : Hub α) : Move α → Hub α × List Log.Line
  | .add runtime adapter name =>
    match h.registry.add runtime adapter name (h.channel adapter) with
    | .error _ => (h, [])
    | .ok (_, registry, lines) => ({ h with registry }, lines)
  | .tell adapter event =>
    ({ h with channel := Function.update h.channel adapter ((h.channel adapter).send event) }, [])
  | .forward index =>
    match ((h.registry.get? index).map h.channel).bind (h.registry.forward index) with
    | none => (h, [])
    | some (registry, lines) => ({ h with registry }, lines)

/-- The hub after a move. -/
def act (h : Hub α) (m : Move α) : Hub α := (h.step m).1

/-- The hub after moves. -/
def run (h : Hub α) (moves : List (Move α)) : Hub α := moves.foldl act h

theorem channel_run_tell (h : Hub α) (adapter : α) (events : List Event) :
    (h.run (events.map (.tell adapter))).channel adapter = (h.channel adapter).sendAll events := by
  induction events generalizing h with
  | nil => rfl
  | cons e rest ih =>
      refine (ih (h.act (.tell adapter e))).trans ?_
      exact congrArg (Broadcast.sendAll · rest) (Function.update_self ..)

/-- **What a wireless adapter tells** are the changes of connectivity among its notices, one after the other. -/
theorem channel_run_publish {a : Coprocessor.Adapter} (hchannel : h.channel adapter = a.connectivity)
    (ns : List Coprocessor.Notice) :
    (h.run ((ns.filterMap Coprocessor.Notice.connectivity?).map (.tell adapter))).channel adapter =
      (a.publish ns).connectivity := by
  rw [channel_run_tell, hchannel, Coprocessor.Adapter.connectivity_publish]

/-! ## What is told, sent and warned of -/

/-- What an adapter tells with a move. -/
def Move.told? (adapter : α) : Move α → Option Event
  | .tell adapter' event => if adapter' = adapter then some event else none
  | _ => none

/-- **What an adapter tells** over moves. -/
def told (adapter : α) (moves : List (Move α)) : List Event := moves.filterMap (Move.told? adapter)

/-- What a move sends to the merged channel. -/
def sent (h : Hub α) (m : Move α) : List (Nat × Event) := h.registry.merged.news (h.act m).registry.merged

/-- **The merged stream**: what moves send to the merged channel. -/
def merged : Hub α → List (Move α) → List (Nat × Event)
  | _, [] => []
  | h, m :: rest => h.sent m ++ merged (h.act m) rest

/-- What a forwarder logs with a move. -/
def warned (index : Nat) (h : Hub α) (m : Move α) : List Log.Line :=
  if m.isForward index then (h.step m).2 else []

/-- **What a forwarder logs** over moves. -/
def warnings (index : Nat) : Hub α → List (Move α) → List Log.Line
  | _, [] => []
  | h, m :: rest => warned index h m ++ warnings index (h.act m) rest

theorem run_append (h : Hub α) (ms ms' : List (Move α)) : h.run (ms ++ ms') = (h.run ms).run ms' :=
  List.foldl_append

theorem merged_append (h : Hub α) (ms ms' : List (Move α)) :
    h.merged (ms ++ ms') = h.merged ms ++ (h.run ms).merged ms' := by
  induction ms generalizing h with
  | nil => rfl
  | cons m rest ih => rw [List.cons_append, merged, ih, merged, List.append_assoc]; rfl

theorem warnings_append (index : Nat) (h : Hub α) (ms ms' : List (Move α)) :
    warnings index h (ms ++ ms') = warnings index h ms ++ warnings index (h.run ms) ms' := by
  induction ms generalizing h with
  | nil => rfl
  | cons m rest ih => rw [List.cons_append, warnings, ih, warnings, List.append_assoc]; rfl

theorem mem_told {adapter : α} {moves : List (Move α)} {e : Event} (h : e ∈ told adapter moves) :
    Move.tell adapter e ∈ moves := by
  obtain ⟨m, hm, htold⟩ := List.mem_filterMap.mp h
  cases m with
  | tell adapter' e' =>
      simp only [Move.told?, Option.ite_none_right_eq_some, Option.some.injEq] at htold
      exact htold.1 ▸ htold.2 ▸ hm
  | _ => contradiction

/-! ## What one step can do -/

/-- **Everything that a move can do**: the hub after it, what it sends to the merged channel, and what it logs. -/
inductive Moved (h : Hub α) : Move α → Hub α → List (Nat × Event) → List Log.Line → Prop where
  /-- Nothing can run in the background. -/
  | refused {adapter : α} {name : String} : Moved h (.add false adapter name) h [] []
  | added {adapter : α} {name : String} {line : Log.Line} :
      Moved h (.add true adapter name)
        { h with
          registry := { h.registry with
            members := h.registry.members ++ [⟨adapter, name, (h.channel adapter).subscribe⟩] } } [] [line]
  | told {adapter : α} {event : Event} :
      Moved h (.tell adapter event)
        { h with channel := Function.update h.channel adapter ((h.channel adapter).send event) } [] []
  /-- The forwarder finds nothing, or there is none. -/
  | idle {index : Nat} (hidle : h.CaughtUp index) : Moved h (.forward index) h [] []
  | passed {index place : Nat} {member : Member α} {event : Event} (hmember : h.registry.members[index]? = some member)
      (hfound : (h.channel member.adapter).receive member.place = some (.entry event, place)) :
      Moved h (.forward index)
        { h with
          registry := ⟨h.registry.members.set index { member with place }, h.registry.merged.send (index, event)⟩ }
        [(index, event)] []
  | lost {index place missed : Nat} {member : Member α} (hmember : h.registry.members[index]? = some member)
      (hfound : (h.channel member.adapter).receive member.place = some (.lagged missed, place)) :
      Moved h (.forward index)
        { h with registry := { h.registry with members := h.registry.members.set index { member with place } } }
        [] [lossWarning index member.name missed]

theorem sent_of_merged (hmerged : (h.act m).registry.merged = h.registry.merged) : h.sent m = [] := by
  rw [sent, hmerged, Broadcast.news, Broadcast.drain_subscribe]
  rfl

/-- A forwarder that finds nothing does nothing. -/
theorem moved_of_caughtUp (hidle : h.CaughtUp index) :
    Moved h (.forward index) (h.act (.forward index)) (h.sent (.forward index)) (h.step (.forward index)).2 := by
  have hstep : h.step (.forward index) = (h, []) := by rw [step, hidle]
  have hact : h.act (.forward index) = h := congrArg Prod.fst hstep
  rw [sent_of_merged (by rw [hact]), hact, hstep]
  exact .idle hidle

theorem moved_act (h : Hub α) (m : Move α) : Moved h m (h.act m) (h.sent m) (h.step m).2 := by
  cases m with
  | add runtime adapter name =>
      cases runtime with
      | false =>
          rw [sent_of_merged rfl]
          exact .refused
      | true =>
          rw [sent_of_merged rfl]
          exact .added
  | tell adapter event =>
      rw [sent_of_merged rfl]
      exact .told
  | forward index =>
      cases hmember : h.registry.members[index]? with
      | none => exact moved_of_caughtUp (caughtUp_of_not_member hmember)
      | some member =>
          cases hfound : (h.channel member.adapter).receive member.place with
          | none => exact moved_of_caughtUp ((caughtUp_iff hmember).mpr hfound)
          | some found =>
              obtain ⟨found, place⟩ := found
              have hforward := forward_of_member hmember
              rw [hfound, Option.map_some] at hforward
              have hstep : h.step (.forward index) =
                  ({ h with registry :=
                      ({ h.registry with members := h.registry.members.set index { member with place } }.relay index
                        member.name found).1 },
                    ({ h.registry with members := h.registry.members.set index { member with place } }.relay index
                      member.name found).2) := by
                rw [step, hforward]
              have hact := congrArg Prod.fst hstep
              cases found with
              | entry event =>
                  have hsent : h.sent (.forward index) = [(index, event)] := by
                    have hone : [(index, event)].length ≤ 1 := Nat.le_refl 1
                    rw [sent, act, hact]
                    exact Broadcast.news_sendAll h.registry.merged hone
                  rw [hsent, act, hstep]
                  exact .passed hmember hfound
              | lagged missed =>
                  rw [sent_of_merged (by rw [act, hact]; rfl), act, hstep]
                  exact .lost hmember hfound

/-! ## Every forwarder is kept track of -/

theorem Tracked.tell (ht : Tracked index adapter name b events passed lines h) (event : Event) :
    Tracked index adapter name b (events ++ [event]) passed lines
      { h with channel := Function.update h.channel adapter ((h.channel adapter).send event) } := by
  obtain ⟨hchannel, place, losses, hmember, hfollowed, hlines⟩ := ht
  refine ⟨?_, place, losses, hmember, hfollowed.tell [event], hlines⟩
  rw [Broadcast.sendAll_append, ← hchannel]
  exact Function.update_self ..

/-- **One step** of anything keeps track of every forwarder. -/
theorem tracked_act (ht : Tracked index adapter name b events passed lines h) (m : Move α) :
    Tracked index adapter name b (events ++ (m.told? adapter).toList) (passed ++ share index (h.sent m))
      (lines ++ warned index h m) (h.act m) := by
  have hmoved := moved_act h m
  have hmember : index < h.registry.members.length := by
    obtain ⟨-, _, _, hmember, -⟩ := ht
    exact (List.getElem?_eq_some_iff.mp hmember).1
  unfold warned
  generalize h.act m = h', h.sent m = sent, (h.step m).2 = lines' at hmoved ⊢
  cases hmoved with
  | refused =>
      simp only [Move.told?, Move.isForward, share, Option.toList_none, List.filterMap_nil, List.append_nil,
        Bool.false_eq_true, if_false]
      exact ht
  | added =>
      simp only [Move.told?, Move.isForward, share, Option.toList_none, List.filterMap_nil, List.append_nil,
        Bool.false_eq_true, if_false]
      exact ht.still rfl (List.getElem?_append_left hmember)
  | @told adapter' event =>
      simp only [Move.told?, Move.isForward, share, List.filterMap_nil, List.append_nil, Bool.false_eq_true, if_false]
      by_cases hadapter : adapter' = adapter
      · subst hadapter
        rw [if_pos rfl, Option.toList_some]
        exact ht.tell event
      · rw [if_neg hadapter, Option.toList_none, List.append_nil]
        exact ht.still (Function.update_of_ne (Ne.symm hadapter) ..) rfl
  | idle _ =>
      simp only [Move.told?, share, Option.toList_none, List.filterMap_nil, List.append_nil, ite_self]
      exact ht
  | @passed index' place' member event hmember' hfound =>
      simp only [Move.told?, Option.toList_none, List.append_nil, ite_self]
      by_cases hindex : index' = index
      · subst hindex
        have hshare : share index' [(index', event)] = [event] := by simp [share]
        rw [hshare]
        exact ht.passOn hmember' _ hfound
      · have hshare : share index [(index', event)] = [] := by simp [share, hindex]
        rw [hshare, List.append_nil]
        exact ht.still rfl (List.getElem?_set_ne hindex)
  | @lost index' place' missed member hmember' hfound =>
      have hshare : share index [] = [] := rfl
      simp only [Move.told?, Move.isForward, Option.toList_none, List.append_nil, hshare, decide_eq_true_eq]
      by_cases hindex : index' = index
      · subst hindex
        rw [if_pos rfl]
        exact ht.lose hmember' hfound
      · rw [if_neg hindex, List.append_nil]
        exact ht.still rfl (List.getElem?_set_ne hindex)

/-- **A whole history** keeps track of every forwarder. -/
theorem tracked_run (ht : Tracked index adapter name b events passed lines h) (moves : List (Move α)) :
    Tracked index adapter name b (events ++ told adapter moves) (passed ++ share index (h.merged moves))
      (lines ++ warnings index h moves) (h.run moves) := by
  induction moves generalizing events passed lines h with
  | nil => simpa [told, merged, share, warnings, run] using ht
  | cons m rest ih =>
      have hrest := ih (tracked_act ht m)
      rw [merged, warnings, share_append, ← List.append_assoc, ← List.append_assoc]
      have htold : events ++ told adapter (m :: rest) = events ++ (m.told? adapter).toList ++ told adapter rest := by
        cases hm : m.told? adapter with
        | none => rw [told, List.filterMap_cons_none hm, Option.toList_none, List.append_nil]; rfl
        | some e => rw [told, List.filterMap_cons_some hm, Option.toList_some, List.append_assoc]; rfl
      rw [htold]
      exact hrest

/-- A step of a forwarder that has not come to the end sends something or warns. -/
theorem progress (hbehind : ¬ h.CaughtUp index) :
    0 < (share index (h.sent (.forward index))).length + (warned index h (.forward index)).length := by
  have hmoved := moved_act h (.forward index)
  have hforward : (Move.forward index : Move α).isForward index = true := decide_eq_true rfl
  rw [warned, if_pos hforward]
  generalize h.act (.forward index) = h', h.sent (.forward index) = sent, (h.step (.forward index)).2 = lines'
    at hmoved ⊢
  cases hmoved with
  | idle hidle => exact absurd hidle hbehind
  | passed => simp [share]
  | lost => simp

/-- **A forwarder that is let go on comes to the end.** -/
theorem Tracked.settles (n : Nat) {h : Hub α} {passed : List Event} {lines : List Log.Line}
    (ht : Tracked index adapter name b events passed lines h)
    (hn : events.length ≤ n + passed.length + lines.length) :
    ∃ k, (h.run (List.replicate k (.forward index))).CaughtUp index := by
  induction n generalizing h passed lines with
  | zero =>
      refine ⟨0, by_contra fun hbehind : ¬ h.CaughtUp index => ?_⟩
      have hle := (tracked_act ht (.forward index)).length_le
      have hmore := progress hbehind
      simp only [Move.told?, Option.toList_none, List.append_nil, List.length_append] at hle
      omega
  | succ n ih =>
      by_cases hbehind : h.CaughtUp index
      · exact ⟨0, hbehind⟩
      · have hnext := tracked_act ht (.forward index)
        have hmore := progress hbehind
        simp only [Move.told?, Option.toList_none, List.append_nil] at hnext
        obtain ⟨k, hk⟩ := ih hnext (by simp only [List.length_append]; omega)
        exact ⟨k + 1, hk⟩

/-! ## Indices -/

theorem size_act (h : Hub α) (m : Move α) : h.registry.size ≤ (h.act m).registry.size := by
  have hmoved := moved_act h m
  generalize h.act m = h', h.sent m = sent, (h.step m).2 = lines' at hmoved ⊢
  cases hmoved with
  | refused => exact Nat.le_refl _
  | added => simp [Registry.size]
  | told => exact Nat.le_refl _
  | idle _ => exact Nat.le_refl _
  | passed _ _ => simp [Registry.size]
  | lost _ _ => simp [Registry.size]

theorem size_run (h : Hub α) (moves : List (Move α)) : h.registry.size ≤ (h.run moves).registry.size := by
  induction moves generalizing h with
  | nil => exact Nat.le_refl _
  | cons m rest ih => exact Nat.le_trans (size_act h m) (ih (h.act m))

/-- What is sent has the index of an adapter that is there. -/
theorem lt_size_of_sent {x : Nat × Event} (hx : x ∈ h.sent m) : x.1 < h.registry.size := by
  have hmoved := moved_act h m
  generalize h.act m = h', h.sent m = sent, (h.step m).2 = lines' at hmoved hx
  cases hmoved with
  | passed hmember _ => exact List.mem_singleton.mp hx ▸ (List.getElem?_eq_some_iff.mp hmember).1
  | _ => simp at hx

theorem lt_size_of_merged {moves : List (Move α)} {x : Nat × Event} (hx : x ∈ h.merged moves) :
    x.1 < (h.run moves).registry.size := by
  induction moves generalizing h with
  | nil => simp [merged] at hx
  | cons m rest ih =>
      rcases List.mem_append.mp hx with hx | hx
      · exact Nat.lt_of_lt_of_le (lt_size_of_sent hx) (size_run h (m :: rest))
      · exact ih hx

theorem warned_of_size_le (hindex : h.registry.size ≤ index) : warned index h m = [] := by
  unfold warned
  split
  · next hforward =>
      cases m with
      | forward index' =>
          obtain rfl := of_decide_eq_true hforward
          have hidle := caughtUp_of_not_member (List.getElem?_eq_none hindex)
          rw [step, hidle]
      | _ => contradiction
  · rfl

/-- Nothing has an index that no adapter has. -/
theorem untouched (h : Hub α) (moves : List (Move α)) (hindex : (h.run moves).registry.size ≤ index) :
    share index (h.merged moves) = [] ∧ warnings index h moves = [] := by
  constructor
  · refine List.eq_nil_iff_forall_not_mem.mpr fun e he => ?_
    exact absurd (lt_size_of_merged (mem_share.mp he)) (Nat.not_lt.mpr hindex)
  · induction moves generalizing h with
    | nil => rfl
    | cons m rest ih =>
        rw [warnings, warned_of_size_le (Nat.le_trans (size_run h (m :: rest)) hindex), ih (h.act m) hindex]
        rfl

/-- **Every index in use was the answer to an `add`.** -/
theorem exists_add {moves : List (Move α)} (hnew : h.registry.size ≤ index)
    (hindex : index < (h.run moves).registry.size) :
    ∃ before adapter name after, moves = before ++ .add true adapter name :: after ∧
      (h.run before).answer true adapter name = .ok index := by
  induction moves generalizing h with
  | nil => exact absurd hindex (Nat.not_lt.mpr hnew)
  | cons m rest ih =>
      by_cases hlt : (h.act m).registry.size ≤ index
      · obtain ⟨before, adapter, name, after, rfl, hanswer⟩ := ih hlt hindex
        exact ⟨m :: before, adapter, name, after, rfl, hanswer⟩
      · have hmoved := moved_act h m
        generalize h.act m = h', h.sent m = sent, (h.step m).2 = lines' at hmoved hlt
        cases hmoved with
        | @added adapter name =>
            refine ⟨[], adapter, name, rest, rfl, answer_eq_ok_iff.mpr ⟨rfl, ?_⟩⟩
            simp only [Registry.size, List.length_append, List.length_singleton] at hnew hlt
            simp only [run, List.foldl_nil, Registry.size]
            omega
        | passed _ _ => simp [Registry.size] at hnew hlt; omega
        | lost _ _ => simp [Registry.size] at hnew hlt; omega
        | _ => exact absurd hnew hlt

/-- **From the time at which it is added**, a forwarder is kept track of. -/
theorem tracked_of_add (h : Hub α) (before : List (Move α)) (adapter : α) (name : String) (after : List (Move α)) :
    Tracked (h.run before).registry.size adapter name ((h.run before).channel adapter) (told adapter after)
      (share (h.run before).registry.size (h.merged (before ++ .add true adapter name :: after)))
      (warnings (h.run before).registry.size h (before ++ .add true adapter name :: after))
      (h.run (before ++ .add true adapter name :: after)) := by
  obtain ⟨hshare, hwarnings⟩ := untouched h before (Nat.le_refl _)
  have hsent : (h.run before).sent (.add true adapter name) = [] := sent_of_merged rfl
  have hstart : Tracked (h.run before).registry.size adapter name ((h.run before).channel adapter) [] [] []
      ((h.run before).act (.add true adapter name)) :=
    ⟨rfl, _, [], List.getElem?_concat_length, .subscribe _, rfl⟩
  rw [merged_append, warnings_append, share_append, hshare, hwarnings, merged, hsent, run_append]
  exact tracked_run hstart after

/-! ## Faithfulness -/

/-- **What the merged channel owes to an adapter** that was added to a hub, with this index, before the moves `after`;
`moves` are all moves, from the beginning. -/
structure Faithful (h : Hub α) (moves after : List (Move α)) (adapter : α) (name : String) (index : Nat) : Prop where
  /-- The index stays with the adapter. -/
  found : (h.run moves).registry.get? index = some adapter
  /-- What is sent under the index is a part of what the adapter has told since, in order and with nothing twice. -/
  in_order : (share index (h.merged moves)).Sublist (told adapter after)
  /-- Nothing else is sent under the index. -/
  own : ∀ e, (index, e) ∈ h.merged moves → .tell adapter e ∈ after
  /-- Nothing is sent under an index that no adapter was given. -/
  given : ∀ x ∈ h.merged moves, ∃ before' adapter' name' after',
    moves = before' ++ .add true adapter' name' :: after' ∧ (h.run before').answer true adapter' name' = .ok x.1
  /-- All that the forwarder logs are warnings of losses. -/
  warned : ∃ losses : List Nat, warnings index h moves = losses.map (lossWarning index name)
  /-- What was lost and what was sent never exceed what was told, and make it up once the forwarder has caught up. -/
  account : ∀ losses : List Nat, warnings index h moves = losses.map (lossWarning index name) →
    (share index (h.merged moves)).length + losses.sum ≤ (told adapter after).length ∧
    ((h.run moves).CaughtUp index →
      (told adapter after).length = (share index (h.merged moves)).length + losses.sum)
  /-- Nothing is left out without a warning. -/
  lossless : warnings index h moves = [] → (h.run moves).CaughtUp index →
    share index (h.merged moves) = told adapter after
  /-- The forwarder catches up if it is let go on. -/
  settles : ∃ k, (h.run (moves ++ List.replicate k (.forward index))).CaughtUp index

/-- **The merged channel is faithful to every adapter**, in every history that begins without adapters: what is sent
under its index is what it has told since it was added, in order, less the events that its forwarder has warned of. -/
theorem faithful_run (channel : α → Broadcast Event) (before after : List (Move α)) (runtime : Bool) (adapter : α)
    (name : String) (index : Nat) (hanswer : ((start channel).run before).answer runtime adapter name = .ok index) :
    Faithful (start channel) (before ++ .add runtime adapter name :: after) after adapter name index := by
  obtain ⟨rfl, rfl⟩ := answer_eq_ok_iff.mp hanswer
  have htracked := tracked_of_add (start channel) before adapter name after
  obtain ⟨hfound, losses, hlosses, hpos, hsublist, hle, hall⟩ := htracked.account
  refine ⟨hfound, hsublist, ?_, ?_, ⟨losses, hlosses⟩, ?_, ?_, ?_⟩
  · intro e he
    exact mem_told (hsublist.subset (mem_share.mpr he))
  · intro x hx
    exact exists_add (Nat.zero_le _) (lt_size_of_merged hx)
  · intro losses' hlosses'
    have hsame : losses' = losses :=
      List.map_injective_iff.mpr (lossWarning_injective _ name) (hlosses'.symm.trans hlosses)
    exact hsame ▸ ⟨hle, hall⟩
  · intro hnone hcaught
    rw [hnone, eq_comm, List.map_eq_nil_iff] at hlosses
    have hlength := hall hcaught
    rw [hlosses, List.sum_nil, Nat.add_zero] at hlength
    exact hsublist.eq_of_length hlength.symm
  · obtain ⟨k, hk⟩ := htracked.settles _ (Nat.le_add_right_of_le (Nat.le_add_right _ _))
    exact ⟨k, by rw [run_append]; exact hk⟩

/-- A history in which the second of two adapters tells more than its channel keeps: its forwarder loses one event of
three, while that of the first loses none. -/
def crowded : List (Move Nat) :=
  [.tell 4 .disconnected, .tell 7 .connected, .forward 0, .tell 4 .connected, .tell 7 (.error "timeout"),
    .tell 7 .disconnected, .forward 1, .forward 0, .forward 1, .forward 0, .forward 1]

theorem faithful_run_crowded :
    let channel : Nat → Broadcast Event := fun _ => ⟨2, 0, [], by decide, by decide⟩
    let before : List (Move Nat) := [.tell 7 .connected, .add true 4 "ethernet"]
    let moves := before ++ .add true 7 "wireless" :: crowded
    ((start channel).run before).answer true 7 "wireless" = .ok 1 ∧
    (start channel).merged moves =
      [(0, .disconnected), (0, .connected), (1, .error "timeout"), (1, .disconnected)] ∧
    warnings 1 (start channel) moves = [lossWarning 1 "wireless" 1] ∧ warnings 0 (start channel) moves = [] ∧
    ((start channel).run moves).CaughtUp 1 ∧
    Faithful (start channel) moves crowded 7 "wireless" 1 :=
  ⟨rfl, rfl, rfl, rfl, rfl, faithful_run _ _ crowded true 7 "wireless" 1 rfl⟩

end Hub

end Network

end Peripherals
