/-!
# `Peripherals.Broadcast` — notification channels that forget

A channel keeps its newest entries up to its capacity. Every reader has a place of its own in the sequence of all
entries; a reader that has fallen behind the oldest entry kept is told how many it lost and goes on from there.

* `Broadcast.send`, `Broadcast.subscribe` — the sender's side, and the place of a new reader;
* `Broadcast.receive` — one step of a reader;
* `Broadcast.drain` — all that a reader has to read;
* `Broadcast.news` — what a reader that had read everything finds later.
-/

namespace Peripherals

/-- A notification channel. -/
structure Broadcast (α : Type) where
  /-- How many entries are kept. -/
  capacity : Nat
  /-- How many entries were sent in all. -/
  sent : Nat
  /-- The newest entries, oldest first. -/
  recent : List α
  capacity_pos : 0 < capacity
  length_recent_le : recent.length ≤ sent
  deriving Repr

/-- What a reader finds. -/
inductive Received (α : Type) where
  /-- The next entry. -/
  | entry (a : α)
  /-- That many entries are gone. -/
  | lagged (missed : Nat)
  deriving Repr

namespace Broadcast

variable {α : Type}

/-- The smallest power of two that is at least `n`. -/
def roundUp (n : Nat) : Nat := if n ≤ 1 then 1 else Nat.pow 2 (Nat.log2 (n - 1) + 1)

theorem roundUp_pos (n : Nat) : 0 < roundUp n := by
  unfold roundUp
  split
  · exact Nat.zero_lt_one
  · exact Nat.pow_pos Nat.two_pos

/-- A channel that keeps at least `n` entries. -/
def new (n : Nat) : Broadcast α := ⟨roundUp n, 0, [], roundUp_pos n, Nat.le_refl 0⟩

/-- The channel of the library's own notifications. -/
def ofNotices : Broadcast α := new 32

instance : Inhabited (Broadcast α) := ⟨ofNotices⟩

/-- Sends an entry; the oldest one gives way if there is no room. -/
def send (b : Broadcast α) (a : α) : Broadcast α :=
  let all := b.recent ++ [a]
  { b with
    sent := b.sent + 1
    recent := all.drop (all.length - b.capacity)
    length_recent_le := by
      have hkept := b.length_recent_le
      simp only [List.length_drop, List.length_append, List.length_singleton, all]
      omega }

/-- Sends entries in order. -/
def sendAll (b : Broadcast α) (as : List α) : Broadcast α := as.foldl send b

/-- The place of a reader that starts now. -/
def subscribe (b : Broadcast α) : Nat := b.sent

/-- The place of the oldest entry kept. -/
def oldest (b : Broadcast α) : Nat := b.sent - b.recent.length

/-- **One step of a reader** at `place`: what it finds, and its next place. There is nothing to find at the end. -/
def receive (b : Broadcast α) (place : Nat) : Option (Received α × Nat) :=
  if place < b.oldest then some (.lagged (b.oldest - place), b.oldest)
  else match b.recent[place - b.oldest]? with
    | some a => some (.entry a, place + 1)
    | none => none

/-- All that a reader at `place` finds: what it lost, then every entry kept from its place on. -/
def drain (b : Broadcast α) (place : Nat) : List (Received α) :=
  (if place < b.oldest then [.lagged (b.oldest - place)] else []) ++
    (b.recent.drop (place - b.oldest)).map .entry

/-! ## A reader that has read everything -/

/-- There is nothing for it to find. -/
@[simp] theorem drain_subscribe (b : Broadcast α) : b.drain b.subscribe = [] := by
  have hkept := b.length_recent_le
  have hplace : ¬ b.subscribe < b.oldest := Nat.not_lt.mpr (Nat.sub_le _ _)
  have hskip : b.subscribe - b.oldest = b.recent.length := by
    unfold subscribe oldest
    omega
  unfold drain
  rw [if_neg hplace, hskip, List.drop_length]
  rfl

/-- It finds the next entry, and has lost nothing. -/
@[simp] theorem drain_send (b : Broadcast α) (a : α) : (b.send a).drain b.subscribe = [.entry a] := by
  have hkept := b.length_recent_le
  have hroom := b.capacity_pos
  have hlength : (b.send a).recent.length = b.recent.length + 1 - (b.recent.length + 1 - b.capacity) := by
    simp only [send, List.length_drop, List.length_append, List.length_singleton]
  have hplace : ¬ b.subscribe < (b.send a).oldest := by
    unfold oldest subscribe
    rw [hlength]
    simp only [send]
    omega
  -- All of what is kept but the last entry was there before.
  have hskip : (b.recent.length + 1 - b.capacity) + (b.subscribe - (b.send a).oldest) = b.recent.length := by
    unfold oldest subscribe
    rw [hlength]
    simp only [send]
    omega
  unfold drain
  rw [if_neg hplace]
  simp only [send, List.length_append, List.length_singleton, List.drop_drop] at hskip ⊢
  rw [hskip, List.drop_left]
  rfl

end Broadcast

/-- The entry that a reader has found. -/
def Received.entry? {α : Type} : Received α → Option α
  | .entry a => some a
  | .lagged _ => none

namespace Broadcast

variable {α : Type}

/-- What a reader that had read everything in a channel finds when the channel has gone on. -/
def news (b b' : Broadcast α) : List α := (b'.drain b.subscribe).filterMap Received.entry?

theorem news_sendAll (b : Broadcast α) {as : List α} (h : as.length ≤ 1) : b.news (b.sendAll as) = as := by
  unfold news
  match as, h with
  | [], _ => rw [sendAll, List.foldl_nil, drain_subscribe, List.filterMap_nil]
  | [a], _ => rw [sendAll, List.foldl_cons, List.foldl_nil, drain_send]; rfl

/-- Nothing was sent in between. -/
theorem news_self (b : Broadcast α) : b.news b = [] :=
  have hnone : b.news (b.sendAll []) = [] := b.news_sendAll (Nat.zero_le 1)
  hnone

/-- One entry was sent in between. -/
theorem news_send (b : Broadcast α) (a : α) : b.news (b.send a) = [a] :=
  have hone : b.news (b.sendAll [a]) = [a] := b.news_sendAll (Nat.le_refl 1)
  hone

end Broadcast

end Peripherals
