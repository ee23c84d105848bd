import Mathlib.Data.List.Nodup
import Mathlib.Data.List.Perm.Basic
import Peripherals.Arbiter

/-!
# `Proofs.Pin.Custody` — a pin has at most one owner

An arbiter keeps slots with numbers in them; its users keep tokens. A `Custody` has both sides: the arbiter, the
tokens that users still have, and those that they have lost without giving them back.

The two sides balance: what the slots say (`Arbiter.outstanding`) and what is out (`Custody.out`) are the same
tokens. The numbers take no part in that. They may wrap, since a slot is not filled again before the token for it
has come back. Everything that a user can observe follows from the balance (`Custody.exclusive_of_balanced`).

* `Custody.Step`, `Custody.act`, `Custody.run` — what users do, in any order;
* `Custody.balanced_act`, `Custody.balanced_run` — one step and a whole history preserve the balance;
* `Custody.exclusive_run` — what holds of the arbiter at every moment.
-/

namespace Peripherals

/-! ## What each operation does -/

namespace Arbiter

variable {a : Arbiter} {pin : Pin} {use : PinUse} {token : Token}

theorem reservation?_eq_none_iff {name : String} : a.reservation? name = none ↔ a.current? name = none :=
  Option.map_eq_none_iff

theorem isReserved_eq_false_iff {name : String} : a.isReserved name = false ↔ a.current? name = none := by
  unfold isReserved
  rw [Option.isSome_eq_false_iff, Option.isNone_iff_eq_none, reservation?_eq_none_iff]

/-- A pin that is free is granted under the next number. -/
theorem reserve_of_free (use : PinUse) (h : a.current? pin.name = none) :
    (a.reserve pin use).result = .ok ⟨pin.name, use, a.nextId⟩ ∧
      (a.reserve pin use).arbiter = ⟨a.slots.set pin.name (some ⟨a.nextId, use⟩), a.nextId + 1⟩ := by
  unfold reserve
  rw [h]
  exact ⟨rfl, rfl⟩

/-- A pin that is held is refused, and stays as it is. -/
theorem reserve_of_held {current : Reservation} (use : PinUse) (h : a.current? pin.name = some current) :
    (a.reserve pin use).result = .error (.alreadyInUse pin.name current.use) ∧ (a.reserve pin use).arbiter = a := by
  unfold reserve
  rw [h]
  exact ⟨rfl, rfl⟩

theorem reserveChecked_of_supports (h : pin.supports use = true) : a.reserveChecked pin use = a.reserve pin use :=
  if_pos h

theorem reserveChecked_of_not_supports (h : pin.supports use = false) :
    (a.reserveChecked pin use).result = .error (.unsupported pin.name use pin.describeChannels) ∧
      (a.reserveChecked pin use).arbiter = a := by
  unfold reserveChecked
  rw [h]
  exact ⟨rfl, rfl⟩

/-- The token of the reservation is taken, and its slot is empty from then on. -/
theorem release_of_current {current : Reservation} (h : a.current? token.pin = some current)
    (hid : current.id = token.id) :
    (a.release token).result = .ok () ∧ (a.release token).arbiter = ⟨a.slots.set token.pin none, a.nextId⟩ := by
  have hslot : a.slots.get? token.pin = some (some current) := Option.join_eq_some_iff.mp h
  unfold release
  rw [hslot]
  simp only [hid, ne_eq, not_true_eq_false, if_false]
  exact ⟨trivial, trivial⟩

/-- Nothing but a reservation under the number of the token is ever ended. -/
theorem release_failed {e : ReservationError} (h : (a.release token).result = .error e) :
    (a.release token).arbiter = a := by
  unfold release at h ⊢
  split
  · rfl
  · rfl
  · next current hslot =>
      simp only [hslot] at h
      by_cases hid : current.id = token.id
      · simp [hid] at h
      · simp [hid]

theorem reserve_failed {e : ReservationError} (h : (a.reserve pin use).result = .error e) :
    (a.reserve pin use).arbiter = a := by
  cases hcurrent : a.current? pin.name with
  | none =>
      rw [(reserve_of_free use hcurrent).1] at h
      contradiction
  | some current => exact (reserve_of_held use hcurrent).2

theorem reserveChecked_failed {e : ReservationError} (h : (a.reserveChecked pin use).result = .error e) :
    (a.reserveChecked pin use).arbiter = a := by
  cases hsupports : pin.supports use with
  | true =>
      rw [reserveChecked_of_supports hsupports] at h ⊢
      exact reserve_failed h
  | false => exact (reserveChecked_of_not_supports hsupports).2

theorem reserve_ok_iff : (∃ t, (a.reserve pin use).result = .ok t) ↔ a.isReserved pin.name = false := by
  rw [isReserved_eq_false_iff]
  cases hcurrent : a.current? pin.name with
  | none =>
      rw [(reserve_of_free use hcurrent).1]
      exact ⟨fun _ => rfl, fun _ => ⟨_, rfl⟩⟩
  | some current =>
      rw [(reserve_of_held use hcurrent).1]
      exact ⟨fun ⟨_, h⟩ => by contradiction, fun h => by contradiction⟩

theorem reserveChecked_ok_iff :
    (∃ t, (a.reserveChecked pin use).result = .ok t) ↔ a.isReserved pin.name = false ∧ pin.supports use = true := by
  cases hsupports : pin.supports use with
  | true =>
      rw [reserveChecked_of_supports hsupports, reserve_ok_iff]
      exact ⟨fun h => ⟨h, rfl⟩, And.left⟩
  | false =>
      rw [(reserveChecked_of_not_supports hsupports).1]
      exact ⟨fun ⟨_, h⟩ => by contradiction, fun ⟨_, h⟩ => by contradiction⟩

/-! ## The tokens that slots stand for -/

theorem current?_set (slot : Option Reservation) (next : UInt64) (name name' : String) :
    current? ⟨a.slots.set name slot, next⟩ name' = if name = name' then slot else a.current? name' := by
  unfold current?
  rw [Table.get?_set]
  split
  · rfl
  · rfl

/-- **The tokens that an arbiter waits for**, one for each reservation. -/
def outstanding (a : Arbiter) : List Token :=
  a.slots.entries.filterMap fun e => e.2.map fun current => ⟨e.1, current.use, current.id⟩

theorem mem_outstanding : token ∈ a.outstanding ↔ a.current? token.pin = some ⟨token.id, token.use⟩ := by
  unfold outstanding current?
  rw [List.mem_filterMap, Option.join_eq_some_iff, Table.get?_eq_some_iff]
  constructor
  · rintro ⟨⟨name, slot⟩, hmem, hslot⟩
    obtain ⟨current, rfl, rfl⟩ := Option.map_eq_some_iff.mp hslot
    exact hmem
  · intro hmem
    exact ⟨_, hmem, rfl⟩

theorem length_outstanding (a : Arbiter) : a.outstanding.length = a.reservedCount := by
  unfold outstanding reservedCount
  rw [List.length_filterMap_eq_countP]
  simp only [Option.isSome_map]

/-- A name has one slot, so that no two of the tokens are for one pin. -/
theorem nodup_pins_outstanding (a : Arbiter) : (a.outstanding.map Token.pin).Nodup := by
  have hkeys : a.slots.entries.Pairwise fun e e' => e.1 ≠ e'.1 := List.pairwise_map.mp a.slots.nodup_keys
  refine List.pairwise_map.mpr (hkeys.filterMap _ ?_)
  intro e e' hne t ht t' ht'
  obtain ⟨_, -, rfl⟩ := Option.map_eq_some_iff.mp ht
  obtain ⟨_, -, rfl⟩ := Option.map_eq_some_iff.mp ht'
  exact hne

theorem nodup_outstanding (a : Arbiter) : a.outstanding.Nodup := (nodup_pins_outstanding a).of_map _

/-- Filling a slot that is empty adds one token to those that are awaited. -/
theorem outstanding_fill {name : String} (h : a.current? name = none) (current : Reservation) (next : UInt64) :
    (outstanding ⟨a.slots.set name (some current), next⟩).Perm (⟨name, current.use, current.id⟩ :: a.outstanding) := by
  have hnew : (⟨name, current.use, current.id⟩ : Token) ∉ a.outstanding := by
    rw [mem_outstanding, h]
    exact nofun
  refine (List.perm_ext_iff_of_nodup (nodup_outstanding _) (List.nodup_cons.mpr ⟨hnew, nodup_outstanding a⟩)).mpr ?_
  rintro ⟨name', use', id'⟩
  rw [List.mem_cons, mem_outstanding, mem_outstanding, current?_set]
  by_cases hname : name = name'
  · subst hname
    obtain ⟨id, use⟩ := current
    simp [h, eq_comm, and_comm]
  · have hne : ¬ name' = name := fun hn => hname hn.symm
    simp [hname, hne]

/-- Emptying the slot of a token takes that token from those that are awaited. -/
theorem outstanding_vacate (h : token ∈ a.outstanding) (next : UInt64) :
    a.outstanding.Perm (token :: outstanding ⟨a.slots.set token.pin none, next⟩) := by
  have hgone : token ∉ outstanding ⟨a.slots.set token.pin none, next⟩ := by
    rw [mem_outstanding, current?_set, if_pos rfl]
    exact nofun
  refine (List.perm_ext_iff_of_nodup (nodup_outstanding a) (List.nodup_cons.mpr ⟨hgone, nodup_outstanding _⟩)).mpr ?_
  rintro ⟨name', use', id'⟩
  rw [List.mem_cons, mem_outstanding, mem_outstanding, current?_set]
  rw [mem_outstanding] at h
  obtain ⟨name, use, id⟩ := token
  by_cases hname : name = name'
  · subst hname
    simp [h, eq_comm, and_comm]
  · have hne : ¬ name' = name := fun hn => hname hn.symm
    simp [hname, hne]

end Arbiter

/-! ## Histories -/

/-- **An arbiter and the tokens that it has given out.** -/
structure Custody where
  arbiter : Arbiter
  /-- The tokens that users have. -/
  kept : List Token
  /-- The tokens that no user has any more, and that were not taken back. -/
  lost : List Token

namespace Custody

/-- What a user can do. A token is named by its place among those that users have. -/
inductive Step where
  | reserve (pin : Pin) (use : PinUse)
  | reserveChecked (pin : Pin) (use : PinUse)
  | release (place : Nat)
  | lose (place : Nat)

/-- An arbiter that nobody has used. -/
def start : Custody := ⟨.empty, [], []⟩

/-- **The tokens that are out**: given out, and not taken back. -/
def out (c : Custody) : List Token := c.kept ++ c.lost

/-- What is left of a request: a token, if there is one, is kept. -/
def take (c : Custody) (o : Arbiter.Outcome Token) : Custody :=
  match o.result with
  | .ok token => ⟨o.arbiter, token :: c.kept, c.lost⟩
  | .error _ => { c with arbiter := o.arbiter }

/-- **What a step does.** A token is gone once it was shown to the arbiter, whatever the arbiter says. A place at
which there is no token is passed over. -/
def act (c : Custody) : Step → Custody
  | .reserve pin use => c.take (c.arbiter.reserve pin use)
  | .reserveChecked pin use => c.take (c.arbiter.reserveChecked pin use)
  | .release place =>
    match c.kept[place]? with
    | none => c
    | some token =>
      let o := c.arbiter.release token
      match o.result with
      | .ok () => ⟨o.arbiter, c.kept.eraseIdx place, c.lost⟩
      | .error _ => ⟨o.arbiter, c.kept.eraseIdx place, token :: c.lost⟩
  | .lose place =>
    match c.kept[place]? with
    | none => c
    | some token => { c with kept := c.kept.eraseIdx place, lost := token :: c.lost }

/-- A custody after steps. -/
def run (c : Custody) (steps : List Step) : Custody := steps.foldl act c

/-! ## The balance -/

/-- **The arbiter waits for the tokens that are out, and for no others.** -/
def Balanced (c : Custody) : Prop := c.arbiter.outstanding.Perm c.out

variable {c : Custody}

theorem balanced_start : start.Balanced := List.Perm.refl _

/-- A token that is out is the one of the reservation of its pin. -/
theorem Balanced.current? (h : c.Balanced) {token : Token} (ht : token ∈ c.out) :
    c.arbiter.current? token.pin = some ⟨token.id, token.use⟩ :=
  Arbiter.mem_outstanding.mp (h.mem_iff.mpr ht)

theorem Balanced.release (h : c.Balanced) {token : Token} (ht : token ∈ c.out) :
    (c.arbiter.release token).result = .ok () ∧
      c.out.Perm (token :: (c.arbiter.release token).arbiter.outstanding) := by
  obtain ⟨hresult, harbiter⟩ := Arbiter.release_of_current (h.current? ht) rfl
  refine ⟨hresult, ?_⟩
  rw [harbiter]
  exact h.symm.trans (Arbiter.outstanding_vacate (h.mem_iff.mpr ht) _)

theorem balanced_take_reserve (h : c.Balanced) (pin : Pin) (use : PinUse) :
    (c.take (c.arbiter.reserve pin use)).Balanced := by
  unfold take
  cases hcurrent : c.arbiter.current? pin.name with
  | none =>
      obtain ⟨hresult, harbiter⟩ := Arbiter.reserve_of_free use hcurrent
      rw [hresult, harbiter]
      exact (Arbiter.outstanding_fill hcurrent _ _).trans (h.cons _)
  | some current =>
      obtain ⟨hresult, harbiter⟩ := Arbiter.reserve_of_held use hcurrent
      rw [hresult, harbiter]
      exact h

theorem balanced_take_reserveChecked (h : c.Balanced) (pin : Pin) (use : PinUse) :
    (c.take (c.arbiter.reserveChecked pin use)).Balanced := by
  cases hsupports : pin.supports use with
  | true =>
      rw [Arbiter.reserveChecked_of_supports hsupports]
      exact balanced_take_reserve h pin use
  | false =>
      obtain ⟨hresult, harbiter⟩ := Arbiter.reserveChecked_of_not_supports (a := c.arbiter) hsupports
      unfold take
      rw [hresult, harbiter]
      exact h

/-- A token that a user has, and the others that are out. -/
theorem out_perm {place : Nat} {token : Token} (h : c.kept[place]? = some token) :
    c.out.Perm (token :: (c.kept.eraseIdx place ++ c.lost)) := by
  obtain ⟨hlt, rfl⟩ := List.getElem?_eq_some_iff.mp h
  exact (List.getElem_cons_eraseIdx_perm hlt).symm.append_right c.lost

/-- **One step preserves the balance.** -/
theorem balanced_act (h : c.Balanced) (step : Step) : (c.act step).Balanced := by
  cases step with
  | reserve pin use => exact balanced_take_reserve h pin use
  | reserveChecked pin use => exact balanced_take_reserveChecked h pin use
  | release place =>
      simp only [act]
      split
      · exact h
      · next token htoken =>
          have hperm := out_perm htoken
          obtain ⟨hresult, hout⟩ := h.release (hperm.mem_iff.mpr List.mem_cons_self)
          simp only [hresult]
          exact (hout.symm.trans hperm).cons_inv
  | lose place =>
      simp only [act]
      split
      · exact h
      · next token htoken =>
          exact (h.trans (out_perm htoken)).trans List.perm_middle.symm

/-- **A history preserves the balance.** -/
theorem balanced_run (h : c.Balanced) (steps : List Step) : (c.run steps).Balanced := by
  induction steps generalizing c with
  | nil => exact h
  | cons step rest ih => exact ih (balanced_act h step)

/-! ## What users can observe -/

/-- **Exclusive ownership**, as the users of an arbiter see it. -/
structure Exclusive (c : Custody) : Prop where
  /-- A pin is held exactly if a token for it is out, and as what that token says. -/
  reservation_iff : ∀ name use, c.arbiter.reservation? name = some use ↔ ∃ t ∈ c.out, t.pin = name ∧ t.use = use
  /-- No two tokens that are out are for one pin. -/
  single : (c.out.map Token.pin).Nodup
  /-- As many pins are held as tokens are out. -/
  count : c.arbiter.reservedCount = c.out.length
  /-- A request is granted exactly if the pin is free. -/
  reserve_iff : ∀ pin use, (∃ t, (c.arbiter.reserve pin use).result = .ok t) ↔ c.arbiter.isReserved pin.name = false
  /-- The token says what was asked for. -/
  granted : ∀ pin use t, (c.arbiter.reserve pin use).result = .ok t → t.pin = pin.name ∧ t.use = use
  /-- A request for a pin that is held is told the holder. -/
  refused : ∀ pin use holder, c.arbiter.reservation? pin.name = some holder →
    (c.arbiter.reserve pin use).result = .error (.alreadyInUse pin.name holder)
  /-- A checked request is granted exactly if, moreover, the pin supports the use. -/
  reserveChecked_iff : ∀ pin use, (∃ t, (c.arbiter.reserveChecked pin use).result = .ok t) ↔
    c.arbiter.isReserved pin.name = false ∧ pin.supports use = true
  /-- A checked request for a use that the pin supports is answered as any other. -/
  reserveChecked_fit : ∀ pin use, pin.supports use = true →
    (c.arbiter.reserveChecked pin use).result = (c.arbiter.reserve pin use).result
  /-- A token that is out is always taken back. -/
  release_ok : ∀ t ∈ c.out, (c.arbiter.release t).result = .ok ()
  /-- What fails leaves the arbiter as it is. -/
  reserve_failed : ∀ pin use e, (c.arbiter.reserve pin use).result = .error e →
    (c.arbiter.reserve pin use).arbiter = c.arbiter
  reserveChecked_failed : ∀ pin use e, (c.arbiter.reserveChecked pin use).result = .error e →
    (c.arbiter.reserveChecked pin use).arbiter = c.arbiter
  release_failed : ∀ t e, (c.arbiter.release t).result = .error e → (c.arbiter.release t).arbiter = c.arbiter

theorem Balanced.reservation_iff (h : c.Balanced) (name : String) (use : PinUse) :
    c.arbiter.reservation? name = some use ↔ ∃ t ∈ c.out, t.pin = name ∧ t.use = use := by
  constructor
  · intro hheld
    obtain ⟨⟨id, use'⟩, hcurrent, rfl⟩ := Option.map_eq_some_iff.mp hheld
    have hmem : (⟨name, use', id⟩ : Token) ∈ c.arbiter.outstanding := Arbiter.mem_outstanding.mpr hcurrent
    exact ⟨_, h.mem_iff.mp hmem, rfl, rfl⟩
  · rintro ⟨t, ht, rfl, rfl⟩
    unfold Arbiter.reservation?
    rw [h.current? ht]
    rfl

theorem exclusive_of_balanced (h : c.Balanced) : c.Exclusive where
  reservation_iff := h.reservation_iff
  single := (h.map Token.pin).nodup_iff.mp (Arbiter.nodup_pins_outstanding c.arbiter)
  count := (Arbiter.length_outstanding c.arbiter).symm.trans h.length_eq
  reserve_iff _ _ := Arbiter.reserve_ok_iff
  granted pin use t ht := by
    have hfree := Arbiter.isReserved_eq_false_iff.mp (Arbiter.reserve_ok_iff.mp ⟨t, ht⟩)
    rw [(Arbiter.reserve_of_free use hfree).1] at ht
    obtain rfl := Except.ok.inj ht
    exact ⟨rfl, rfl⟩
  refused pin use holder hheld := by
    obtain ⟨current, hcurrent, rfl⟩ := Option.map_eq_some_iff.mp hheld
    exact (Arbiter.reserve_of_held use hcurrent).1
  reserveChecked_iff _ _ := Arbiter.reserveChecked_ok_iff
  reserveChecked_fit _ _ hsupports := by rw [Arbiter.reserveChecked_of_supports hsupports]
  release_ok _ ht := (h.release ht).1
  reserve_failed _ _ _ := Arbiter.reserve_failed
  reserveChecked_failed _ _ _ := Arbiter.reserveChecked_failed
  release_failed _ _ := Arbiter.release_failed

/-- **A pin has at most one owner**, at every moment, whatever users have done with the arbiter and its tokens. -/
theorem exclusive_run (steps : List Step) : (start.run steps).Exclusive :=
  exclusive_of_balanced (balanced_run balanced_start steps)

end Custody

end Peripherals
