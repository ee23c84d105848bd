import Mathlib.Data.List.Nodup
import Mathlib.Data.List.Perm.Basic
import Peripherals.Proofs.Analog.Batches

/-!
# `Proofs.Analog.Gazette` — batches are published in three writes

A batch is published in three writes, and each of them has a lock of its own: the batch becomes the buffer, its mean
takes the place of the one before, and subscribers are told. On several threads anything may come in between: a reader
of the buffer, and also another loop, if it was started before the last stop had returned. A `Gazette` is a port at work
with its publications under way, and each write is a step. A loop that publishes takes no turn until it is done.

Whatever the order of the writes, the buffer is a whole batch, and so is what each change was told of. The replacements
of the mean follow one another (`Gazette.ledger`), and each of them is told once, in whatever order.

* `Publication`, `Gazette`, `Gazette.act` — publications, write by write;
* `Gazette.tale`, `Gazette.ledger` — what is told, and what takes the place of what;
* `Gazette.Acted` — everything that a step can do. No later proof opens a step (`Gazette.acted_act`);
* `Gazette.Kept`, `Gazette.delivered` — what holds after all steps.
-/

namespace Peripherals

/-- The entry of a key, and those of a table that has the other keys. -/
theorem Table.entries_perm {κ α : Type} [DecidableEq κ] {t : Table κ α} {k : κ} {a : α} (h : t.get? k = some a)
    (t' : Table κ α) (hrest : ∀ k', t'.get? k' = if k = k' then none else t.get? k') :
    t.entries.Perm ((k, a) :: t'.entries) := by
  have hnew : (k, a) ∉ t'.entries := fun hmem => by
    have hsome := get?_eq_some_iff.mpr hmem
    rw [hrest, if_pos rfl] at hsome
    contradiction
  refine (List.perm_ext_iff_of_nodup t.nodup_keys.of_map (List.nodup_cons.mpr ⟨hnew, t'.nodup_keys.of_map⟩)).mpr ?_
  rintro ⟨k', b⟩
  rw [List.mem_cons, ← get?_eq_some_iff, ← get?_eq_some_iff, hrest]
  by_cases hk : k = k'
  · subst hk
    simp [h, eq_comm]
  · have hne : ¬ k' = k := fun heq => hk heq.symm
    simp [hk, hne]

/-- The entry that is set, and those of the other keys. -/
theorem Table.entries_set_perm {κ α : Type} [DecidableEq κ] (t : Table κ α) (k : κ) (a : α) :
    (t.set k a).entries.Perm ((k, a) :: (t.erase k).entries) := by
  refine entries_perm (get?_set_self t k a) (t.erase k) fun k' => ?_
  rw [get?_erase, get?_set]
  split
  · rfl
  · rfl

/-- There is nothing to take out. -/
theorem Table.entries_erase_of_get? {κ α : Type} [DecidableEq κ] {t : Table κ α} {k : κ} (h : t.get? k = none) :
    (t.erase k).entries = t.entries := by
  refine List.filter_eq_self.mpr fun e he => decide_eq_true fun heq => ?_
  have hsome : t.get? k = some e.2 := get?_eq_some_iff.mpr (heq ▸ he)
  rw [h] at hsome
  contradiction

/-- What holds of all values holds of them after one more is set. -/
theorem Table.forall_set {κ α : Type} [DecidableEq κ] {t : Table κ α} {P : α → Prop}
    (h : ∀ k a, t.get? k = some a → P a) (k : κ) {a : α} (ha : P a) : ∀ k' b, (t.set k a).get? k' = some b → P b := by
  intro k' b hb
  rw [get?_set] at hb
  split at hb
  · exact Option.some.inj hb ▸ ha
  · exact h k' b hb

/-- What holds of all values holds of those that are left. -/
theorem Table.forall_erase {κ α : Type} [DecidableEq κ] {t : Table κ α} {P : α → Prop}
    (h : ∀ k a, t.get? k = some a → P a) (k : κ) : ∀ k' b, (t.erase k).get? k' = some b → P b := by
  intro k' b hb
  rw [get?_erase] at hb
  split at hb
  · contradiction
  · exact h k' b hb

/-! ## Publications -/

/-- **What is left to do of a publication.** -/
inductive Publication where
  /-- The batch is to become the buffer, and the rest is to be done as well. -/
  | swap (batch : List Voltage) (mean : Voltage)
  /-- The mean is to take the place of the one before, and subscribers are to be told. -/
  | replace (mean : Voltage)
  /-- Subscribers are to be told. -/
  | announce (change : VoltageChange)

/-- The mean that is published. -/
def Publication.mean : Publication → Voltage
  | .swap _ mean => mean
  | .replace mean => mean
  | .announce change => change.new

/-- The change that is left to be told. -/
def Publication.change? : Publication → Option VoltageChange
  | .announce change => some change
  | _ => none

namespace AnalogPort

/-- A loop that waits does so from now on. -/
def rest (p : AnalogPort) (number now : Nat) : AnalogPort :=
  match p.loops.get? number with
  | some ⟨.waiting taken _, throttle⟩ =>
    { p with loops := p.loops.set number ⟨.waiting taken (now + p.updateInterval.ceilMillis), throttle⟩ }
  | _ => p

/-- A port whose subscribers are told nothing has published nothing. -/
theorem Moved.unpublished {p p' : AnalogPort} {sampled : Option (Nat × Conversion)}
    (h : p.Moved p' sampled []) :
    { p' with buffer := p.buffer, previous := p.previous, changes := p.changes } = p' := by
  cases h with
  | _ => rfl

/-- Only a sample tells of a change. -/
theorem Moved.sampled_of_told {p p' : AnalogPort} {sampled : Option (Nat × Conversion)} {n : VoltageChange}
    {rest : List VoltageChange} (h : p.Moved p' sampled (n :: rest)) :
    ∃ number o, sampled = some (number, o) ∧ rest = [] := by
  cases h with
  | whole hloop v wake throttle hlong mean hmean => exact ⟨_, _, rfl, rfl⟩

/-- A loop that waits anew publishes nothing. -/
@[simp] theorem changes_rest (p : AnalogPort) (number now : Nat) : (p.rest number now).changes = p.changes := by
  unfold rest
  split
  · rfl
  · rfl

@[simp] theorem buffer_rest (p : AnalogPort) (number now : Nat) : (p.rest number now).buffer = p.buffer := by
  unfold rest
  split
  · rfl
  · rfl

@[simp] theorem previous_rest (p : AnalogPort) (number now : Nat) : (p.rest number now).previous = p.previous := by
  unfold rest
  split
  · rfl
  · rfl

@[simp] theorem conversion_rest (p : AnalogPort) (number now : Nat) : (p.rest number now).conversion = p.conversion := by
  unfold rest
  split
  · rfl
  · rfl

end AnalogPort

namespace Probe

/-- The port after a move of which nothing has been published yet. -/
def enter (s : Probe) (m : Move) : Probe :=
  { hardware := (s.act m).hardware
    port :=
      { (s.act m).port with
        buffer := s.port.buffer
        previous := s.port.previous
        changes := s.port.changes } }

/-- What a loop has to publish after a move, with the number of the loop. -/
def publication? (s : Probe) (m : Move) : Option (Nat × Publication) :=
  match s.told m with
  | [] => none
  | n :: _ => (s.sampled m).map fun x => (x.1, .swap (s.act m).port.buffer n.new)

end Probe

/-- **An analog port at work, with its publications under way** by the numbers of the loops that make them. -/
structure Gazette where
  probe : Probe
  pending : Table Nat Publication

namespace Gazette

/-- What can happen. -/
inductive Step where
  /-- A move, without what it publishes. -/
  | move (m : Probe.Move)
  /-- The next write of the publication that a loop makes. After the last one the loop waits. -/
  | write (number now : Nat)

/-- No publication is under way. -/
def idle (s : Probe) : Gazette := ⟨s, .empty⟩

def port (g : Gazette) : AnalogPort := g.probe.port

/-- Whether a move is the turn of a loop that has a publication under way. -/
def busy (g : Gazette) : Probe.Move → Bool
  | .poll number _ _ _ => (g.pending.get? number).isSome
  | _ => false

/-- The publications under way after a move. -/
def enlist (g : Gazette) (m : Probe.Move) : Table Nat Publication :=
  match g.probe.publication? m with
  | some (number, publication) => g.pending.set number publication
  | none => g.pending

/-- **What a step does.** -/
def act (g : Gazette) : Step → Gazette
  | .move m => if g.busy m then g else ⟨g.probe.enter m, g.enlist m⟩
  | .write number now =>
    match g.pending.get? number with
    | some (.swap batch mean) => ⟨{ g.probe with port := g.port.swap batch }, g.pending.set number (.replace mean)⟩
    | some (.replace mean) =>
      let (old, port) := g.port.replace mean
      ⟨{ g.probe with port }, g.pending.set number (.announce ⟨mean, old⟩)⟩
    | some (.announce change) =>
      ⟨{ g.probe with port := (g.port.announce change).rest number now }, g.pending.erase number⟩
    | none => g

/-- What holds after steps. -/
def run (g : Gazette) (steps : List Step) : Gazette := steps.foldl act g

/-- The sample that a loop takes in a step. -/
def sampled (g : Gazette) : Step → Option (Nat × Conversion)
  | .move m => if g.busy m then none else g.probe.sampled m
  | .write _ _ => none

/-- What the loops call in a step. -/
def called (g : Gazette) : Step → List Driver.Record
  | .move m => if g.busy m then [] else g.probe.called m
  | .write _ _ => []

/-- The mean that takes the place of another one in a step. -/
def replaced? (g : Gazette) : Step → Option VoltageChange
  | .move _ => none
  | .write number _ =>
    match g.pending.get? number with
    | some (.replace mean) => some ⟨mean, g.port.previous⟩
    | _ => none

/-- What the subscribers of the port are told by a step. -/
def told (g : Gazette) (step : Step) : List VoltageChange := g.port.changes.news (g.act step).port.changes

/-- Everything of a kind that comes of steps. -/
def gather {α : Type} (of : Gazette → Step → List α) : Gazette → List Step → List α
  | _, [] => []
  | g, step :: rest => of g step ++ gather of (g.act step) rest

/-- The samples that the loops take. -/
def samples (g : Gazette) (steps : List Step) : List (Nat × Conversion) :=
  g.gather (fun g step => (g.sampled step).toList) steps

/-- What the loops call. -/
def calls (g : Gazette) (steps : List Step) : List Driver.Record := g.gather called steps

/-- **What the subscribers of the port are told**, in order. -/
def tale (g : Gazette) (steps : List Step) : List VoltageChange := g.gather told steps

/-- **The means that take the place of one another**, in order. -/
def ledger (g : Gazette) (steps : List Step) : List VoltageChange :=
  g.gather (fun g step => (g.replaced? step).toList) steps

/-- The changes that are left to be told. -/
def outgoing (pending : Table Nat Publication) : List VoltageChange := pending.entries.filterMap fun e => e.2.change?

variable {g : Gazette} {steps : List Step} {count : Nat} {samples : List (Nat × Conversion)}
  {ledger tale : List VoltageChange}

/-! ## What a step can do -/

/-- **Everything that a step can do**, with the sample that a loop takes in it, the mean that takes the place of another
one, and the changes that are told. -/
inductive Acted (g : Gazette) :
    Gazette → Option (Nat × Conversion) → Option VoltageChange → List VoltageChange → Prop where
  | same : Acted g g none none []
  /-- A move publishes nothing. -/
  | moved {p : AnalogPort} {sampled : Option (Nat × Conversion)} (hardware : Hardware)
    (hmoved : g.port.Moved p sampled []) : Acted g ⟨⟨hardware, p⟩, g.pending⟩ sampled none []
  /-- A loop has a batch to publish. -/
  | begun {p : AnalogPort} {number : Nat} {o : Conversion} {mean : Voltage} {old : Option Voltage} (hardware : Hardware)
    (hfree : g.pending.get? number = none) (hmoved : g.port.Moved p (some (number, o)) [⟨mean, old⟩]) :
    Acted g
      ⟨⟨hardware, { p with buffer := g.port.buffer, previous := g.port.previous, changes := g.port.changes }⟩,
        g.pending.set number (.swap p.buffer mean)⟩
      (some (number, o)) none []
  /-- A batch becomes the buffer. -/
  | swapped {number : Nat} {batch : List Voltage} {mean : Voltage}
    (hpending : g.pending.get? number = some (.swap batch mean)) :
    Acted g ⟨{ g.probe with port := { g.port with buffer := batch } }, g.pending.set number (.replace mean)⟩ none none
      []
  /-- A mean takes the place of the one before. -/
  | replaced {number : Nat} {mean : Voltage} (hpending : g.pending.get? number = some (.replace mean)) :
    Acted g
      ⟨{ g.probe with port := { g.port with previous := some mean } },
        g.pending.set number (.announce ⟨mean, g.port.previous⟩)⟩
      none (some ⟨mean, g.port.previous⟩) []
  /-- Subscribers are told. -/
  | announced {number : Nat} {change : VoltageChange} (now : Nat)
    (hpending : g.pending.get? number = some (.announce change)) :
    Acted g ⟨{ g.probe with port := (g.port.announce change).rest number now }, g.pending.erase number⟩ none none
      [change]

/-- The number of a loop that takes a sample is that of the turn. -/
theorem busy_of_sampled {m : Probe.Move} {number : Nat} {o : Conversion} (h : g.probe.sampled m = some (number, o)) :
    g.busy m = (g.pending.get? number).isSome := by
  cases m with
  | poll number' now wall late =>
      obtain ⟨_, -, heq⟩ := Option.map_eq_some_iff.mp h
      rw [← (Prod.mk.inj heq).1]
      rfl
  | _ => contradiction

theorem act_busy {m : Probe.Move} (h : g.busy m) : g.act (.move m) = g := by
  simp only [act, h, if_true]

theorem act_free {m : Probe.Move} (h : ¬ g.busy m) : g.act (.move m) = ⟨g.probe.enter m, g.enlist m⟩ := by
  simp only [act, h, Bool.false_eq_true, if_false]

/-- A move publishes nothing by itself. -/
theorem published_move (g : Gazette) (m : Probe.Move) : (g.act (.move m)).port.buffer = g.port.buffer ∧
    (g.act (.move m)).port.previous = g.port.previous ∧ (g.act (.move m)).port.changes = g.port.changes := by
  by_cases hbusy : g.busy m
  · rw [act_busy hbusy]
    exact ⟨rfl, rfl, rfl⟩
  · rw [act_free hbusy]
    exact ⟨rfl, rfl, rfl⟩

theorem act_idling {number : Nat} (h : g.pending.get? number = none) (now : Nat) : g.act (.write number now) = g := by
  simp only [act, h]

theorem act_swap {number : Nat} {batch : List Voltage} {mean : Voltage}
    (h : g.pending.get? number = some (.swap batch mean)) (now : Nat) : g.act (.write number now) =
      ⟨{ g.probe with port := g.port.swap batch }, g.pending.set number (.replace mean)⟩ := by
  simp only [act, h]

theorem act_replace {number : Nat} {mean : Voltage} (h : g.pending.get? number = some (.replace mean)) (now : Nat) :
    g.act (.write number now) =
      ⟨{ g.probe with port := (g.port.replace mean).2 }, g.pending.set number (.announce ⟨mean, g.port.previous⟩)⟩ := by
  simp only [act, h]
  rfl

theorem act_announce {number : Nat} {change : VoltageChange} (h : g.pending.get? number = some (.announce change))
    (now : Nat) : g.act (.write number now) =
      ⟨{ g.probe with port := (g.port.announce change).rest number now }, g.pending.erase number⟩ := by
  simp only [act, h]

theorem told_of_same {step : Step} (h : (g.act step).port.changes = g.port.changes) : g.told step = [] := by
  rw [told, h]
  exact g.port.changes.news_self

theorem told_of_sent {step : Step} {change : VoltageChange}
    (h : (g.act step).port.changes = g.port.changes.send change) : g.told step = [change] := by
  rw [told, h]
  exact g.port.changes.news_send change

theorem acted_move (g : Gazette) (m : Probe.Move) : g.Acted (g.act (.move m)) (g.sampled (.move m)) none [] := by
  by_cases hbusy : g.busy m
  · rw [act_busy hbusy]
    simp only [sampled, hbusy, if_true]
    exact .same
  · rw [act_free hbusy]
    simp only [sampled, hbusy, Bool.false_eq_true, if_false, enlist, Probe.publication?, Probe.enter]
    have hmoved := g.probe.moved_act m
    cases htold : g.probe.told m with
    | nil =>
        rw [htold] at hmoved
        have hsame := hmoved.unpublished
        simp only [hsame]
        exact .moved _ hmoved
    | cons n rest =>
        rw [htold] at hmoved
        obtain ⟨number, o, hsampled, rfl⟩ := hmoved.sampled_of_told
        rw [hsampled] at hmoved ⊢
        have hfree : g.pending.get? number = none := by
          rw [busy_of_sampled hsampled] at hbusy
          exact Option.not_isSome_iff_eq_none.mp hbusy
        exact .begun _ hfree hmoved

/-- **What a step does.** -/
theorem acted_act (g : Gazette) (step : Step) :
    g.Acted (g.act step) (g.sampled step) (g.replaced? step) (g.told step) := by
  cases step with
  | move m =>
      rw [told_of_same (g.published_move m).2.2]
      exact g.acted_move m
  | write number now =>
      simp only [sampled, replaced?]
      cases hpending : g.pending.get? number with
      | none =>
          have hact := act_idling hpending now
          rw [told_of_same (by rw [hact]), hact]
          exact .same
      | some publication =>
          cases publication with
          | swap batch mean =>
              have hact := act_swap hpending now
              rw [told_of_same (by rw [hact]; rfl), hact]
              exact .swapped hpending
          | replace mean =>
              have hact := act_replace hpending now
              rw [told_of_same (by rw [hact]; rfl), hact]
              exact .replaced hpending
          | announce change =>
              have hact := act_announce hpending now
              rw [told_of_sent (by rw [hact]; exact AnalogPort.changes_rest ..), hact]
              exact .announced now hpending

/-! ## What the writes keep -/

/-- The mean of readings that some loop took as one whole batch. -/
def OfBatch (count : Nat) (samples : List (Nat × Conversion)) (mean : Voltage) : Prop :=
  ∃ batch, WholeBatch count samples batch ∧ Voltage.mean? batch = some mean

theorem OfBatch.append {mean : Voltage} (h : OfBatch count samples mean) (more : List (Nat × Conversion)) :
    OfBatch count (samples ++ more) mean := by
  obtain ⟨batch, hbatch, hmean⟩ := h
  exact ⟨batch, hbatch.append more, hmean⟩

/-- A publication of a whole batch. -/
def Backed (count : Nat) (samples : List (Nat × Conversion)) : Publication → Prop
  | .swap batch mean => WholeBatch count samples batch ∧ Voltage.mean? batch = some mean
  | .replace mean => OfBatch count samples mean
  | .announce change => OfBatch count samples change.new

theorem Backed.append {publication : Publication} (h : Backed count samples publication)
    (more : List (Nat × Conversion)) : Backed count (samples ++ more) publication := by
  cases publication with
  | swap batch mean => exact ⟨h.1.append more, h.2⟩
  | replace mean => exact OfBatch.append h more
  | announce change => exact OfBatch.append h more

/-- No write has been made yet. -/
structure Blank (ledger : List VoltageChange) (g : Gazette) : Prop where
  buffer : g.port.buffer = []
  ledger : ledger = []
  pending : ∀ number publication, g.pending.get? number = some publication →
    ∃ batch mean, publication = .swap batch mean

/-- **What holds after all steps**, if these samples have been taken and these means have taken the place of one
another. -/
structure Kept (count : Nat) (samples : List (Nat × Conversion)) (ledger : List VoltageChange) (g : Gazette) :
    Prop where
  collected : Collected count samples g.port
  previous : g.port.previous = ledger.getLast?.map (·.new)
  chained : Chained ledger
  buffer : WholeBatch count samples g.port.buffer ∨ g.Blank ledger
  means : ∀ n ∈ ledger, OfBatch count samples n.new
  backed : ∀ number publication, g.pending.get? number = some publication → Backed count samples publication

variable {g' : Gazette} {sampled : Option (Nat × Conversion)} {replaced : Option VoltageChange}
  {told : List VoltageChange}

/-- A loop that waits anew holds what it held of its batch. -/
theorem collected_rest {p : AnalogPort} (h : Collected count samples p) (number now : Nat) :
    Collected count samples (p.rest number now) := by
  unfold AnalogPort.rest
  split
  · next taken wake throttle hloop =>
    refine ⟨h.count_eq, h.count_pos, fun n hn => ?_, fun n s hs => ?_⟩
    · obtain ⟨hnone, hempty⟩ := h.unborn n hn
      have hne : number ≠ n := by
        rintro rfl
        rw [hloop] at hnone
        contradiction
      exact ⟨(Table.get?_set_of_ne _ _ hne).trans hnone, hempty⟩
    · by_cases hne : number = n
      · subst hne
        obtain rfl := Option.some.inj ((Table.get?_set_self _ _ _).symm.trans hs)
        have hunderway : Underway count (ofLoop number samples) taken ∧ taken.length < count :=
          h.underway number _ hloop
        exact hunderway
      · exact h.underway n s ((Table.get?_set_of_ne _ _ hne).symm.trans hs)
  · exact h

/-- **What a step keeps.** -/
theorem Kept.acted (h : g.Kept count samples ledger) (hacted : g.Acted g' sampled replaced told) :
    g'.Kept count (samples ++ sampled.toList) (ledger ++ replaced.toList) := by
  cases hacted with
  | same => simpa using h
  | @moved p sampled hardware hmoved =>
      -- There are more samples, and what is published stays.
      have hsame := hmoved.unpublished
      have hbacked := fun number publication hget => (h.backed number publication hget).append sampled.toList
      rw [Option.toList_none, List.append_nil]
      refine ⟨h.collected.moved hmoved, ?_, h.chained, ?_, fun n hn => (h.means n hn).append _, hbacked⟩
      · show p.previous = _
        rw [← hsame]
        exact h.previous
      · refine h.buffer.imp (fun hwhole => ?_) fun hblank => ⟨?_, hblank.ledger, hblank.pending⟩
        · show WholeBatch _ _ p.buffer
          rw [← hsame]
          exact hwhole.append _
        · show p.buffer = []
          rw [← hsame]
          exact hblank.buffer
  | @begun p number o mean old hardware hfree hmoved =>
      have hport := h.collected.moved hmoved
      -- The batch is whole, since the move would tell of it.
      obtain ⟨number', v, mean', hsampled, hlength, hbatch, hmean, htold⟩ | htold := h.collected.publishes hmoved
      · obtain ⟨rfl, rfl⟩ := Prod.mk.inj (Option.some.inj hsampled)
        obtain rfl : mean = mean' := congrArg VoltageChange.new (List.cons.inj htold).1
        have hwhole : WholeBatch count (samples ++ [(number, .ok v)]) p.buffer :=
          ⟨hlength, number, _, [], (List.append_nil _).symm, hbatch⟩
        rw [Option.toList_none, List.append_nil]
        refine ⟨hport.congr rfl rfl rfl, h.previous, h.chained, ?_, fun n hn => (h.means n hn).append _, ?_⟩
        · exact h.buffer.imp (·.append _) fun hblank =>
            ⟨hblank.buffer, hblank.ledger, Table.forall_set hblank.pending number ⟨_, _, rfl⟩⟩
        · exact Table.forall_set (fun k q hq => (h.backed k q hq).append _) number ⟨hwhole, hmean⟩
      · contradiction
  | @swapped number batch mean hpending =>
      obtain ⟨hwhole, hmean⟩ := h.backed _ _ hpending
      rw [Option.toList_none, Option.toList_none, List.append_nil, List.append_nil]
      refine ⟨h.collected.congr rfl rfl rfl, h.previous, h.chained, .inl hwhole, h.means, ?_⟩
      exact Table.forall_set h.backed number ⟨batch, hwhole, hmean⟩
  | @replaced number mean hpending =>
      have hmean : OfBatch count samples mean := h.backed _ _ hpending
      rw [Option.toList_none, Option.toList_some, List.append_nil]
      refine ⟨h.collected.congr rfl rfl rfl, ?_, h.chained.snoc h.previous, ?_, ?_,
        Table.forall_set h.backed number hmean⟩
      · rw [List.getLast?_concat]
        rfl
      · -- The batch with that mean has become the buffer before.
        refine .inl (h.buffer.resolve_right fun hblank => ?_)
        obtain ⟨batch, mean', hswap⟩ := hblank.pending _ _ hpending
        contradiction
      · intro n hn
        rcases List.mem_append.mp hn with hn | hn
        · exact h.means n hn
        · rw [List.mem_singleton.mp hn]
          exact hmean
  | @announced number change now hpending =>
      have hport : Collected count samples (g.port.announce change) := h.collected.congr rfl rfl rfl
      rw [Option.toList_none, Option.toList_none, List.append_nil, List.append_nil]
      refine ⟨collected_rest hport number now, (AnalogPort.previous_rest ..).trans h.previous, h.chained, ?_, h.means,
        Table.forall_erase h.backed number⟩
      refine .inl ?_
      show WholeBatch _ _ ((g.port.announce change).rest number now).buffer
      rw [AnalogPort.buffer_rest]
      refine h.buffer.resolve_right fun hblank => ?_
      obtain ⟨batch, mean', hswap⟩ := hblank.pending _ _ hpending
      contradiction

/-- By induction on the steps. -/
theorem Kept.run (h : g.Kept count samples ledger) (steps : List Step) :
    (g.run steps).Kept count (samples ++ g.samples steps) (ledger ++ g.ledger steps) := by
  induction steps generalizing g samples ledger with
  | nil =>
      show g.Kept count (samples ++ []) (ledger ++ [])
      rw [List.append_nil, List.append_nil]
      exact h
  | cons step rest ih =>
      have hrest := ih (h.acted (g.acted_act step))
      rw [List.append_assoc, List.append_assoc] at hrest
      exact hrest

/-! ## Every replacement is told once -/

/-- What is left to be told of one publication, and of the others. -/
theorem outgoing_perm {pending pending' : Table Nat Publication} {number : Nat} {publication : Publication}
    (h : pending.entries.Perm ((number, publication) :: pending'.entries)) :
    (outgoing pending).Perm (publication.change?.toList ++ outgoing pending') := by
  refine (h.filterMap _).trans ?_
  cases hchange : publication.change? with
  | none => simp [outgoing, hchange]
  | some change => simp [outgoing, hchange]

/-- Another publication is left to a loop. -/
theorem outgoing_set {pending : Table Nat Publication} {number : Nat} {publication : Publication}
    (h : pending.get? number = some publication) (publication' : Publication) :
    (outgoing (pending.set number publication') ++ publication.change?.toList).Perm
      (outgoing pending ++ publication'.change?.toList) := by
  have hold := outgoing_perm (Table.entries_perm h _ (pending.get?_erase number))
  have hnew := outgoing_perm (pending.entries_set_perm number publication')
  let others := outgoing (pending.erase number)
  calc (outgoing (pending.set number publication') ++ publication.change?.toList).Perm
        (publication'.change?.toList ++ others ++ publication.change?.toList) := hnew.append_right _
    List.Perm _ (publication.change?.toList ++ (publication'.change?.toList ++ others)) := List.perm_append_comm
    List.Perm _ (publication.change?.toList ++ (others ++ publication'.change?.toList)) :=
      List.perm_append_comm.append_left _
    _ = publication.change?.toList ++ others ++ publication'.change?.toList := (List.append_assoc ..).symm
    List.Perm _ (outgoing pending ++ publication'.change?.toList) := hold.symm.append_right _

/-- A step tells what is left to be told, or leaves it for later. -/
theorem delivered_acted (h : g.Acted g' sampled replaced told) :
    (told ++ outgoing g'.pending).Perm (outgoing g.pending ++ replaced.toList) := by
  cases h with
  | same => simp
  | moved hardware hmoved => simp
  | @begun p number o mean old hardware hfree hmoved =>
      have hset := g.pending.entries_set_perm number (.swap p.buffer mean)
      rw [Table.entries_erase_of_get? hfree] at hset
      have hnew := outgoing_perm hset
      simpa [Publication.change?] using hnew
  | swapped hpending => simpa [Publication.change?] using outgoing_set hpending (.replace _)
  | replaced hpending => simpa [Publication.change?] using outgoing_set hpending (.announce _)
  | @announced number change now hpending =>
      have hold := outgoing_perm (Table.entries_perm hpending _ (g.pending.get?_erase number))
      simpa [Publication.change?] using hold.symm

/-- **Every replacement of the mean is told once**, in whatever order, or is left to be told. -/
theorem delivered (g : Gazette) (steps : List Step) :
    (g.tale steps ++ outgoing (g.run steps).pending).Perm (outgoing g.pending ++ g.ledger steps) := by
  induction steps generalizing g with
  | nil => exact .of_eq (List.append_nil _).symm
  | cons step rest ih =>
      have hstep := (delivered_acted (g.acted_act step)).append_right ((g.act step).ledger rest)
      have hrest := (ih (g.act step)).append_left (g.told step)
      rw [List.append_assoc, List.append_assoc] at hstep
      rw [← List.append_assoc] at hrest
      exact hrest.trans hstep

end Gazette

end Peripherals
