import Peripherals.Proofs.Port.Making

/-!
# `Proofs.Port.Tenancy` — reservations follow live ports

A `Panel` is the hardware of a board together with the ports that are alive on it. Ports are made by the names of
their pins, used, and dropped, in any order; between any two of these steps the driver may be put into any state, so
that its calls may fail at any moment and in any way.

The arbiter of a panel and the tokens of its ports are a `Custody`, and every step of a panel is a few steps of that
custody (`Panel.custody_act`): an attempt that fails after the claim is a reservation that is given back. So the
balance of the custody carries over, and what the arbiter says can be read off the ports alone.

* `Panel.Step`, `Panel.act`, `Panel.run` — what happens to a panel;
* `Panel.Outcome`, `Panel.outcome_act` — all that a step can come to;
* `Panel.Sound`, `Panel.sound_act`, `Panel.sound_run` — the invariant, for one step and for a whole history;
* `Panel.reservations_follow_ports` — what holds of the arbiter at every moment.
-/

namespace Peripherals

open Hardware

/-! ## What a claim does to the reservations -/

namespace Arbiter

variable {a : Arbiter} {pin : Pin} {use : PinUse} {token : Token}

/-- A token says what was asked for, of a pin that was free. -/
theorem granted_token (hgranted : (a.reserve pin use).result = .ok token) :
    a.reservation? pin.name = none ∧ token.pin = pin.name ∧ token.use = use := by
  have hfree := isReserved_eq_false_iff.mp (reserve_ok_iff.mp ⟨token, hgranted⟩)
  rw [(reserve_of_free use hfree).1] at hgranted
  obtain rfl := Except.ok.inj hgranted
  exact ⟨reservation?_eq_none_iff.mpr hfree, rfl, rfl⟩

theorem reservation?_set (slot : Option Reservation) (next : UInt64) (name name' : String) :
    reservation? ⟨a.slots.set name slot, next⟩ name' =
      if name' = name then slot.map (·.use) else a.reservation? name' := by
  unfold reservation?
  rw [current?_set]
  simp only [eq_comm (a := name')]
  split
  · rfl
  · rfl

/-- A pin that is granted is held, and nothing else changes. -/
theorem reservation?_reserve (hgranted : (a.reserve pin use).result = .ok token) (name : String) :
    (a.reserve pin use).arbiter.reservation? name = if name = pin.name then some use else a.reservation? name := by
  have hfree := isReserved_eq_false_iff.mp (reserve_ok_iff.mp ⟨token, hgranted⟩)
  rw [(reserve_of_free use hfree).2, reservation?_set]
  rfl

/-- A pin that is given back is free, and nothing else changes. -/
theorem reservation?_release (hcurrent : a.current? token.pin = some ⟨token.id, token.use⟩) (name : String) :
    (a.release token).arbiter.reservation? name = if name = token.pin then none else a.reservation? name := by
  rw [(release_of_current hcurrent rfl).2, reservation?_set]
  rfl

/-- **A claim that is given back at once leaves every reservation as it was.** -/
theorem reservation?_undone (hgranted : (a.reserve pin use).result = .ok token) (name : String) :
    ((a.reserve pin use).arbiter.release token).arbiter.reservation? name = a.reservation? name := by
  obtain ⟨hfree, hpin, -⟩ := granted_token hgranted
  have hcurrent : (a.reserve pin use).arbiter.current? token.pin = some ⟨token.id, token.use⟩ := by
    have hslot := reservation?_eq_none_iff.mp hfree
    rw [(reserve_of_free use hslot).1] at hgranted
    obtain rfl := Except.ok.inj hgranted
    rw [(reserve_of_free use hslot).2, current?_set, if_pos rfl]
  rw [reservation?_release hcurrent, reservation?_reserve hgranted, hpin]
  split
  · next heq => rw [heq, hfree]
  · rfl

end Arbiter

/-! ## Panels -/

/-- **The hardware of a board and the ports that are alive on it.** -/
structure Panel where
  hardware : Hardware
  ports : List AnyPort

namespace Panel

/-- What can happen to a panel. A port is named by its place among those that are alive. -/
inductive Step where
  | make (name : String) (r : PortRequest)
  | use (place : Nat) (u : AnyPort.Use)
  | drop (place : Nat)
  /-- The driver is put into a state; only its record stays. So faults are injected, lines change, readings come in. -/
  | arrange (driver : Driver.Simulated)

/-- A board on which nothing has happened, with a driver in any state. -/
def start (driver : Driver.Simulated) : Panel := ⟨⟨driver.clearRecords, .empty, #[]⟩, []⟩

/-- The panel after an attempt to make a port. -/
def keep (p : Panel) : Except Device.Error AnyPort × Hardware → Panel
  | (.ok port, h) => ⟨h, port :: p.ports⟩
  | (.error _, h) => ⟨h, p.ports⟩

/-- **What a step does.** A place at which there is no port is passed over. -/
def act (d : Device) (p : Panel) : Step → Panel
  | .make name r => p.keep ((d.port name r).run p.hardware)
  | .use place u =>
    match p.ports[place]? with
    | none => p
    | some port => ⟨(port.handle u p.hardware).2, p.ports.set place (port.handle u p.hardware).1⟩
  | .drop place =>
    match p.ports[place]? with
    | none => p
    | some port => ⟨(port.close p.hardware).2, p.ports.eraseIdx place⟩
  | .arrange driver =>
    { p with hardware := { p.hardware with driver := { driver with records := p.hardware.driver.records } } }

/-- A panel after steps. -/
def run (d : Device) (p : Panel) (steps : List Step) : Panel := steps.foldl (act d) p

/-- What the pin of that name is held as. -/
def reservation? (p : Panel) (name : String) : Option PinUse := p.hardware.arbiter.reservation? name

/-- The ports that are alive on the pin of that name. -/
def on (p : Panel) (name : String) : List AnyPort := p.ports.filter (·.pin.name = name)

/-- **The arbiter of a panel and the tokens of its ports.** -/
def custody (p : Panel) : Custody := ⟨p.hardware.arbiter, p.ports.map (·.claim.token), []⟩

variable {d : Device} {p : Panel} {name : String} {place : Nat} {q : AnyPort}

/-! ## What one step can do -/

/-- **What comes of a step.** Either the ports are as they were, and so are the reservations; or an attempt to make a
port claims the pin of that name and gives it back, or leaves a port that holds it; or a port is used, and stays the
same; or it ends. -/
inductive Outcome (d : Device) (p : Panel) : Step → Panel → Prop
  | idle {s : Step} {h : Hardware} (arbiter : h.arbiter = p.hardware.arbiter) (calls : h.calls = p.hardware.calls) :
    Outcome d p s ⟨h, p.ports⟩
  | undone {name : String} {r : PortRequest} {pin : Pin} {token : Token} {h : Hardware} (known : d.pin name = .ok pin)
    (admits : r.Admits pin) (granted : (p.hardware.arbiter.reserve pin r.use).result = .ok token)
    (arbiter : h.arbiter = ((p.hardware.arbiter.reserve pin r.use).arbiter.release token).arbiter)
    (called : Called (Port.Programs pin.key r.programs) p.hardware h) :
    Outcome d p (.make name r) ⟨h, p.ports⟩
  | made {name : String} {r : PortRequest} {pin : Pin} {token : Token} {q : AnyPort} {h : Hardware}
    (known : d.pin name = .ok pin) (admits : r.Admits pin)
    (granted : (p.hardware.arbiter.reserve pin r.use).result = .ok token) (answers : Device.Answers r ⟨pin, token⟩ q)
    (arbiter : h.arbiter = (p.hardware.arbiter.reserve pin r.use).arbiter)
    (called : Called (Port.Programs pin.key r.programs) p.hardware h) :
    Outcome d p (.make name r) ⟨h, q :: p.ports⟩
  | used {place : Nat} {u : AnyPort.Use} {q q' : AnyPort} {h : Hardware} (alive : p.ports[place]? = some q)
    (same : q.Same q') (touched : Touched (Port.Programs q.pin.key q.programs) p.hardware h) :
    Outcome d p (.use place u) ⟨h, p.ports.set place q'⟩
  | dropped {place : Nat} {q : AnyPort} {h : Hardware} {status : Int32} (alive : p.ports[place]? = some q)
    (arbiter : h.arbiter = (p.hardware.arbiter.release q.claim.token).arbiter)
    (calls : h.calls = p.hardware.calls ++ q.ending status) :
    Outcome d p (.drop place) ⟨h, p.ports.eraseIdx place⟩

theorem outcome_act (d : Device) (p : Panel) (s : Step) : Outcome d p s (p.act d s) := by
  cases s with
  | make name r =>
      rw [act]
      cases hpin : d.pin name with
      | error e =>
          rw [Device.port_unknown hpin]
          exact .idle rfl rfl
      | ok pin =>
          have hmade := Device.made_port hpin r p.hardware
          generalize (d.port name r).run p.hardware = result at hmade ⊢
          cases hmade with
          | refused harbiter hcalls => exact .idle harbiter hcalls
          | undone hadmits hgranted harbiter hcalled => exact .undone hpin hadmits hgranted harbiter hcalled
          | made hadmits hgranted hanswers harbiter hcalled =>
              exact .made hpin hadmits hgranted hanswers harbiter hcalled
  | use place u =>
      rw [act]
      split
      · exact .idle rfl rfl
      · next q hq =>
          obtain ⟨htouched, hsame⟩ := q.within_handle u p.hardware
          exact .used hq hsame htouched
  | drop place =>
      rw [act]
      split
      · exact .idle rfl rfl
      · next q hq =>
          obtain ⟨harbiter, status, hcalls⟩ := q.ends p.hardware
          exact .dropped hq harbiter hcalls
  | arrange driver => exact .idle rfl rfl

/-! ## Every step is a few steps of the custody -/

theorem out_custody (p : Panel) : p.custody.out = p.ports.map (·.claim.token) := List.append_nil _

theorem kept_custody (hq : p.ports[place]? = some q) : p.custody.kept[place]? = some q.claim.token := by
  rw [custody, List.getElem?_map, hq]
  rfl

theorem mem_out (hq : q ∈ p.ports) : q.claim.token ∈ p.custody.out := by
  rw [out_custody]
  exact List.mem_map_of_mem hq

/-- A port that is replaced by the same port keeps its token. -/
theorem tokens_set {ports : List AnyPort} {q' : AnyPort} (hq : ports[place]? = some q) (hsame : q.Same q') :
    (ports.set place q').map (·.claim.token) = ports.map (·.claim.token) := by
  have htoken : (ports.map (·.claim.token))[place]? = some q'.claim.token := by
    rw [List.getElem?_map, hq, hsame.claim]
    rfl
  obtain ⟨hlt, hget⟩ := List.getElem?_eq_some_iff.mp htoken
  rw [List.map_set, ← hget]
  exact List.set_getElem_self hlt

/-- A reservation that is given back at once. -/
theorem custody_undone (hb : p.custody.Balanced) {pin : Pin} {use : PinUse} {token : Token}
    (hgranted : (p.hardware.arbiter.reserve pin use).result = .ok token) :
    p.custody.run [.reserve pin use, .release 0] =
      { p.custody with arbiter := ((p.hardware.arbiter.reserve pin use).arbiter.release token).arbiter } := by
  have htaken : p.custody.act (.reserve pin use) =
      ⟨(p.hardware.arbiter.reserve pin use).arbiter, token :: p.custody.kept, []⟩ := by
    simp only [Custody.act, Custody.take, custody, hgranted]
  have hbalanced := Custody.balanced_act hb (.reserve pin use)
  rw [htaken] at hbalanced
  have hout : token ∈ Custody.out ⟨(p.hardware.arbiter.reserve pin use).arbiter, token :: p.custody.kept, []⟩ :=
    List.mem_cons_self
  have hreleased := (hbalanced.release hout).1
  simp only [Custody.run, List.foldl_cons, List.foldl_nil, htaken]
  simp only [Custody.act, List.getElem?_cons_zero, hreleased, List.eraseIdx_cons_zero]
  rfl

/-- **Every step of a panel is a few steps of its custody.** -/
theorem custody_act (hb : p.custody.Balanced) (s : Step) : ∃ steps, (p.act d s).custody = p.custody.run steps := by
  have houtcome := outcome_act d p s
  generalize p.act d s = p' at houtcome ⊢
  cases houtcome with
  | idle harbiter _ =>
      refine ⟨[], ?_⟩
      rw [custody, harbiter]
      rfl
  | @undone _ r pin _ _ _ _ hgranted harbiter _ =>
      refine ⟨[.reserve pin r.use, .release 0], ?_⟩
      rw [custody_undone hb hgranted, ← harbiter]
      rfl
  | @made _ r pin _ _ _ _ _ hgranted hanswers harbiter _ =>
      refine ⟨[.reserve pin r.use], ?_⟩
      simp only [Custody.run, List.foldl_cons, List.foldl_nil, Custody.act, Custody.take, custody, hgranted, harbiter,
        List.map_cons, hanswers.claim]
  | used halive hsame htouched =>
      refine ⟨[], ?_⟩
      rw [custody, htouched.arbiter, tokens_set halive hsame]
      rfl
  | @dropped place q _ _ halive harbiter _ =>
      refine ⟨[.release place], ?_⟩
      have hreleased := (hb.release (mem_out (List.mem_of_getElem? halive))).1
      simp only [Custody.run, List.foldl_cons, List.foldl_nil, Custody.act, kept_custody halive, hreleased]
      simp only [custody, harbiter, List.eraseIdx_map]

/-! ## The invariant -/

/-- A port that holds its pin of the board as what it is. -/
structure Kept (d : Device) (q : AnyPort) : Prop where
  pin : q.claim.token.pin = q.pin.name
  use : q.claim.token.use = q.use
  known : d.pin q.pin.name = .ok q.pin

/-- **The arbiter waits for the tokens of the ports that are alive**, and these are what their ports are. -/
structure Sound (d : Device) (p : Panel) : Prop where
  balanced : p.custody.Balanced
  kept : ∀ q ∈ p.ports, Kept d q

theorem sound_start (d : Device) (driver : Driver.Simulated) : Sound d (start driver) where
  balanced := by
    have hcustody : (start driver).custody = Custody.start := rfl
    rw [hcustody]
    exact Custody.balanced_start
  kept _ hq := absurd hq List.not_mem_nil

theorem Kept.same {q' : AnyPort} (hq : Kept d q) (hsame : q.Same q') : Kept d q' := by
  have hpin : q'.pin = q.pin := congrArg Port.Claim.pin hsame.claim
  refine ⟨?_, ?_, ?_⟩
  · rw [hpin, hsame.claim, hq.pin]
  · rw [hsame.claim, hsame.use, hq.use]
  · rw [hpin, hq.known]

/-- A pin that is found has the name under which it was sought. -/
theorem name_of_pin {pin : Pin} (hpin : d.pin name = .ok pin) : pin.name = name := by
  unfold Device.pin at hpin
  split at hpin
  · next found hfound =>
      obtain rfl := Except.ok.inj hpin
      unfold Pin.find? at hfound
      have hname := List.find?_some hfound
      exact eq_of_beq hname
  · contradiction

theorem kept_made {r : PortRequest} {a : Arbiter} {pin : Pin} {token : Token} (hpin : d.pin name = .ok pin)
    (hgranted : (a.reserve pin r.use).result = .ok token) (hanswers : Device.Answers r ⟨pin, token⟩ q) :
    Kept d q := by
  obtain ⟨-, htoken, huse⟩ := Arbiter.granted_token hgranted
  have hclaim : q.pin = pin := congrArg Port.Claim.pin hanswers.claim
  refine ⟨?_, ?_, ?_⟩
  · rw [hclaim, hanswers.claim, htoken]
  · rw [hanswers.claim, hanswers.use, huse]
  · rw [hclaim, name_of_pin hpin, hpin]

/-- Every port that is alive after a step was alive before it, or was just made. -/
theorem kept_act (hkept : ∀ q ∈ p.ports, Kept d q) (s : Step) : ∀ q ∈ (p.act d s).ports, Kept d q := by
  have houtcome := outcome_act d p s
  generalize p.act d s = p' at houtcome ⊢
  cases houtcome with
  | idle _ _ => exact hkept
  | undone _ _ _ _ _ => exact hkept
  | made hknown _ hgranted hanswers _ _ =>
      exact List.forall_mem_cons.mpr ⟨kept_made hknown hgranted hanswers, hkept⟩
  | used halive hsame _ =>
      intro q hq
      rcases List.mem_or_eq_of_mem_set hq with hold | rfl
      · exact hkept q hold
      · exact (hkept _ (List.mem_of_getElem? halive)).same hsame
  | dropped _ _ _ => exact fun q hq => hkept q (List.mem_of_mem_eraseIdx hq)

/-- **One step preserves the invariant.** -/
theorem sound_act (h : Sound d p) (s : Step) : Sound d (p.act d s) where
  balanced := by
    obtain ⟨steps, hcustody⟩ := custody_act (d := d) h.balanced s
    rw [hcustody]
    exact Custody.balanced_run h.balanced steps
  kept := kept_act h.kept s

/-- **A history preserves the invariant.** -/
theorem sound_run (h : Sound d p) (steps : List Step) : Sound d (p.run d steps) := by
  induction steps generalizing p with
  | nil => exact h
  | cons s rest ih => exact ih (sound_act h s)

/-! ## What the arbiter says -/

/-- No two ports that are alive are on one pin. -/
theorem Sound.single (h : Sound d p) : (p.ports.map (·.pin.name)).Nodup := by
  have hnames : p.ports.map (·.pin.name) = p.custody.out.map Token.pin := by
    rw [out_custody, List.map_map]
    exact List.map_congr_left fun q hq => (h.kept q hq).pin.symm
  rw [hnames]
  exact (Custody.exclusive_of_balanced h.balanced).single

/-- A pin is held exactly if a port is alive on it, and as what that port holds it. -/
theorem Sound.reservation_iff (h : Sound d p) (name : String) (use : PinUse) :
    p.reservation? name = some use ↔ ∃ q ∈ p.ports, q.pin.name = name ∧ q.use = use := by
  refine (h.balanced.reservation_iff name use).trans ?_
  rw [out_custody]
  simp only [List.mem_map, exists_exists_and_eq_and]
  refine exists_congr fun q => and_congr_right fun hq => ?_
  rw [(h.kept q hq).pin, (h.kept q hq).use]

/-- A port that is alive is the only one on its pin. -/
theorem Sound.on_of_mem (h : Sound d p) (hq : q ∈ p.ports) : p.on q.pin.name = [q] := by
  obtain ⟨newer, older, hports⟩ := List.append_of_mem hq
  have hsingle := h.single
  rw [hports, List.map_append, List.map_cons, List.nodup_middle, List.nodup_cons, ← List.map_append] at hsingle
  have hothers : (newer ++ older).filter (·.pin.name = q.pin.name) = [] := by
    refine List.filter_eq_nil_iff.mpr fun q' hq' => ?_
    rw [decide_eq_true_iff]
    exact fun hname => hsingle.1 (hname ▸ List.mem_map_of_mem hq')
  obtain ⟨hnewer, holder⟩ := List.append_eq_nil_iff.mp (List.filter_append .. ▸ hothers)
  have hself : (q :: older).filter (·.pin.name = q.pin.name) = q :: older.filter (·.pin.name = q.pin.name) :=
    List.filter_cons_of_pos (decide_eq_true rfl)
  rw [on, hports, List.filter_append, hself, hnewer, holder]
  rfl

/-- What the users of a board can observe of its pins. -/
structure Faithful (d : Device) (p : Panel) : Prop where
  /-- A pin is held exactly if just one port is alive on it, and as what that port is. -/
  reservation_iff : ∀ name use, p.reservation? name = some use ↔ ∃ q, p.on name = [q] ∧ q.use = use
  /-- A pin is free exactly if no port is alive on it. -/
  free_iff : ∀ name, p.reservation? name = none ↔ p.on name = []
  /-- A port that is made is on the pin that was named, which was free; that pin is held from then on, and nothing else
  changes. -/
  made : ∀ name r q h, (d.port name r).run p.hardware = (.ok q, h) →
    q.pin.name = name ∧ q.use = r.use ∧ p.reservation? name = none ∧
      ∀ other, h.arbiter.reservation? other = if other = name then some r.use else p.reservation? other
  /-- An attempt that fails, for whatever reason, leaves every reservation as it was. -/
  failed : ∀ name r e h, (d.port name r).run p.hardware = (.error e, h) →
    ∀ other, h.arbiter.reservation? other = p.reservation? other
  /-- The use of a port leaves the arbiter alone. -/
  used : ∀ q ∈ p.ports, ∀ u, (q.handle u p.hardware).2.arbiter = p.hardware.arbiter
  /-- A port that is dropped frees its pin, and nothing else changes. -/
  dropped : ∀ q ∈ p.ports, ∀ other,
    (q.close p.hardware).2.arbiter.reservation? other = if other = q.pin.name then none else p.reservation? other

theorem reservation?_made {r : PortRequest} {h : Hardware} (hrun : (d.port name r).run p.hardware = (.ok q, h)) :
    q.pin.name = name ∧ q.use = r.use ∧ p.reservation? name = none ∧
      ∀ other, h.arbiter.reservation? other = if other = name then some r.use else p.reservation? other := by
  cases hpin : d.pin name with
  | error e =>
      rw [Device.port_unknown hpin] at hrun
      cases hrun
  | ok pin =>
      have hmade := hrun ▸ Device.made_port hpin r p.hardware
      cases hmade with
      | made _ hgranted hanswers harbiter _ =>
          have hclaim : q.pin = pin := congrArg Port.Claim.pin hanswers.claim
          obtain rfl := name_of_pin hpin
          refine ⟨by rw [hclaim], hanswers.use, (Arbiter.granted_token hgranted).1, fun other => ?_⟩
          rw [harbiter, Arbiter.reservation?_reserve hgranted]
          rfl

theorem reservation?_failed {r : PortRequest} {e : Device.Error} {h : Hardware}
    (hrun : (d.port name r).run p.hardware = (.error e, h)) (other : String) :
    h.arbiter.reservation? other = p.reservation? other := by
  cases hpin : d.pin name with
  | error e =>
      rw [Device.port_unknown hpin] at hrun
      cases hrun
      rfl
  | ok pin =>
      have hmade := hrun ▸ Device.made_port hpin r p.hardware
      cases hmade with
      | refused harbiter _ =>
          rw [harbiter]
          rfl
      | undone _ hgranted harbiter _ =>
          rw [harbiter, Arbiter.reservation?_undone hgranted]
          rfl

theorem faithful_of_sound (h : Sound d p) : Faithful d p where
  reservation_iff name use := by
    rw [h.reservation_iff]
    constructor
    · rintro ⟨q, hq, rfl, huse⟩
      exact ⟨q, h.on_of_mem hq, huse⟩
    · rintro ⟨q, hon, huse⟩
      obtain ⟨hq, hname⟩ := List.mem_filter.mp (hon ▸ List.mem_singleton_self q : q ∈ p.on name)
      exact ⟨q, hq, of_decide_eq_true hname, huse⟩
  free_iff name := by
    rw [Option.eq_none_iff_forall_ne_some, on, List.filter_eq_nil_iff]
    constructor
    · intro hfree q hq hname
      exact hfree q.use ((h.reservation_iff name q.use).mpr ⟨q, hq, of_decide_eq_true hname, rfl⟩)
    · intro hnone use hheld
      obtain ⟨q, hq, hname, -⟩ := (h.reservation_iff name use).mp hheld
      exact hnone q hq (decide_eq_true hname)
  made _ _ _ _ := reservation?_made
  failed _ _ _ _ := reservation?_failed
  used q _ u := (q.within_handle u p.hardware).1.arbiter
  dropped q hq other := by
    have hcurrent : p.hardware.arbiter.current? q.claim.token.pin = some ⟨q.claim.token.id, q.claim.token.use⟩ :=
      h.balanced.current? (mem_out hq)
    rw [(q.ends p.hardware).1, Arbiter.reservation?_release hcurrent, (h.kept q hq).pin]
    rfl

/-- **Reservations follow live ports exactly**, at every moment, whatever ports were made, used and dropped, and
whatever the driver answered. -/
theorem reservations_follow_ports (d : Device) (driver : Driver.Simulated) (steps : List Step) :
    Faithful d ((start driver).run d steps) :=
  faithful_of_sound (sound_run (sound_start d driver) steps)

end Panel

end Peripherals
