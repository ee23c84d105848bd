import Mathlib.Logic.Relation
import Peripherals.Proofs.Port.Line
import Peripherals.Proofs.Port.Setting

/-!
# `Proofs.Port.Programming` — how a port programs its pin

A bidirectional port programs its pin when it is made, when it turns, and when a filter of an input is set. An input is
programmed by one call. An output takes two: interrupts and filters are switched off before the pin starts to drive.

* `Driver.Latest` — the last call of a kind on record, and the calls before it;
* `BidirectionalPort.Programming` — everything that programming a pin for a direction can come to;
* `BidirectionalPort.Move` — what a port and its hardware can go through in one step while no call fails;
* `AnyPort.moves_handleAll` — any number of uses is such steps.
-/

namespace Peripherals

open Hardware

/-! ## The last configuration on record -/

namespace Driver

/-- A call that configures the pin with this key, whatever its status. -/
def Record.Configures (key : UInt16) (r : Record) : Prop := r.opcode = .pinConfigure ∧ r.target = key

/-- **The last of these calls on record** is `r`, and these are the calls before it. -/
def Latest (P : Record → Prop) (calls before : List Record) (r : Record) : Prop :=
  P r ∧ ∃ after, calls = before ++ r :: after ∧ ∀ r' ∈ after, ¬ P r'

variable {P : Record → Prop} {calls added before : List Record} {r r' : Record}

/-- A new call of the kind is the last one. -/
theorem latest_snoc_iff (hr : P r) : Latest P (calls ++ [r]) before r' ↔ before = calls ∧ r' = r := by
  constructor
  · rintro ⟨-, after, heq, hafter⟩
    -- If anything came after the call, the new one would be the last of it.
    rcases List.eq_nil_or_concat after with rfl | ⟨rest, last, rfl⟩
    · obtain ⟨hbefore, hlast⟩ := List.append_inj' heq rfl
      exact ⟨hbefore.symm, (List.cons.inj hlast).1.symm⟩
    · rw [List.concat_eq_append] at heq hafter
      rw [← List.cons_append, ← List.append_assoc] at heq
      have hlast : r = last := (List.cons.inj (List.append_inj' heq rfl).2).1
      exact absurd (hlast ▸ hr) (hafter last List.mem_concat_self)
  · rintro ⟨rfl, rfl⟩
    exact ⟨hr, [], rfl, nofun⟩

/-- New calls of other kinds do not matter. -/
theorem latest_append_iff (hadded : ∀ r' ∈ added, ¬ P r') :
    Latest P (calls ++ added) before r ↔ Latest P calls before r := by
  constructor
  · rintro ⟨hr, after, heq, hafter⟩
    -- The call stands among the new ones, which it cannot, or among the old ones.
    rcases List.append_eq_append_iff.mp heq with ⟨middle, -, hnew⟩ | ⟨middle, hold, hrest⟩
    · exact absurd hr (hadded r (hnew ▸ List.mem_append_right _ List.mem_cons_self))
    · rcases List.cons_eq_append_iff.mp hrest with ⟨-, hnew⟩ | ⟨rest, rfl, rfl⟩
      · exact absurd hr (hadded r (hnew ▸ List.mem_cons_self))
      · exact ⟨hr, rest, hold, fun r' hr' => hafter r' (List.mem_append_left _ hr')⟩
  · rintro ⟨hr, after, rfl, hafter⟩
    refine ⟨hr, after ++ added, by rw [List.append_assoc, List.cons_append], fun r' hr' => ?_⟩
    rcases List.mem_append.mp hr' with hr' | hr'
    · exact hafter r' hr'
    · exact hadded r' hr'

end Driver

/-! ## Configurations -/

namespace Port

variable {pin : Pin} {flags : Driver.PinFlags} {payload : Bytes} {status : Int32} {h h' : Hardware}

theorem configures_configuration (pin : Pin) (flags : Driver.PinFlags) (payload : Bytes) (status : Int32) :
    ((configuration pin flags payload).record status).Configures pin.key := ⟨rfl, rfl⟩

/-- **A pin is configured as it was told to be**, if the driver has taken the call. -/
theorem configured_of_configuration (hissued : Issued (configuration pin flags payload) 0 h h')
    (hcandid : h.driver.Candid .pinConfigure) : h'.driver.configured.get? pin.key = some flags := by
  have hconfigured : h'.driver.configured =
      h.driver.configured.set pin.key (.ofByte (configuration pin flags payload).flags) := by
    rw [(hissued.performed hcandid).2]
    rfl
  rw [hconfigured, Table.get?_set_self, configuration, Driver.PinFlags.ofByte_toByte]

/-- No line moves when a pin becomes an input. -/
theorem levels_of_configuration (hissued : Issued (configuration pin flags payload) status h h')
    (hinput : flags.output = false) : h'.driver.levels = h.driver.levels := by
  rw [hissued.driver]
  show (h.driver.answer (configuration pin flags payload)).2.levels = h.driver.levels
  unfold Driver.Simulated.answer
  split
  · rfl
  · simp only [Driver.Simulated.perform, configuration, Driver.PinFlags.ofByte_toByte, hinput, Bool.false_eq_true,
      if_false]

end Port

namespace BidirectionalPort

/-! ## Programming a pin -/

/-- The call that makes the pin an input without interrupts and filters, before it becomes an output. -/
def quieting (p : BidirectionalPort) : Driver.Call :=
  Port.configuration p.pin (Port.inputFlags p.options.resistor .none) (filterPayload .zero .zero)

/-- The call that makes the pin an output. -/
def outputting (p : BidirectionalPort) : Driver.Call :=
  Port.configuration p.pin (Port.outputFlags p.options.initial p.options.kind) []

/-- **Everything that programming a pin for a direction can come to.** -/
inductive Programming (p : BidirectionalPort) (h : Hardware) :
    Direction → Except Bus.Error Unit → Hardware → Prop
  | input {h' : Hardware} (issued : Issued p.filtering 0 h h') : Programming p h .input (.ok ()) h'
  | inputRefused {status : Int32} {h' : Hardware} (status_ne : status ≠ 0) (issued : Issued p.filtering status h h') :
    Programming p h .input (.error (.ofStatus status p.pin.key)) h'
  | output {h₁ h' : Hardware} (quieted : Issued p.quieting 0 h h₁) (issued : Issued p.outputting 0 h₁ h') :
    Programming p h .output (.ok ()) h'
  | quietRefused {status : Int32} {h' : Hardware} (status_ne : status ≠ 0) (issued : Issued p.quieting status h h') :
    Programming p h .output (.error (.ofStatus status p.pin.key)) h'
  /-- The pin has become an input without interrupts and filters, and stays one. -/
  | outputRefused {status : Int32} {h₁ h' : Hardware} (status_ne : status ≠ 0) (quieted : Issued p.quieting 0 h h₁)
    (issued : Issued p.outputting status h₁ h') : Programming p h .output (.error (.ofStatus status p.pin.key)) h'

variable {p q : BidirectionalPort} {direction : Direction} {outcome : Except Bus.Error Unit} {h h₁ h' : Hardware}

theorem programming_program (p : BidirectionalPort) (direction : Direction) (h : Hardware) :
    p.Programming h direction ((program p.pin p.options p.debounce p.glitch direction).run h).1
      ((program p.pin p.options p.debounce p.glitch direction).run h).2 := by
  cases direction with
  | input =>
      have hprogram : program p.pin p.options p.debounce p.glitch .input = (do let _ ← issue p.filtering) := rfl
      rw [hprogram]
      rcases issued_read_cases p.filtering (fun _ => ()) h with
        ⟨h', hissued, hrun⟩ | ⟨status, h', hstatus, hissued, hrun⟩
      · rw [hrun]
        exact .input hissued
      · rw [hrun]
        exact .inputRefused hstatus hissued
  | output =>
      have hprogram : program p.pin p.options p.debounce p.glitch .output =
          ((issue p.quieting >>= fun _ => pure ()) >>= fun _ => issue p.outputting >>= fun _ => pure ()) := rfl
      rw [hprogram]
      rcases issued_read_cases p.quieting (fun _ => ()) h with
        ⟨h₁, hquieted, hrun⟩ | ⟨status, h', hstatus, hissued, hrun⟩
      · rw [attempt_ok hrun]
        rcases issued_read_cases p.outputting (fun _ => ()) h₁ with
          ⟨h', hissued, hrun⟩ | ⟨status, h', hstatus, hissued, hrun⟩
        · rw [hrun]
          exact .output hquieted hissued
        · rw [hrun]
          exact .outputRefused hstatus hquieted hissued
      · rw [attempt_error hrun]
        exact .quietRefused hstatus hissued

namespace Programming

/-- Only the driver matters. -/
theorem congr {h₂ h₂' : Hardware} (hprogramming : p.Programming h direction outcome h')
    (hstart : h₂.driver = h.driver) (hend : h₂'.driver = h'.driver) : p.Programming h₂ direction outcome h₂' := by
  cases hprogramming with
  | input issued => exact .input (issued.congr hstart hend)
  | inputRefused hstatus issued => exact .inputRefused hstatus (issued.congr hstart hend)
  | output quieted issued => exact .output (quieted.congr hstart rfl) (issued.congr rfl hend)
  | quietRefused hstatus issued => exact .quietRefused hstatus (issued.congr hstart hend)
  | outputRefused hstatus quieted issued =>
      exact .outputRefused hstatus (quieted.congr hstart rfl) (issued.congr rfl hend)

theorem called (hprogramming : p.Programming h direction outcome h') : Called (fun _ => True) h h' := by
  cases hprogramming with
  | input issued | inputRefused _ issued | quietRefused _ issued => exact issued.called
  | output quieted issued | outputRefused _ quieted issued => exact quieted.called.trans issued.called

/-- Programming a pin fails only if a call fails. -/
theorem ok_of_taken (hprogramming : p.Programming h direction outcome h') (htaken : Taken h h') : outcome = .ok () := by
  cases hprogramming with
  | input | output => rfl
  | inputRefused hstatus issued | quietRefused hstatus issued => exact absurd (issued.status_of_taken htaken) hstatus
  | outputRefused hstatus quieted issued =>
      have htaken' : Taken _ h' := (htaken.split quieted.called issued.called).2
      exact absurd (issued.status_of_taken htaken') hstatus

end Programming

/-! ## Uses of a port -/

/-- A port that is told to go another way programs its pin, and turns if that succeeds. -/
theorem setDirection_of_ne (hne : p.direction ≠ direction) (h : Hardware) :
    ∃ outcome h', p.Programming h direction outcome h' ∧
      p.setDirection direction h =
        ((outcome, match outcome with
          | .ok _ => { p with direction }
          | .error _ => p), h') := by
  have hprogramming := p.programming_program direction h
  rw [setDirection, if_neg hne, run_bind]
  cases houtcome : ((program p.pin p.options p.debounce p.glitch direction).run h).1 with
  | ok _ =>
      rw [houtcome] at hprogramming
      refine ⟨.ok (), _, hprogramming.congr rfl ?_, rfl⟩
      rfl
  | error e =>
      rw [houtcome] at hprogramming
      exact ⟨.error e, _, hprogramming, rfl⟩

/-- A port went this way already, or the driver has taken the programming of its pin. -/
def Turns (p : BidirectionalPort) (direction : Direction) (h h' : Hardware) : Prop :=
  (h' = h ∧ p.direction = direction) ∨ p.Programming h direction (.ok ()) h'

theorem turns_of_taken (htaken : Taken h (p.setDirection direction h).2) :
    ∃ h', p.setDirection direction h = ((.ok (), { p with direction }), h') ∧ p.Turns direction h h' := by
  by_cases hsame : p.direction = direction
  · refine ⟨h, ?_, .inl ⟨rfl, hsame⟩⟩
    rw [setDirection, if_pos hsame, ← hsame]
    rfl
  · obtain ⟨outcome, h', hprogramming, hrun⟩ := setDirection_of_ne hsame h
    rw [hrun] at htaken
    obtain rfl := hprogramming.ok_of_taken htaken
    exact ⟨h', hrun, .inr hprogramming⟩

/-- **What a use does that turns the port and then makes a call**, if no call fails. -/
theorem turned_of_taken {α : Type} (c : BidirectionalPort → Driver.Call) (g : Bytes → α)
    {use : Action (Except Bus.Error α × BidirectionalPort)}
    (huse : use = p.setDirection direction >>= fun
      | (.error e, q) => pure (.error e, q)
      | (.ok (), q) => do pure (← (issue (c q) >>= fun rx => pure (g rx)).run, q))
    (htaken : Taken h (use h).2) :
    ∃ h₁ h', p.Turns direction h h₁ ∧ Issued (c { p with direction }) 0 h₁ h' ∧
      use h = ((.ok (g (h₁.driver.call (c { p with direction })).1.rx), { p with direction }), h') := by
  have hcall (q : BidirectionalPort) (h₁ : Hardware) :
      Called (fun _ => True) h₁ ((issue (c q) >>= fun rx => pure (g rx)).run h₁).2 :=
    (within_attempt_any (within_issue fun _ => trivial) (fun _ => within_pure trivial) h₁).1.called
  have hgrows := (p.within_setDirection direction h).1.called
  -- The call is made only if the port has turned.
  have hturn : Taken h (p.setDirection direction h).2 := by
    rw [huse, run_bind] at htaken
    generalize p.setDirection direction h = turned at htaken hgrows
    obtain ⟨⟨result, q⟩, h₁⟩ := turned
    cases result with
    | error e => exact htaken
    | ok _ => exact (htaken.split hgrows (hcall q h₁)).1
  obtain ⟨h₁, hrun, hturns⟩ := turns_of_taken hturn
  let x := issue (c { p with direction }) >>= fun rx => pure (g rx)
  have huse' : use h = (((x.run h₁).1, { p with direction }), (x.run h₁).2) := by
    rw [huse, run_bind, hrun]
    rfl
  rw [hrun] at hgrows
  rw [huse'] at htaken
  obtain ⟨h', hissued, hcalled⟩ := issued_of_taken (htaken.split hgrows (hcall _ h₁)).2
  exact ⟨h₁, h', hturns, hissued, by rw [huse', hcalled]⟩

/-- A write that goes through: the port turns, and its line is driven. -/
theorem write_of_taken {level : Bool} (htaken : Taken h (p.write level h).2) :
    ∃ h₁ h', p.Turns .output h h₁ ∧ Issued (Port.driving p.pin level) 0 h₁ h' ∧
      p.write level h = ((.ok (), { p with direction := .output }), h') :=
  turned_of_taken (fun q => Port.driving q.pin level) (fun _ => ()) rfl htaken

/-- A read that goes through: the port turns, and its line is read. -/
theorem read_of_taken (htaken : Taken h (p.read h).2) :
    ∃ h₁ h', p.Turns .input h h₁ ∧ Issued (Port.sensing p.pin) 0 h₁ h' ∧
      p.read h =
        ((.ok ((h₁.driver.call (Port.sensing p.pin)).1.rx.headD 0 != 0), { p with direction := .input }), h') :=
  turned_of_taken (fun q => Port.sensing q.pin) (·.headD 0 != 0) rfl htaken

/-! ## Steps -/

/-- A port and the hardware that it acts on. -/
abbrev Moment := BidirectionalPort × Hardware

/-- **What a port and its hardware can go through in one step** while no call fails. -/
inductive Move : Moment → Moment → Prop
  /-- The pin is programmed for a direction, and the port goes that way. -/
  | turned {p : BidirectionalPort} {direction : Direction} {h h' : Hardware}
    (programming : p.Programming h direction (.ok ()) h') : Move (p, h) ({ p with direction }, h')
  /-- A filter of an input is set, and the pin is programmed anew. -/
  | filtered {p : BidirectionalPort} {filter : Port.Filter} {value : Duration} {h h' : Hardware}
    (range : value ≤ maxFilter) (input : p.direction = .input)
    (programming : (p.withFilter filter value).Programming h .input (.ok ()) h') :
    Move (p, h) (p.withFilter filter value, h')
  /-- A filter of an output is set, to be programmed later. -/
  | deferred {p : BidirectionalPort} {filter : Port.Filter} {value : Duration} {h : Hardware}
    (range : value ≤ maxFilter) (output : p.direction = .output) : Move (p, h) (p.withFilter filter value, h)
  /-- The line is driven or read. -/
  | called {p : BidirectionalPort} {c : Driver.Call} {h h' : Hardware}
    (opcode : c.opcode = .pinWrite ∨ c.opcode = .pinRead) (issued : Issued c 0 h h') : Move (p, h) (p, h')
  /-- Subscribers are told of an edge. -/
  | told {p : BidirectionalPort} {edges : Broadcast Edge} {h : Hardware} : Move (p, h) ({ p with edges }, h)

/-- Any number of steps. -/
abbrev Moves : Moment → Moment → Prop := Relation.ReflTransGen Move

theorem moves_of_turns (hturns : p.Turns direction h h') : Moves (p, h) ({ p with direction }, h') := by
  rcases hturns with ⟨rfl, hsame⟩ | hprogramming
  · subst hsame
    exact .refl
  · exact .single (.turned hprogramming)

theorem moves_setDirection (htaken : Taken h (p.setDirection direction h).2) :
    Moves (p, h) ((p.setDirection direction h).1.2, (p.setDirection direction h).2) := by
  obtain ⟨h', hrun, hturns⟩ := turns_of_taken htaken
  rw [hrun]
  exact moves_of_turns hturns

theorem moves_write {level : Bool} (htaken : Taken h (p.write level h).2) :
    Moves (p, h) ((p.write level h).1.2, (p.write level h).2) := by
  obtain ⟨h₁, h', hturns, hissued, hrun⟩ := write_of_taken htaken
  rw [hrun]
  exact (moves_of_turns hturns).tail (.called (.inl rfl) hissued)

theorem moves_read (htaken : Taken h (p.read h).2) : Moves (p, h) ((p.read h).1.2, (p.read h).2) := by
  obtain ⟨h₁, h', hturns, hissued, hrun⟩ := read_of_taken htaken
  rw [hrun]
  exact (moves_of_turns hturns).tail (.called (.inr rfl) hissued)

theorem moves_setFilter {filter : Port.Filter} {value : Duration} (htaken : Taken h (p.setFilter filter value h).2) :
    Moves (p, h) ((p.setFilter filter value h).1.2, (p.setFilter filter value h).2) := by
  by_cases hrange : value ≤ maxFilter
  case neg =>
    have hcheck : checkFilter filter value = .error (.durationOutOfRange filter value) := if_neg hrange
    rw [setFilter, hcheck]
    exact .refl
  case pos =>
    have hcheck : checkFilter filter value = .ok () := if_pos hrange
    let q := p.withFilter filter value
    have hset : ((p.setFilter filter value h).1.2, (p.setFilter filter value h).2) = (q, (q.reprogram.run h).2) := by
      simp only [setFilter, hcheck, run_bind]
      cases (q.reprogram.run h).1 with
      | ok _ => rfl
      | error e => rfl
    rw [(Prod.mk.inj hset).2] at htaken
    rw [hset]
    have hdirection : q.direction = p.direction := p.direction_withFilter filter value
    -- Only an input programs its pin now.
    cases hturned : p.direction with
    | output =>
        rw [reprogram, hdirection, hturned]
        exact .single (.deferred hrange hturned)
    | input =>
        have hprogram : q.reprogram = program q.pin q.options q.debounce q.glitch .input := by
          rw [reprogram, hdirection, hturned]
          rfl
        have hprogramming := q.programming_program .input h
        rw [hprogram] at htaken ⊢
        rw [hprogramming.ok_of_taken htaken] at hprogramming
        exact .single (.filtered hrange hturned hprogramming)

end BidirectionalPort

namespace AnyPort

open BidirectionalPort

/-- A use of a bidirectional port, if no call fails. -/
theorem moves_handle {p : BidirectionalPort} {u : Use} {h : Hardware}
    (htaken : Taken h (handle (.bidirectional p) u h).2) :
    ∃ q, (handle (.bidirectional p) u h).1 = .bidirectional q ∧
      Moves (p, h) (q, (handle (.bidirectional p) u h).2) := by
  cases u with
  | write level => exact ⟨_, rfl, moves_write htaken⟩
  | read => exact ⟨_, rfl, moves_read htaken⟩
  | turn direction => exact ⟨_, rfl, moves_setDirection htaken⟩
  | setFilter filter value => exact ⟨_, rfl, moves_setFilter htaken⟩
  | interrupt level => exact ⟨_, rfl, .single .told⟩
  | _ => exact ⟨p, rfl, .refl⟩

/-- Uses a port any number of times. -/
def handleAll : AnyPort → List Use → Action AnyPort
  | p, [] => pure p
  | p, u :: us => do (← p.handle u).handleAll us

theorem called_handleAll (p : AnyPort) (us : List Use) (h : Hardware) :
    Called (fun _ => True) h (p.handleAll us h).2 := by
  induction us generalizing p h with
  | nil => exact called_of_eq rfl
  | cons u us ih => exact ((p.within_handle u h).1.called.mono fun _ _ => trivial).trans (ih _ _)

/-- **Any number of uses**, if no call fails. By induction on the uses. -/
theorem moves_handleAll {p : BidirectionalPort} {us : List Use} {h : Hardware}
    (htaken : Taken h (handleAll (.bidirectional p) us h).2) :
    ∃ q, (handleAll (.bidirectional p) us h).1 = .bidirectional q ∧
      Moves (p, h) (q, (handleAll (.bidirectional p) us h).2) := by
  induction us generalizing p h with
  | nil => exact ⟨p, rfl, .refl⟩
  | cons u us ih =>
      rw [handleAll, run_bind] at htaken ⊢
      obtain ⟨hfirst, hrest⟩ := htaken.split (within_handle (.bidirectional p) u h).1.called (called_handleAll _ us _)
      obtain ⟨q, hq, hmoves⟩ := moves_handle hfirst
      rw [hq] at hrest ⊢
      obtain ⟨r, hr, hmoves'⟩ := ih hrest
      exact ⟨r, hr, hmoves.trans hmoves'⟩

end AnyPort

end Peripherals
