import Peripherals.Bench.Use
import Peripherals.Bench.Task
import Peripherals.Proofs.Secrecy.Board

/-!
# `Proofs.Secrecy.Bench` — what a bench never looks at

On a bench there are three places in which a password may stand: the calls on record of the driver, the commands on
record of the scripted coprocessor, and the errands, with commands that are not sent yet. Two benches look alike if
they differ at most in the bytes there. A program is blind if neither its result nor anything else that it leaves on
the bench depends on those bytes.

* `World.Alike` — benches that look alike, with `World.Alike.same` and `World.Alike.update` for what has nothing to do
  with what is secret;
* `inStep_get`, `inStep_read`, `blind_public` — programs that look at the bench, and programs that leave alone what is
  secret;
* `Cue.blind_play` — the counts of calls and commands are the only looks at what is on record;
* `inStep_transmit` — commands that look alike, whichever way they are sent.
-/

namespace Peripherals

open Veiled Coprocessor

/-! ## Tables under a veil -/

namespace Table

variable {κ α β : Type}

/-- A table with every value changed. -/
def map (f : α → β) (t : Table κ α) : Table κ β :=
  ⟨t.entries.map fun e => (e.1, f e.2), by simpa [Function.comp_def] using t.nodup_keys⟩

variable [DecidableEq κ] {f : α → β}

theorem get?_map (t : Table κ α) (k : κ) : (t.map f).get? k = (t.get? k).map f := by
  show lookup? k (t.entries.map fun e => (e.1, f e.2)) = (lookup? k t.entries).map f
  induction t.entries with
  | nil => rfl
  | cons e rest ih =>
    by_cases hk : e.1 = k
    · simp [lookup?, hk]
    · simpa [lookup?, hk] using ih

theorem map_set (t : Table κ α) (k : κ) (a : α) : (t.set k a).map f = (t.map f).set k (f a) := by
  have hentries : ∀ es : List (κ × α),
      (insertEntry k a es).map (fun e => (e.1, f e.2)) = insertEntry k (f a) (es.map fun e => (e.1, f e.2)) := by
    intro es
    induction es with
    | nil => rfl
    | cons e rest ih =>
      by_cases hk : e.1 = k
      · simp [insertEntry, hk]
      · simpa [insertEntry, hk] using ih
  simp only [map, set, hentries]

theorem map_erase (t : Table κ α) (k : κ) : (t.erase k).map f = (t.map f).erase k := by
  simp only [map, erase, List.filter_map]
  rfl

end Table

/-! ## What is veiled on a bench -/

/-- The script with other commands on record. -/
def Coprocessor.Script.withCommands (s : Script) (commands : List Command) : Script := { s with commands }

namespace Bench

/-- A command on its way, as far as it is not secret. -/
def Errand.veiled (e : Errand) : Errand :=
  match e.stage with
  | .unsent c => { e with stage := .unsent c.veiled }
  | .sent _ => e

theorem Errand.goesOn_veiled (e : Errand) (now : Nat) : e.veiled.goesOn now = e.goesOn now := by
  obtain ⟨route, stage⟩ := e
  cases stage with
  | unsent c => rfl
  | sent t => rfl

theorem Errand.holds_veiled (e : Errand) : e.veiled.holds = e.holds := by
  obtain ⟨route, stage⟩ := e
  cases stage with
  | unsent c => cases route <;> rfl
  | sent t => rfl

theorem Errand.wake?_veiled (e : Errand) : e.veiled.wake? = e.wake? := by
  obtain ⟨route, stage⟩ := e
  cases stage with
  | unsent c => rfl
  | sent t => rfl

/-- The bench with other calls on record, other commands on record in the script and other errands. -/
def World.withSecrets (w : World) (records : Array Driver.Record) (commands : List Command)
    (errands : Table Nat Errand) : World :=
  { w with hardware := w.hardware.withRecords records, script := w.script.withCommands commands, errands }

/-- **Two benches that look alike**: they differ at most in the bytes of the calls on record, and in the bytes of
the payloads of commands. -/
inductive World.Alike : World → World → Prop
  | intro {w : World} {records : Array Driver.Record} {commands : List Command} {errands : Table Nat Errand}
      (hrecords : records.toList.map Driver.Record.veiled = w.hardware.calls.map Driver.Record.veiled)
      (hcommands : commands.map Command.veiled = w.script.commands.map Command.veiled)
      (herrands : errands.map Errand.veiled = w.errands.map Errand.veiled) :
      Alike w (w.withSecrets records commands errands)

instance : Veiled World := ⟨World.Alike⟩

theorem World.alike_refl (w : World) : w.Alike w := .intro rfl rfl rfl

variable {α β γ : Type} {w w' : World}

theorem World.Alike.errand? (hw : w.Alike w') (number : Nat) :
    (w'.errands.get? number).map Errand.veiled = (w.errands.get? number).map Errand.veiled := by
  obtain ⟨-, -, herrands⟩ := hw
  rw [← Table.get?_map, ← Table.get?_map]
  exact congrArg (·.get? number) herrands

/-- What an errand shows of itself does not depend on its payload. -/
theorem World.Alike.errands_eq {g : Errand → γ} (hw : w.Alike w') (hg : ∀ e : Errand, g e.veiled = g e) :
    w'.errands.entries.map (fun e => g e.2) = w.errands.entries.map fun e => g e.2 := by
  obtain ⟨-, -, herrands⟩ := hw
  have hentries := congrArg (fun t : Table Nat Errand => t.entries.map fun e => g e.2) herrands
  simp only [Table.map, List.map_map, Function.comp_def, hg] at hentries
  exact hentries

/-- What has nothing to do with what is secret. -/
theorem World.Alike.same {f : World → γ} (hw : w.Alike w')
    (hf : ∀ w records commands errands, f (World.withSecrets w records commands errands) = f w) : f w' = f w := by
  obtain ⟨-, -, -⟩ := hw
  exact hf ..

/-- A change that has nothing to do with what is secret. -/
theorem World.Alike.update {f : World → World} (hw : w.Alike w')
    (hf : ∀ w records commands errands,
      f (World.withSecrets w records commands errands) = (f w).withSecrets records commands errands) :
    (f w).Alike (f w') := by
  obtain ⟨hrecords, hcommands, herrands⟩ := hw
  -- Such a change keeps the secrets of the bench itself, too.
  have hown : f w = (f w).withSecrets w.hardware.driver.records w.script.commands w.errands := hf w ..
  rw [hf]
  refine .intro ?_ ?_ ?_
  · rw [hown]
    exact hrecords
  · rw [hown]
    exact hcommands
  · rw [hown]
    exact herrands

theorem World.Alike.goesOn_eq (hw : w.Alike w') : w'.goesOn = w.goesOn := by
  funext t
  cases t with
  | errand number =>
    have herrand := congrArg (Option.any (·.goesOn w.now)) (hw.errand? number)
    simp only [Option.any_map, Errand.goesOn_veiled] at herrand
    have hnow : w'.now = w.now := hw.same fun _ _ _ _ => rfl
    simp only [World.goesOn, hnow, herrand]
  | dispatch n => exact hw.same (f := (·.goesOn (.dispatch n))) fun _ _ _ _ => rfl
  | pump n => exact hw.same (f := (·.goesOn (.pump n))) fun _ _ _ _ => rfl
  | sampler n loop => exact hw.same (f := (·.goesOn (.sampler n loop))) fun _ _ _ _ => rfl
  | forwarder index => exact hw.same (f := (·.goesOn (.forwarder index))) fun _ _ _ _ => rfl

theorem World.Alike.held_eq (hw : w.Alike w') : w'.held = w.held := by
  have herrands := congrArg List.flatten (hw.errands_eq Errand.holds_veiled)
  obtain ⟨-, -, -⟩ := hw
  unfold World.held
  rw [List.flatMap_def, List.flatMap_def, herrands]
  rfl

theorem World.Alike.wakes_eq (hw : w.Alike w') : w'.wakes = w.wakes := by
  have herrands := congrArg (List.filterMap id) (hw.errands_eq Errand.wake?_veiled)
  simp only [List.filterMap_map, Function.comp_def, id] at herrands
  obtain ⟨-, -, -⟩ := hw
  unfold World.wakes
  rw [herrands]
  rfl

/-! ## Parts of programs -/

theorem inStep_onBench {R : α → β → Prop} {a : Action α} {a' : Action β} (ha : InStep R a a') :
    InStep R a.onBench a'.onBench := by
  constructor
  rintro w _ ⟨hrecords, hcommands, herrands⟩
  rename_i records commands errands
  obtain ⟨hR, halike⟩ := ha.run _ _ (.intro records hrecords)
  refine ⟨hR, ?_⟩
  show World.Alike { w with hardware := (a w.hardware).2 }
    { w.withSecrets records commands errands with hardware := (a' (w.hardware.withRecords records)).2 }
  generalize (a' (w.hardware.withRecords records)).2 = hardware at halike ⊢
  obtain ⟨records', hrecords'⟩ := halike
  exact .intro hrecords' hcommands herrands

theorem run_get (f : World → Bench α) (w : World) : (get >>= f) w = f w w := rfl

theorem run_modify (f : World → World) (w : World) : (modify f : Bench Unit) w = ((), f w) := rfl

/-- A program that goes on from something that may be secret. -/
theorem inStep_get {R : α → β → Prop} {f : World → Bench α} {f' : World → Bench β}
    (hf : ∀ w w' : World, w.Alike w' → InStep R (f w) (f' w')) : InStep R (get >>= f) (get >>= f') :=
  ⟨fun w w' hw => (hf w w' hw).run w w' hw⟩

/-- A program that goes on from something that is not secret. -/
theorem inStep_read {R : α → β → Prop} {f : World → Bench α} {f' : World → Bench β}
    (hsame : ∀ w records commands errands, f' (World.withSecrets w records commands errands) = f' w)
    (hf : ∀ w, InStep R (f w) (f' w)) : InStep R (get >>= f) (get >>= f') :=
  inStep_get fun w _ hw => hw.same hsame ▸ hf w

/-- A program that neither looks at what is secret nor changes it. -/
theorem blind_public {m : Bench α}
    (hm : ∀ w records commands errands, m (World.withSecrets w records commands errands) =
      ((m w).1, (m w).2.withSecrets records commands errands)) : Blind m := by
  refine ⟨fun w w' hw => ⟨?_, ?_⟩⟩
  · exact (hw.same (f := fun w => (m w).1) fun w _ _ _ => by simp only [hm]).symm
  · exact hw.update (f := fun w => (m w).2) fun w _ _ _ => by simp only [hm]

/-! ## The bench -/

theorem blind_tell (lines : List Log.Line) : Blind (tell lines) := inStep_onBench (Hardware.blind_tell lines)

theorem blind_freshNumber : Blind freshNumber := blind_public fun _ _ _ _ => rfl

theorem blind_thing? {n : Nat} : Blind (thing? n) := blind_public fun _ _ _ _ => rfl

theorem blind_rouse : Blind rouse := by
  refine ⟨fun w w' hw => ⟨rfl, ?_⟩⟩
  show World.Alike _ { w' with tasks := w'.tasks.rouse w'.goesOn }
  rw [hw.goesOn_eq]
  exact hw.update (f := fun v => { v with tasks := v.tasks.rouse w.goesOn }) fun _ _ _ _ => rfl

theorem blind_spawn (t : Task) : Blind (spawn t) := blind_public fun _ _ _ _ => rfl

theorem blind_put (n : Nat) (t : Thing) : Blind (put n t) :=
  (blind_public fun _ _ _ _ => rfl).same fun _ => blind_rouse

theorem blind_advanceTo (time : Nat) : Blind (advanceTo time) :=
  (blind_public fun _ _ _ _ => rfl).same fun _ => blind_rouse

theorem blind_number? {slot : Slot} : Blind (number? slot) := blind_public fun _ _ _ _ => rfl

theorem blind_inSlot? {slot : Slot} : Blind (inSlot? slot) := by
  refine blind_number?.same fun n => ?_
  cases n with
  | none => exact blind_pure
  | some n => exact blind_thing?.same fun _ => blind_pure

theorem blind_close (t : Thing) : Blind t.close := by
  cases t with
  | output port => exact Port.blind_close port.claim
  | input port => exact Port.blind_close port.claim
  | bidirectional port place => exact Port.blind_close port.claim
  | analog port place => exact port.claim.blind_release
  | _ => exact blind_pure

theorem blind_endOthers (held : List Nat) (things : List (Nat × Thing)) : Blind (endOthers held things) := by
  induction things with
  | nil => exact blind_pure
  | cons e rest ih =>
    obtain ⟨n, t⟩ := e
    unfold endOthers
    split
    · exact (inStep_onBench (blind_close t)).same fun _ => (blind_public fun _ _ _ _ => rfl).same fun _ => ih
    · exact ih

theorem blind_sweep : Blind sweep := by
  refine inStep_get fun w w' hw => ?_
  have hthings : w'.things = w.things := hw.same fun _ _ _ _ => rfl
  rw [hw.held_eq, hthings]
  exact blind_endOthers ..

/-! ## Cues -/

variable {w w' : World}

theorem World.Alike.countP_calls {p : Driver.Record → Bool} (hw : w.Alike w') (hp : ∀ r, p r.veiled = p r) :
    w'.hardware.driver.records.toList.countP p = w.hardware.driver.records.toList.countP p := by
  obtain ⟨hrecords, -, -⟩ := hw
  have hcount := congrArg (List.countP p) hrecords
  rw [List.countP_map, List.countP_map, show p ∘ Driver.Record.veiled = p from funext hp] at hcount
  exact hcount

theorem World.Alike.isEmpty_calls (hw : w.Alike w') :
    w'.hardware.driver.records.isEmpty = w.hardware.driver.records.isEmpty := by
  obtain ⟨hrecords, -, -⟩ := hw
  have hempty := congrArg List.isEmpty hrecords
  simp only [List.isEmpty_map, Hardware.calls, Array.isEmpty_toList] at hempty
  exact hempty

theorem World.Alike.sent_eq (hw : w.Alike w') (function : Function) :
    w'.script.sent function = w.script.sent function := by
  obtain ⟨-, hcommands, -⟩ := hw
  have hcount := congrArg (List.countP fun c => c.wirelessFunction? == some function) hcommands
  rw [List.countP_map, List.countP_map] at hcount
  exact hcount

/-- A change of the driver that has nothing to do with the record. -/
theorem blind_onDriver {f : Driver.Simulated → Driver.Simulated}
    (hf : ∀ s records, f (s.withRecords records) = (f s).withRecords records) : Blind (onDriver f) := by
  refine blind_public fun w records commands errands => ?_
  exact congrArg (fun driver => (Answer.ok, ({ w with hardware := { w.hardware with driver } } : World).withSecrets
    driver.records commands errands)) (hf w.hardware.driver records)

/-- A change of the script that has nothing to do with the commands on record. -/
theorem blind_onScript {f : Script → Script}
    (hf : ∀ s commands, f (s.withCommands commands) = (f s).withCommands commands) : Blind (onScript f) := by
  refine blind_public fun w records commands errands => ?_
  exact congrArg (fun script => (Answer.ok, ({ w with script } : World).withSecrets records script.commands errands))
    (hf w.script commands)

theorem addDevice_withRecords (s : Driver.Simulated) (records : Array Driver.Record) (address : UInt16) :
    (s.withRecords records).addDevice address = (s.addDevice address).withRecords records := by
  by_cases haddress : address ∈ s.devices
  · simp [Driver.Simulated.addDevice, Driver.Simulated.withRecords, haddress]
  · simp [Driver.Simulated.addDevice, Driver.Simulated.withRecords, haddress]

theorem Cue.blind_play (c : Cue) : Blind c.play := by
  cases c with
  | addDevice address =>
    exact blind_onDriver (f := (·.addDevice address)) fun s records => addDevice_withRecords s records address
  | queueTwoWire address reply =>
    refine blind_onDriver (f := (·.queueTwoWire address reply)) fun s records => ?_
    simp only [Driver.Simulated.queueTwoWire, addDevice_withRecords]
    rfl
  | queueFourWire reply => exact blind_onDriver (f := (·.queueFourWire reply)) fun _ _ => rfl
  | queueReadings key values => exact blind_onDriver (f := (·.queueReadings key values)) fun _ _ => rfl
  | setLevel key level => exact blind_onDriver (f := (·.setLevel key level)) fun _ _ => rfl
  | lookAtLine key => exact inStep_read (fun _ _ _ _ => rfl) fun _ => blind_pure
  | injectFault opcode code => exact blind_onDriver (f := (·.injectFault opcode code)) fun _ _ => rfl
  | countCalls opcode =>
    refine inStep_get fun w w' hw => ?_
    have hever : w'.everCalled = w.everCalled := hw.same fun _ _ _ _ => rfl
    dsimp only
    rw [hever, hw.isEmpty_calls, hw.countP_calls (p := fun r => r.opcode == opcode) fun _ => rfl]
    exact blind_pure
  | slowCalls => exact blind_pure
  | callDriver call => exact (inStep_onBench (Hardware.blind_call call)).same fun _ => blind_pure
  | respond function response => exact blind_onScript (f := (·.respond function response)) fun _ _ => rfl
  | setDelay function delay => exact blind_onScript (f := (·.setDelay function delay)) fun _ _ => rfl
  | failNext function cause => exact blind_onScript (f := (·.failNext function cause)) fun _ _ => rfl
  | pushEvent event =>
    exact (blind_onScript (f := (·.pushEvent event)) fun _ _ => rfl).same fun _ =>
      inStep_read (fun _ _ _ _ => rfl) fun _ => blind_pure
  | countEvents => exact blind_public fun _ _ _ _ => rfl
  | countCommands function =>
    refine inStep_get fun w w' hw => ?_
    rw [hw.sent_eq]
    exact blind_pure
  | cancel token => exact blind_public fun _ _ _ _ => rfl

/-! ## Commands to the coprocessor -/

theorem inStep_sendOver (link : Nat) {c c' : Command} (hc : c'.veiled = c.veiled) :
    InStep Eq (sendOver link c) (sendOver link c') := by
  refine blind_thing?.same fun t => ?_
  split
  · refine blind_thing?.same fun bus => blind_thing?.same fun select => ?_
    split
    · exact (inStep_onBench (Link.inStep_send _ _ hc)).same fun _ => (blind_put ..).same fun _ => blind_pure
    · exact blind_pure
  · exact blind_pure

theorem collect_withCommands (s : Script) (commands : List Command) (function : Function) :
    (s.withCommands commands).collect function =
      ((s.collect function).1, (s.collect function).2.withCommands commands) := by
  unfold Script.collect
  cases hfailures : s.failures.getD function [] with
  | cons cause rest => simp only [Script.withCommands, hfailures]
  | nil =>
    cases hresponses : s.responses.getD function [] with
    | cons response rest => simp only [Script.withCommands, hfailures, hresponses]
    | nil => simp only [Script.withCommands, hfailures, hresponses]

theorem poll_withCommands (s : Script) (commands : List Command) :
    (s.withCommands commands).poll = (s.poll.1, s.poll.2.withCommands commands) := by
  unfold Script.poll
  cases hevents : s.events with
  | cons event rest => simp only [Script.withCommands, hevents]
  | nil => simp only [Script.withCommands, hevents]

/-- **The script takes commands that look alike in the same way.** It keeps at most the command itself. -/
theorem receive_withCommands (s : Script) (commands : List Command) {c c' : Command} (now : Nat)
    (hc : c'.veiled = c.veiled) :
    ∃ t next kept kept', kept'.map Command.veiled = kept.map Command.veiled ∧
      s.receive c now = (t, Script.withCommands next (s.commands ++ kept)) ∧
      (s.withCommands commands).receive c' now = (t, next.withCommands (commands ++ kept')) := by
  obtain ⟨interface, function, payload⟩ := c
  obtain ⟨interface', function', payload'⟩ := c'
  obtain ⟨rfl, rfl, hpayload⟩ := Command.mk.inj hc
  have hkept : [Command.veiled ⟨interface', function', payload'⟩] =
      [Command.veiled ⟨interface', function', payload⟩] := by rw [hc]
  cases interface' with
  | system =>
    have hown : s.poll = (s.poll.1, s.poll.2.withCommands s.commands) := poll_withCommands s s.commands
    refine ⟨.answered (.ok s.poll.1), s.poll.2, [], [], rfl, ?_, ?_⟩
    · rw [List.append_nil]
      exact congrArg (fun r => (Transit.answered (.ok r.1), r.2)) hown
    · rw [List.append_nil]
      exact congrArg (fun r => (Transit.answered (.ok r.1), r.2)) (poll_withCommands s commands)
  | wireless =>
    cases hfunction : Function.ofWord? function' with
    | none =>
      refine ⟨.answered (.ok ⟨.invalidFunction, []⟩), s, [], [], rfl, ?_, ?_⟩
      · simp only [Script.receive, Command.wirelessFunction?, hfunction, List.append_nil]
        rfl
      · simp only [Script.receive, Command.wirelessFunction?, hfunction, List.append_nil]
    | some f =>
      cases hdelay : s.delays.get? f with
      | some delay =>
        refine ⟨.held f (now + delay.ceilMillis), s, [_], [_], hkept, ?_, ?_⟩
        · simp only [Script.receive, Command.wirelessFunction?, hfunction, hdelay]
          rfl
        · simp only [Script.receive, Command.wirelessFunction?, hfunction, Script.withCommands, hdelay]
      | none =>
        refine ⟨.answered (s.collect f).1, (s.collect f).2, [_], [_], hkept, ?_, ?_⟩
        · simp only [Script.receive, Command.wirelessFunction?, hfunction, hdelay]
          exact congrArg (fun r => (Transit.answered r.1, r.2)) (collect_withCommands s _ f)
        · simp only [Script.receive, Command.wirelessFunction?, hfunction, Script.withCommands, hdelay]
          exact congrArg (fun r => (Transit.answered r.1, r.2)) (collect_withCommands s _ f)

theorem inStep_transmit (route : Route) {c c' : Command} (hc : c'.veiled = c.veiled) :
    InStep Eq (transmit route c) (transmit route c') := by
  cases route with
  | scripted =>
    constructor
    rintro w _ ⟨hrecords, hcommands, herrands⟩
    rename_i records commands errands
    obtain ⟨t, next, kept, kept', hkept, hreceive, hreceive'⟩ := receive_withCommands w.script commands w.now hc
    have hleft : transmit .scripted c w = (t, { w with script := next.withCommands (w.script.commands ++ kept) }) :=
      congrArg (fun r : Transit × Script => (r.1, ({ w with script := r.2 } : World))) hreceive
    have hright : transmit .scripted c' (w.withSecrets records commands errands) =
        (t, { w.withSecrets records commands errands with script := next.withCommands (commands ++ kept') }) :=
      congrArg (fun r : Transit × Script =>
        (r.1, ({ w.withSecrets records commands errands with script := r.2 } : World))) hreceive'
    rw [hleft, hright]
    refine ⟨rfl, .intro hrecords ?_ herrands⟩
    show (commands ++ kept').map _ = (w.script.commands ++ kept).map _
    rw [List.map_append, List.map_append, hcommands, hkept]
  | wired link =>
    refine (inStep_sendOver link hc).same fun reply => ?_
    cases reply with
    | some reply => exact blind_pure
    | none => exact blind_pure

theorem proceed_withCommands (s : Script) (commands : List Command) (t : Transit) (now : Nat) :
    (s.withCommands commands).proceed t now = ((s.proceed t now).1, (s.proceed t now).2.withCommands commands) := by
  cases t with
  | answered reply => rfl
  | held function release =>
    by_cases hrelease : release ≤ now
    · simp only [Script.proceed, if_pos hrelease, collect_withCommands]
    · simp only [Script.proceed, if_neg hrelease]

theorem blind_follow (t : Transit) : Blind (follow t) :=
  blind_public fun w records commands errands =>
    congrArg (fun r : Transit × Script =>
      (r.1, ({ w.withSecrets records commands errands with script := r.2 } : World)))
      (proceed_withCommands w.script commands t w.now)

end Bench

end Peripherals
