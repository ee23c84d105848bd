import Mathlib.Data.List.Forall2
import Peripherals.Proofs.Secrecy.Jobs

/-!
# `Proofs.Secrecy.Runs` — passwords are never told

Two runs of a bench take the same scenes, but for the bytes of passwords in requests to connect. The scenes may do
anything besides: script the coprocessor, make calls fail, push events, cancel requests, let time pass, all of it
while a request is under way as well. Whether commands go over a bus or to the scripted coprocessor, the two runs
cannot be told apart by what they report (`run_alike`).
-/

namespace Peripherals.Bench

open Veiled Coprocessor

variable {α β : Type}

/-! ## Scenes -/

mutual

/-- **Two scenes that look alike**: they are the same but for the bytes of passwords. -/
inductive Scene.Alike : Scene → Scene → Prop
  | intro {step step' : Step} {during during' : List (Nat × Scene)} (hstep : step.Alike step')
      (hduring : Scene.AlikeDuring during during') : Alike ⟨step, during⟩ ⟨step', during'⟩

/-- Scenes to come that look alike, at the same times. -/
inductive Scene.AlikeDuring : List (Nat × Scene) → List (Nat × Scene) → Prop
  | nil : AlikeDuring [] []
  | cons (time : Nat) {scene scene' : Scene} {rest rest' : List (Nat × Scene)} (hscene : Scene.Alike scene scene')
      (hrest : AlikeDuring rest rest') : AlikeDuring ((time, scene) :: rest) ((time, scene') :: rest')

end

mutual

theorem Scene.alike_refl : ∀ scene : Scene, scene.Alike scene
  | ⟨step, during⟩ => .intro (.same step) (Scene.alikeDuring_refl during)

theorem Scene.alikeDuring_refl : ∀ during : List (Nat × Scene), Scene.AlikeDuring during during
  | [] => .nil
  | (time, scene) :: rest => .cons time (Scene.alike_refl scene) (Scene.alikeDuring_refl rest)

end

theorem Scene.AlikeDuring.shift (begun : Nat) : ∀ {during during' : List (Nat × Scene)}, AlikeDuring during during' →
    AlikeDuring (during.map fun e => (begun + e.1, e.2)) (during'.map fun e => (begun + e.1, e.2))
  | _, _, .nil => .nil
  | _, _, .cons time hscene hrest => .cons (begun + time) hscene (hrest.shift begun)

/-- **Two scenes under way that look alike.** -/
inductive Act.Alike : Act → Act → Prop
  | alone (begun : Nat) {main main' : Job} (ended : Option Nat) {pending pending' : List (Nat × Scene)}
      (results : List Result) (hmain : main.Alike main') (hpending : Scene.AlikeDuring pending pending') :
      Alike ⟨begun, main, ended, pending, none, results⟩ ⟨begun, main', ended, pending', none, results⟩
  | around (begun : Nat) {main main' : Job} (ended : Option Nat) {pending pending' : List (Nat × Scene)}
      {inner inner' : Act} (results : List Result) (hmain : main.Alike main')
      (hpending : Scene.AlikeDuring pending pending') (hinner : Alike inner inner') :
      Alike ⟨begun, main, ended, pending, some inner, results⟩ ⟨begun, main', ended, pending', some inner', results⟩

namespace Act.Alike

variable {a a' : Act}

theorem isOver_eq (ha : a.Alike a') : a'.isOver = a.isOver := by
  cases ha with
  | alone begun ended results hmain hpending => cases hpending <;> rfl
  | around begun ended results hmain hpending hinner => cases hpending <;> rfl

theorem result_eq (ha : a.Alike a') : a'.result = a.result := by
  cases ha with
  | alone begun ended results hmain hpending => simp only [Act.result, hmain.answer?_eq]
  | around begun ended results hmain hpending hinner => simp only [Act.result, hmain.answer?_eq]

theorem wakes_eq (ha : a.Alike a') : a'.wakes = a.wakes := by
  induction ha with
  | alone begun ended results hmain hpending =>
    cases hpending with
    | nil => simp only [Act.wakes, hmain.wakes_eq]
    | cons time hscene hrest => simp only [Act.wakes, hmain.wakes_eq, List.head?_cons, Option.map_some]
  | around begun ended results hmain hpending hinner ih => simp only [Act.wakes, hmain.wakes_eq, ih]

theorem uses_eq (ha : a.Alike a') : a'.uses = a.uses := by
  induction ha with
  | alone begun ended results hmain hpending => simp only [Act.uses, hmain.uses_eq]
  | around begun ended results hmain hpending hinner ih => simp only [Act.uses, hmain.uses_eq, ih]

end Act.Alike

theorem Scene.inStep_enact {scene scene' : Scene} (hscene : scene.Alike scene') :
    InStep Act.Alike scene.enact scene'.enact := by
  obtain ⟨hstep, hduring⟩ := hscene
  refine inStep_read (fun _ _ _ _ => rfl) fun w => (inStep_start hstep).bind fun main main' hmain => ?_
  exact inStep_pure (.alone w.now none [] hmain (hduring.shift w.now))

theorem inStep_whileUsing {R : α → β → Prop} {action : Bench α} {action' : Bench β} (things : List Nat)
    (ha : InStep R action action') : InStep R (whileUsing things action) (whileUsing things action') := by
  refine inStep_read (fun _ _ _ _ => rfl) fun w => (blind_public fun _ _ _ _ => rfl).same fun _ => ?_
  refine ha.bind fun x y hxy => ?_
  exact (blind_public fun _ _ _ _ => rfl).same fun _ => inStep_pure hxy

namespace Act

theorem Alike.main {a a' : Act} (ha : a.Alike a') : a.main.Alike a'.main := by
  cases ha with
  | alone begun ended results hmain hpending => exact hmain
  | around begun ended results hmain hpending hinner => exact hmain

theorem Alike.ended_eq {a a' : Act} (ha : a.Alike a') : a'.ended = a.ended := by
  cases ha with
  | alone => rfl
  | around => rfl

theorem Alike.withMain {a a' : Act} (ha : a.Alike a') {main main' : Job} (hmain : main.Alike main')
    (ended : Option Nat) : Alike { a with main, ended } { a' with main := main', ended } := by
  cases ha with
  | alone begun _ results _ hpending => exact .alone begun ended results hmain hpending
  | around begun _ results _ hpending hinner => exact .around begun ended results hmain hpending hinner

/-- **Scenes that look alike go on in step**, with or without the step that they are around. -/
theorem inStep_advance (fuel : Nat) :
    (∀ {a a' : Act}, a.Alike a' → InStep (Done Act.Alike) (advance fuel a) (advance fuel a')) ∧
      ∀ {a a' : Act}, a.Alike a' → InStep (Done Act.Alike) (advanceInner fuel a) (advanceInner fuel a') := by
  induction fuel with
  | zero =>
    refine ⟨fun {a a'} ha => ?_, fun {a a'} ha => ?_⟩
    · rw [advance, advance]
      exact inStep_pure ⟨ha, rfl⟩
    · rw [advanceInner, advanceInner]
      exact inStep_pure ⟨ha, rfl⟩
  | succ fuel ih =>
    obtain ⟨ihadvance, ihinner⟩ := ih
    refine ⟨fun {a a'} ha => ?_, fun {a a'} ha => ?_⟩
    · rw [advance, advance]
      refine inStep_done (Job.inStep_run ha.main turnLimit) fun main main' first hmain => ?_
      dsimp only
      rw [ha.ended_eq, hmain.answer?_eq, hmain.uses_eq]
      refine inStep_read (fun _ _ _ _ => rfl) fun w => ?_
      exact inStep_done (inStep_whileUsing _ (ihinner (ha.withMain hmain _))) fun b b' second hb =>
        inStep_pure ⟨hb, rfl⟩
    · rw [advanceInner, advanceInner]
      cases ha with
      | alone begun ended results hmain hpending =>
        cases hpending with
        | nil => exact inStep_pure ⟨.alone begun ended results hmain .nil, rfl⟩
        | cons time hscene hrest =>
          refine inStep_read (fun _ _ _ _ => rfl) fun w => ?_
          split
          · refine (Scene.inStep_enact hscene).bind fun inner inner' hinner => ?_
            exact inStep_done (ihinner (.around begun ended results hmain hrest hinner)) fun b b' _ hb =>
              inStep_pure ⟨hb, rfl⟩
          · exact inStep_pure ⟨.alone begun ended results hmain (.cons time hscene hrest), rfl⟩
      | around begun ended results hmain hpending hinner =>
        refine inStep_done (ihadvance hinner) fun inner inner' did hinner => ?_
        dsimp only
        rw [hinner.isOver_eq, hinner.result_eq]
        split
        · exact inStep_done (ihinner (.alone begun ended _ hmain hpending)) fun b b' _ hb => inStep_pure ⟨hb, rfl⟩
        · exact inStep_pure ⟨.around begun ended results hmain hpending hinner, rfl⟩

end Act

/-! ## Standstill -/

theorem blind_runBackground : Blind runBackground :=
  (blind_runTasks roundLimit).same fun _ => blind_sweep.same fun _ => blind_resume.same fun _ => blind_pure

theorem blind_quiesce (fuel : Nat) : Blind (quiesce fuel) := by
  induction fuel with
  | zero => exact blind_pure
  | succ fuel ih =>
    refine blind_runBackground.same fun did => ?_
    split
    · exact ih
    · exact blind_pure

theorem blind_settle : Blind settle := by
  refine (blind_quiesce roundLimit).same fun _ => inStep_read (fun _ _ _ _ => rfl) fun w => ?_
  split
  · exact inStep_read (fun _ _ _ _ => rfl) fun w => (blind_advanceTo _).same fun _ => blind_quiesce roundLimit
  · exact blind_pure

namespace Act

theorem inStep_round {a a' : Act} (ha : a.Alike a') : InStep (Done Act.Alike) a.round a'.round := by
  refine inStep_done (inStep_whileUsing [] ((inStep_advance turnLimit).1 ha)) fun b b' first hb => ?_
  dsimp only
  rw [hb.uses_eq]
  exact (inStep_whileUsing _ blind_runBackground).same fun _ => inStep_pure ⟨hb, rfl⟩

theorem inStep_wake? {a a' : Act} (ha : a.Alike a') : InStep Eq a.wake? a'.wake? := by
  refine inStep_get fun w w' hw => ?_
  have hnow : w'.now = w.now := hw.same fun _ _ _ _ => rfl
  rw [ha.wakes_eq, hw.wakes_eq, hnow]
  exact blind_pure

theorem inStep_run {a a' : Act} (ha : a.Alike a') (fuel : Nat) : InStep Act.Alike (a.run fuel) (a'.run fuel) := by
  induction fuel generalizing a a' with
  | zero => exact inStep_pure ha
  | succ fuel ih =>
    refine inStep_done (inStep_round ha) fun b b' did hb => ?_
    dsimp only
    rw [hb.isOver_eq]
    split
    · exact inStep_pure hb
    · split
      · exact ih hb
      · refine (inStep_wake? hb).same fun wake => ?_
        cases wake with
        | none => exact inStep_pure hb
        | some wake => exact (blind_advanceTo wake).same fun _ => ih hb

end Act

theorem inStep_perform {scene scene' : Scene} (hscene : scene.Alike scene') :
    InStep Eq (perform scene) (perform scene') := by
  refine (Scene.inStep_enact hscene).bind fun a a' ha => (Act.inStep_run ha roundLimit).bind fun b b' hb => ?_
  exact inStep_pure hb.result_eq.symm

/-! ## Reports -/

/-- **Two reports that nobody can tell apart**: they are the same but for the bytes that went to the driver and the
bytes in the payloads of commands. -/
structure Entry.Alike (e e' : Entry) : Prop where
  log : e'.log = e.log
  result : e'.result = e.result
  sessions : e'.sessions = e.sessions
  notices : e'.notices = e.notices
  connectivity : e'.connectivity = e.connectivity
  changes : e'.changes = e.changes
  merged : e'.merged = e.merged
  reserved : e'.reserved = e.reserved
  calls : e'.calls.map Driver.Record.veiled = e.calls.map Driver.Record.veiled
  commands : e'.commands.map Command.veiled = e.commands.map Command.veiled
  /-- The commands as diagnostics show them. -/
  described : e'.commands.map Command.describe = e.commands.map Command.describe

theorem inStep_report (result : Result) : InStep Entry.Alike (report result) (report result) := by
  refine ⟨fun w w' hw => ?_⟩
  have hcalled := hw.isEmpty_calls
  obtain ⟨hrecords, hcommands, herrands⟩ := hw
  rename_i records commands errands
  have hempty : records.isEmpty = w.hardware.driver.records.isEmpty := hcalled
  have hlength : commands.length = w.script.commands.length := by
    have := congrArg List.length hcommands
    rwa [List.length_map, List.length_map] at this
  have hnew : (commands.drop w.reported).map Command.veiled =
      (w.script.commands.drop w.reported).map Command.veiled := by
    rw [List.map_drop, List.map_drop, hcommands]
  have htexts := congrArg (List.map Command.describe) hnew
  simp only [List.map_map, Function.comp_def, Command.describe_veiled] at htexts
  refine ⟨⟨rfl, rfl, rfl, rfl, rfl, rfl, rfl, rfl, hrecords, hnew, htexts⟩, ?_⟩
  -- What is noted down for the next report are two numbers that do not depend on what is secret.
  show World.Alike { w with things := _, mergedPlace := _, reported := _, everCalled := _, hardware := _ }
    { w.withSecrets records commands errands with
      things := _, mergedPlace := _, reported := commands.length
      everCalled := w.everCalled || !records.isEmpty, hardware := _ }
  rw [hlength, hempty]
  exact .intro rfl hcommands herrands

theorem inStep_performAll {scenes scenes' : List Scene} (hscenes : List.Forall₂ Scene.Alike scenes scenes') :
    InStep (List.Forall₂ Entry.Alike) (performAll scenes) (performAll scenes') := by
  induction hscenes with
  | nil => exact inStep_pure .nil
  | cons hscene hrest ih =>
    refine (inStep_perform hscene).same fun result => blind_settle.same fun _ => ?_
    exact (inStep_report result).bind fun e e' he => ih.bind fun es es' hes => inStep_pure (.cons he hes)

theorem run_alike {w w' : World} (hw : w.Alike w') {scenes scenes' : List Scene}
    (hscenes : List.Forall₂ Scene.Alike scenes scenes') :
    List.Forall₂ Entry.Alike (w.run scenes) (w'.run scenes') := by
  have hprogram : InStep (List.Forall₂ Entry.Alike)
      (do settle; let entry ← report .started; pure (entry :: (← performAll scenes)))
      (do settle; let entry ← report .started; pure (entry :: (← performAll scenes'))) :=
    blind_settle.same fun _ => (inStep_report .started).bind fun e e' he =>
      (inStep_performAll hscenes).bind fun es es' hes => inStep_pure (.cons he hes)
  exact (hprogram.run w w' hw).1

/-- **Passwords are never told.** Two runs that take the same scenes but for the bytes of passwords make reports that
nobody can tell apart: the same lines in the log, the same results, sessions and notices. A command as diagnostics
show it, sent or only started, is the same for passwords of the same length, and credentials as diagnostics show them
are the same for all passwords. -/
theorem passwords_never_told (w : World) {scenes scenes' : List Scene}
    (hscenes : List.Forall₂ Scene.Alike scenes scenes') :
    List.Forall₂ Entry.Alike (w.run scenes) (w.run scenes') ∧
      (∀ (a : Adapter) (now : Nat) (cancelled : Bool) {request request' : Request}, request.Alike request' →
        (Call.start a now cancelled request').map (·.command.describe) =
          (Call.start a now cancelled request).map (·.command.describe)) ∧
      ∀ ssid password password',
        (Credentials.mk ssid password').describe = (Credentials.mk ssid password).describe := by
  refine ⟨run_alike w.alike_refl hscenes, fun a now cancelled {request request'} hr => ?_, fun _ _ _ => rfl⟩
  rcases Call.start_alike hr a now cancelled with ⟨e, hstart, hstart'⟩ | ⟨started, c', hstart, hstart', hc⟩
  · rw [hstart, hstart']
  · have htext : c'.describe = started.command.describe := by
      rw [← c'.describe_veiled, ← started.command.describe_veiled, hc]
    rw [hstart, hstart']
    exact congrArg Except.ok htext

/-! ## A connection attempt that is called off -/

/-- A board with the pins of a four-wire bus and one more. -/
def office : World :=
  { World.empty true with
    device := some ⟨[⟨"D04", 4, [.fourWire 0 .clock]⟩, ⟨"D05", 5, [.fourWire 0 .dataOut]⟩,
      ⟨"D06", 6, [.fourWire 0 .dataIn]⟩, ⟨"D07", 7, [.digital true true false]⟩], .standard, .new 4095⟩ }

/-- A bench with an adapter over the scripted coprocessor. -/
def cabin : World := (withAdapter true {} true).toOption.getD (.empty true)

/-- Makes an adapter on a bus, if there is a board, and connects; the attempt is cancelled after five milliseconds. -/
def visit (password : String) : List Scene :=
  [⟨.make "bus" (.fourWire "D04" "D05" "D06" none), []⟩, ⟨.make "w" (.adapter "bus" "D07"), []⟩,
    ⟨.ask "w" (.connect "office" password .zero) (some "stop"), [(5, ⟨.cue (.cancel "stop"), []⟩)]⟩]

/-- The password goes out over the bus, and to the scripted coprocessor, and is told in neither case. -/
theorem passwords_never_told_visit :
    (List.Forall₂ Entry.Alike (office.run (visit "letmein")) (office.run (visit "dragons")) ∧
      (office.run (visit "letmein")).map (·.calls) ≠ (office.run (visit "dragons")).map (·.calls)) ∧
    List.Forall₂ Entry.Alike (cabin.run (visit "letmein")) (cabin.run (visit "dragons")) ∧
      (cabin.run (visit "letmein")).map (·.commands) ≠ (cabin.run (visit "dragons")).map (·.commands) := by
  have hask : Step.Alike (.ask "w" (.connect "office" "letmein" .zero) (some "stop"))
      (.ask "w" (.connect "office" "dragons" .zero) (some "stop")) :=
    .ask "w" (some "stop") (.connect "office" .zero (by decide))
  have hvisit : List.Forall₂ Scene.Alike (visit "letmein") (visit "dragons") :=
    .cons (Scene.alike_refl _) (.cons (Scene.alike_refl _) (.cons (.intro hask (Scene.alikeDuring_refl _)) .nil))
  exact ⟨⟨(passwords_never_told office hvisit).1, by decide +kernel⟩,
    (passwords_never_told cabin hvisit).1, by decide +kernel⟩

end Peripherals.Bench
