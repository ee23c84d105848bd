import Mathlib.Logic.Relation
import Peripherals.Proofs.Call.Refusal

/-!
# `Proofs.Call.Survey` — a scan and its errand on a bench

The command of a scan travels by itself, as an errand. The caller waits for whatever comes first: the answer, the
deadline, or the token being raised. The errand waits for the answer alone, and takes it off the script even if nobody
waits for it any more.

A `Survey` is a scan that has begun on a bench: its caller and its errand, with the turns that the bench gives to jobs
and tasks. The bench may be used by others at any time, for other scans as well: they may put commands on record, script
answers and delays, and take answers off the script. What a survey does itself is counted apart from what others do. The
clock stands still while the caller or the errand can go on, and does not pass over a time for which they wait.

* `Survey.Own`, `Survey.Next` — what the caller, the errand and the clock do, and what happens meanwhile;
* `Survey.Verdict` — what the caller is told, by what has come first;
* `Survey.Sound` — what holds at any time;
* `Survey.Sound.own`, `Survey.Sound.next`, `Survey.Sound.reached` — one step of a survey, of anybody, and any number;
* `Survey.Sound.spares` — two surveys do not get in each other's way, except for the answers.
-/

namespace Peripherals

namespace Coprocessor

/-! ## Answers -/

/-- The command of a scan. -/
def Command.scan : Command := .wireless .listAccessPoints []

/-- **The answers that a script has for a function.** Failures come before responses. -/
def Script.answers (s : Script) (function : Function) : List (Except Error Response) :=
  (s.failures.getD function []).map (fun cause => .error (.transport cause)) ++
    (s.responses.getD function []).map .ok

/-- The next of these answers. A script without answers answers with a success. -/
def nextAnswer (answers : List (Except Error Response)) : Except Error Response := answers.headD (.ok (.ok []))

/-- **A collected answer is the next one**, and is taken off the script, which is the same otherwise. -/
theorem Script.collect_spec (s : Script) (function : Function) :
    (s.collect function).1 = nextAnswer (s.answers function) ∧
      (s.collect function).2.answers function = (s.answers function).tail ∧
      (s.collect function).2.delays = s.delays ∧ (s.collect function).2.commands = s.commands := by
  unfold collect
  cases hfailures : s.failures.getD function [] with
  | cons cause rest => simp [nextAnswer, answers, hfailures, Table.getD_set_self]
  | nil =>
      cases hresponses : s.responses.getD function [] with
      | cons response rest => simp [nextAnswer, answers, hfailures, hresponses, Table.getD_set_self]
      | nil => simp [nextAnswer, answers, hfailures, hresponses]

/-- What an answer to a scan means. -/
def scanResult : Except Error Response → Except Error (List AccessPoint)
  | .error e => .error e
  | .ok response =>
    if response.status.isOk then (AccessPoint.decodeList response.payload).mapError .decode
    else .error (.refused .accessPointScan response.status)

/-- **One turn of a scan**: a caller that has cancelled comes first, then the deadline, then the answer. -/
theorem Call.turn_scanning (a : Adapter) (now : Nat) (cancelled : Bool) (reply : Option (Except Error Response))
    (d : Deadline) :
    ∃ lines, Call.turn a now cancelled reply (.scanning d) =
      (if cancelled then some (.error .cancelled) else if d.passed now then some (.error (.timeout d.timeout))
        else reply.map scanResult).elim .wait fun result => .over a (result.map .found) lines := by
  simp only [turn, select, Wait.decides_token]
  by_cases hcancelled : cancelled = true
  · rw [if_pos hcancelled, if_pos hcancelled]
    exact ⟨_, rfl⟩
  · rw [if_neg hcancelled, if_neg hcancelled]
    by_cases hpassed : d.passed now = true
    · rw [if_pos hpassed, if_pos hpassed]
      exact ⟨_, rfl⟩
    · rw [if_neg hpassed, if_neg hpassed]
      cases reply with
      | none => exact ⟨[], rfl⟩
      | some reply =>
          cases reply with
          | error e => exact ⟨_, rfl⟩
          | ok response =>
              simp only [Option.map_some, Option.isSome_some, if_true, Option.getD_some, scanned, scanResult,
                Option.elim_some]
              split
              · cases AccessPoint.decodeList response.payload with
                | error e => exact ⟨_, rfl⟩
                | ok points => exact ⟨_, rfl⟩
              · exact ⟨_, rfl⟩

end Coprocessor

namespace Bench

open Coprocessor

/-! ## Surveys -/

/-- The answer of a scan. -/
def scanAnswer (result : Except Error (List AccessPoint)) : Answer := .ofResult .coprocessor .found result

theorem callAnswer_scan (a : Adapter) (timeout : Duration) (result : Except Error (List AccessPoint)) :
    callAnswer a (.scan timeout) (result.map .found) = scanAnswer result := by
  cases result with
  | error e => rfl
  | ok points => rfl

/-- **A scan that has begun**, with what the bench was like then. -/
structure Survey where
  radio : Nat
  /-- The number of its errand. -/
  errand : Nat
  timeout : Duration
  token : Option String
  begun : Nat
  /-- How long its answer is held back, if it is. -/
  delay : Option Duration
  /-- The answers to scans on the script. -/
  answers : List (Except Error Response)

/-- The scan of a radio that begins on a bench. -/
def World.survey (w : World) (radio : Nat) (timeout : Duration) (token : Option String) : Survey :=
  ⟨radio, w.fresh, timeout, token, w.now, w.script.delays.get? .listAccessPoints,
    w.script.answers .listAccessPoints⟩

namespace Survey

/-- The time at which the answer comes. -/
def release (s : Survey) : Nat := s.begun + (s.delay.map Duration.ceilMillis).getD 0

/-- The limit on the wait of the caller. -/
def deadline (s : Survey) : Deadline := .start s.timeout s.begun

/-- The caller while it waits. -/
def caller (s : Survey) : Job := .calling s.radio (.scan s.timeout) s.token (.scanning s.deadline) (.errand s.errand)

/-- A survey at a time. -/
structure Moment where
  bench : World
  caller : Job
  /-- When the token was raised. -/
  raised : Option Nat
  /-- The number of scans that the survey itself has put on record. -/
  recorded : Nat
  /-- The answer that the errand has brought, whatever has become of it since. -/
  drawn : Option (Except Error Response)
  /-- Whether others may have changed the answers to scans before that. -/
  shared : Bool

/-- The answers to scans that are on the script. -/
def Moment.answers (x : Moment) : List (Except Error Response) := x.bench.script.answers .listAccessPoints

/-- The number of scans on record. -/
def Moment.sent (x : Moment) : Nat := x.bench.script.sent .listAccessPoints

/-- The errand of a survey, on a bench. -/
def errand? (s : Survey) (w : World) : Option Errand := w.errands.get? s.errand

/-- The answer that the errand has brought. -/
def reply? (s : Survey) (w : World) : Option (Except Error Response) :=
  match s.errand? w with
  | some ⟨_, .sent transit⟩ => transit.reply?
  | _ => none

/-- What the survey itself has made of the bench. -/
def onto (s : Survey) (x : Moment) (w : World) : Moment :=
  { x with
    bench := w
    recorded := x.recorded + (w.script.sent .listAccessPoints - x.sent)
    drawn := x.drawn.or (s.reply? w) }

/-- The times for which the caller and the errand wait. -/
def wakes (s : Survey) (x : Moment) : List Nat := x.caller.wakes ++ ((s.errand? x.bench).bind Errand.wake?).toList

/-- **Neither the caller nor the errand can go on.** An errand that has its answer is over. -/
structure Stands (s : Survey) (x : Moment) : Prop where
  caller : (x.caller.turn x.bench).1 = none
  sent : ∀ route command, s.errand? x.bench ≠ some ⟨route, .unsent command⟩
  held : ∀ route function release, s.errand? x.bench = some ⟨route, .sent (.held function release)⟩ →
    x.bench.now < release

/-- **What the caller, the errand and the clock do**, and the token. It is not raised just when the answer comes or the
deadline passes. -/
inductive Own (s : Survey) (x : Moment) : Moment → Prop
  | call {next : Option Job} {w : World} (turn : x.caller.turn x.bench = (next, w)) :
    Own s x { s.onto x w with caller := next.getD x.caller }
  | enter : Own s x (s.onto x ((Task.errand s.errand).enter x.bench).2)
  | carry : Own s x (s.onto x ((Task.errand s.errand).turn x.bench).2)
  | cancel {token : String} (token_eq : s.token = some token) (apart : x.bench.now ≠ s.release)
    (apart' : s.deadline.due ≠ some x.bench.now) :
    Own s x { x with bench := ((Cue.cancel token).play x.bench).2, raised := x.raised <|> some x.bench.now }
  | pass {time : Nat} (later : x.bench.now < time) (stands : s.Stands x)
    (within : ∀ wake ∈ s.wakes x, x.bench.now < wake → time ≤ wake) :
    Own s x { x with bench := (advanceTo time x.bench).2 }

/-- **What others leave alone**: the clock, the errand, the token, how long answers to scans are held back until the
command is sent, and the radio as long as the caller holds on to it. -/
structure Spares (s : Survey) (x : Moment) (w : World) : Prop where
  now : w.now = x.bench.now
  errand : s.errand? w = s.errand? x.bench
  raised : w.raised s.token = x.bench.raised s.token
  delay : ∀ route command, s.errand? x.bench = some ⟨route, .unsent command⟩ →
    w.script.delays.get? .listAccessPoints = x.bench.script.delays.get? .listAccessPoints
  radio : x.caller.answer? = none → (∃ r, x.bench.things.get? s.radio = some (.radio r)) →
    ∃ r, w.things.get? s.radio = some (.radio r)

/-- What happens next. Others change the answers to scans, or they do not. -/
inductive Next (s : Survey) (x : Moment) : Moment → Prop
  | own {y : Moment} (own : s.Own x y) : Next s x y
  | others {w : World} (spares : s.Spares x w) (changed : Bool)
    (kept : changed = false → w.script.answers .listAccessPoints = x.answers) :
    Next s x { x with bench := w, shared := x.shared || (x.drawn.isNone && changed) }

/-- Any number of steps. -/
abbrev Reached (s : Survey) : Moment → Moment → Prop := Relation.ReflTransGen s.Next

/-- **What the caller is told**, by what has come first. -/
inductive Verdict (s : Survey) (x : Moment) : Except Error (List AccessPoint) → Prop
  | cancelled {time : Nat} (raised : x.raised = some time) (before : time < s.release)
    (before' : ∀ due, s.deadline.due = some due → time < due) : Verdict s x (.error .cancelled)
  | timedOut {due : Nat} (due_eq : s.deadline.due = some due) (come : due ≤ x.bench.now) (before : due < s.release)
    (before' : ∀ time, x.raised = some time → due < time) : Verdict s x (.error (.timeout s.timeout))
  | answered {answer : Except Error Response} (drawn : x.drawn = some answer) (come : s.release ≤ x.bench.now)
    (before : ∀ due, s.deadline.due = some due → s.release < due)
    (before' : ∀ time, x.raised = some time → s.release < time) : Verdict s x (scanResult answer)

/-! ## What holds at any time -/

/-- **Where the errand is**: not sent, held, answered, or forgotten. -/
inductive Journey (s : Survey) (x : Moment) : Prop
  | unsent (errand : s.errand? x.bench = some ⟨.scripted, .unsent .scan⟩) (now : x.bench.now = s.begun)
    (delay : x.bench.script.delays.get? .listAccessPoints = s.delay) (drawn : x.drawn = none) (recorded : x.recorded = 0)
  | held (errand : s.errand? x.bench = some ⟨.scripted, .sent (.held .listAccessPoints s.release)⟩)
    (now : x.bench.now ≤ s.release) (drawn : x.drawn = none) (recorded : x.recorded = 1)
  | answered {answer : Except Error Response} (errand : s.errand? x.bench = some ⟨.scripted, .sent (.answered answer)⟩)
    (now : s.release ≤ x.bench.now) (drawn : x.drawn = some answer) (recorded : x.recorded = 1)
  | settled {answer : Except Error Response} (errand : s.errand? x.bench = none) (now : s.release ≤ x.bench.now)
    (drawn : x.drawn = some answer) (recorded : x.recorded = 1)

/-- **The answers are the survey's own**: those of its beginning until its errand brings one, which is the first. -/
structure Unshared (s : Survey) (x : Moment) : Prop where
  kept : x.drawn = none → x.answers = s.answers
  drawn : ∀ answer, x.drawn = some answer → answer = nextAnswer s.answers

/-- **Where the caller is**: it waits, and nothing that it waits for is past; or it has been told. -/
inductive Called (s : Survey) (x : Moment) : Prop
  | waiting (caller : x.caller = s.caller) (radio : ∃ r, x.bench.things.get? s.radio = some (.radio r))
    (errand : s.errand? x.bench ≠ none) (release : x.bench.now ≤ s.release)
    (due : ∀ due, s.deadline.due = some due → x.bench.now ≤ due)
    (raised : ∀ time, x.raised = some time → time = x.bench.now ∧ time ≠ s.release ∧ s.deadline.due ≠ some time)
  | told {result : Except Error (List AccessPoint)} (caller : x.caller = .over (scanAnswer result))
    (verdict : s.Verdict x result)

/-- What holds at any time. -/
structure Sound (s : Survey) (x : Moment) : Prop where
  begun : s.begun ≤ x.bench.now
  raised : x.bench.raised s.token = x.raised.isSome
  journey : s.Journey x
  unshared : x.shared = false → s.Unshared x
  called : s.Called x

variable {s : Survey} {w : World} {x y : Moment}

/-! ### The errand -/

/-- **What a survey leaves alone** whatever it does: the things on the bench, the errands of others, and for how long
answers are held back. -/
structure Apart (s : Survey) (w w' : World) : Prop where
  things : ∀ n, w'.things.get? n = w.things.get? n
  errands : ∀ n, n ≠ s.errand → w'.errands.get? n = w.errands.get? n
  delays : w'.script.delays = w.script.delays

theorem apart_refl (s : Survey) (w : World) : s.Apart w w := ⟨fun _ => rfl, fun _ _ => rfl, rfl⟩

/-- What it leaves alone as long as neither the clock goes on nor the token is raised. -/
structure Aside (s : Survey) (w w' : World) : Prop extends s.Apart w w' where
  now : w'.now = w.now
  cancelled : w'.cancelled = w.cancelled

theorem aside_refl (s : Survey) (w : World) : s.Aside w w := ⟨s.apart_refl w, rfl, rfl⟩

/-- The scripted coprocessor takes the command of a scan: it is put on record, and held or answered at once. -/
theorem receive_scan (script : Script) (now : Nat) :
    (script.receive .scan now).2.sent .listAccessPoints = script.sent .listAccessPoints + 1 ∧
      (script.receive .scan now).2.delays = script.delays ∧
      ((∃ delay, script.delays.get? .listAccessPoints = some delay ∧
          (script.receive .scan now).1 = .held .listAccessPoints (now + delay.ceilMillis) ∧
          (script.receive .scan now).2.answers .listAccessPoints = script.answers .listAccessPoints) ∨
        (script.delays.get? .listAccessPoints = none ∧
          (script.receive .scan now).1 = .answered (nextAnswer (script.answers .listAccessPoints)) ∧
          (script.receive .scan now).2.answers .listAccessPoints = (script.answers .listAccessPoints).tail)) := by
  let taken : Script := { script with commands := script.commands ++ [.scan] }
  have hsent : taken.sent .listAccessPoints = script.sent .listAccessPoints + 1 := List.countP_append
  obtain ⟨hreply, hanswers, hdelays, hcommands⟩ := taken.collect_spec .listAccessPoints
  have hscan : Command.scan.interface = .wireless ∧ Command.scan.wirelessFunction? = some .listAccessPoints := ⟨rfl, rfl⟩
  cases hdelay : script.delays.get? .listAccessPoints with
  | some delay =>
      have hreceive : script.receive .scan now = (.held .listAccessPoints (now + delay.ceilMillis), taken) := by
        simp only [Script.receive, hscan, hdelay, taken]
      rw [hreceive]
      exact ⟨hsent, rfl, .inl ⟨delay, rfl, rfl, rfl⟩⟩
  | none =>
      have hreceive : script.receive .scan now =
          (.answered (taken.collect .listAccessPoints).1, (taken.collect .listAccessPoints).2) := by
        simp only [Script.receive, hscan, hdelay, taken]
      rw [hreceive]
      refine ⟨?_, hdelays, .inr ⟨rfl, congrArg _ hreply, hanswers⟩⟩
      simp only [Script.sent, hcommands]
      exact hsent

/-- The beginning of the task of an errand. -/
theorem run_enter (s : Survey) (w : World) :
    (Task.errand s.errand).enter w = (match s.errand? w with
      | some ⟨route, .unsent command⟩ => do
        let transit ← transmit route command
        keepStage s.errand ⟨route, .unsent command⟩ (.sent transit)
      | _ => pure () : Bench Unit) w := rfl

/-- The bench when the errand keeps what its command has become. -/
def kept (s : Survey) (w : World) (script : Script) (transit : Transit) : World :=
  { w with script, errands := w.errands.set s.errand ⟨.scripted, .sent transit⟩ }

theorem errand?_kept (s : Survey) (w : World) (script : Script) (transit : Transit) :
    s.errand? (s.kept w script transit) = some ⟨.scripted, .sent transit⟩ :=
  Table.get?_set_self _ _ _

theorem aside_kept {script : Script} (s : Survey) (hdelays : script.delays = w.script.delays) (transit : Transit) :
    s.Aside w (s.kept w script transit) where
  things _ := rfl
  errands _ hne := Table.get?_set_of_ne _ _ hne.symm
  delays := hdelays
  now := rfl
  cancelled := rfl

/-- An errand that is not sent yet is sent. -/
theorem run_enter_unsent {command : Command} (herrand : s.errand? w = some ⟨.scripted, .unsent command⟩) :
    ((Task.errand s.errand).enter w).2 =
      s.kept w (w.script.receive command w.now).2 (w.script.receive command w.now).1 := by
  rw [run_enter, herrand]
  rfl

/-- An errand that is sent is not sent again. -/
theorem run_enter_sent {route : Route} {transit : Transit} (herrand : s.errand? w = some ⟨route, .sent transit⟩) :
    ((Task.errand s.errand).enter w).2 = w := by
  rw [run_enter, herrand]
  rfl

/-- An errand that is forgotten does nothing. -/
theorem run_enter_none (herrand : s.errand? w = none) : ((Task.errand s.errand).enter w).2 = w := by
  rw [run_enter, herrand]
  rfl

/-- A turn of the task of an errand. -/
theorem run_carry (s : Survey) (w : World) :
    (Task.errand s.errand).turn w = (match s.errand? w with
      | some e => errandTurn s.errand e
      | none => pure (.over ()) : Bench (Turned Unit)) w := rfl

/-- An errand that is sent keeps what its command has become, if that is an answer. -/
theorem run_carry_sent {route : Route} {transit transit' : Transit} {script : Script}
    (herrand : s.errand? w = some ⟨route, .sent transit⟩)
    (hproceed : w.script.proceed transit w.now = (transit', script)) :
    ((Task.errand s.errand).turn w).2 =
      { w with
        script
        errands := transit'.reply?.elim w.errands fun reply =>
          w.errands.set s.errand ⟨route, .sent (.answered reply)⟩ } := by
  rw [run_carry, herrand]
  simp only [errandTurn, follow]
  rw [run_bind, run_bind]
  dsimp only [get, getThe, MonadStateOf.get, StateT.get, pure]
  rw [hproceed]
  cases transit' with
  | held function release => rfl
  | answered reply => rfl

/-- An errand whose time has come takes its answer off the script. -/
theorem run_carry_due {function : Function} {release : Nat}
    (herrand : s.errand? w = some ⟨.scripted, .sent (.held function release)⟩) (hdue : release ≤ w.now) :
    ((Task.errand s.errand).turn w).2 =
      s.kept w (w.script.collect function).2 (.answered (w.script.collect function).1) :=
  run_carry_sent herrand (if_pos hdue)

/-- An errand whose time has not come waits. -/
theorem run_carry_early {route : Route} {function : Function} {release : Nat}
    (herrand : s.errand? w = some ⟨route, .sent (.held function release)⟩) (hearly : w.now < release) :
    ((Task.errand s.errand).turn w).2 = w :=
  run_carry_sent herrand (if_neg (Nat.not_le.mpr hearly))

/-- An errand that has its answer keeps it. -/
theorem run_carry_answered {reply : Except Error Response}
    (herrand : s.errand? w = some ⟨.scripted, .sent (.answered reply)⟩) :
    ((Task.errand s.errand).turn w).2 = s.kept w w.script (.answered reply) :=
  run_carry_sent herrand rfl

/-- What an errand that is sent has brought is what its command has become. -/
theorem reply?_of_sent {route : Route} {transit : Transit} (herrand : s.errand? w = some ⟨route, .sent transit⟩) :
    s.reply? w = transit.reply? := by
  rw [reply?, herrand]

theorem reply?_congr {w' : World} (herrand : s.errand? w' = s.errand? w) : s.reply? w' = s.reply? w := by
  unfold reply?
  rw [herrand]

/-- **What a step of the survey's own does to the script**: it puts the command on record, once, or no other; and it
takes the next answer off the script when its time has come, once, or leaves the answers alone. -/
structure Effect (s : Survey) (x y : Moment) : Prop where
  sends : (y.sent = x.sent ∧ y.recorded = x.recorded) ∨ (x.recorded = 0 ∧ y.recorded = 1 ∧ y.sent = x.sent + 1)
  draws : (y.answers = x.answers ∧ y.drawn = x.drawn) ∨
    (x.drawn = none ∧ x.bench.now = s.release ∧ y.drawn = some (nextAnswer x.answers) ∧ y.answers = x.answers.tail)

/-- A step that leaves the script alone has no such effect. -/
theorem effect_of_script (hscript : y.bench.script = x.bench.script) (hrecorded : y.recorded = x.recorded)
    (hdrawn : y.drawn = x.drawn) : s.Effect x y where
  sends := .inl ⟨by rw [Moment.sent, hscript, Moment.sent], hrecorded⟩
  draws := .inl ⟨by rw [Moment.answers, hscript, Moment.answers], hdrawn⟩

/-- The answers that are the survey's own remain so. -/
theorem Unshared.step (h : s.Unshared x) (heffect : s.Effect x y) : s.Unshared y := by
  rcases heffect.draws with ⟨hanswers, hdrawn⟩ | ⟨hnone, -, hdrawn, -⟩
  · exact ⟨fun hnone => hanswers.trans (h.kept (hdrawn.symm.trans hnone)), fun a ha => h.drawn a (hdrawn.symm.trans ha)⟩
  · refine ⟨fun hnot => ?_, fun a ha => ?_⟩
    · rw [hdrawn] at hnot
      contradiction
    · obtain rfl := Option.some.inj (hdrawn.symm.trans ha)
      rw [h.kept hnone]

/-- Only what an errand has to do with matters. -/
theorem Journey.congr (hjourney : s.Journey x) (hnow : y.bench.now = x.bench.now)
    (herrand : s.errand? y.bench = s.errand? x.bench)
    (hdelay : ∀ route command, s.errand? x.bench = some ⟨route, .unsent command⟩ →
      y.bench.script.delays.get? .listAccessPoints = x.bench.script.delays.get? .listAccessPoints)
    (hdrawn : y.drawn = x.drawn) (hrecorded : y.recorded = x.recorded) : s.Journey y := by
  cases hjourney with
  | unsent he hn hd hw hr =>
      exact .unsent (herrand.trans he) (hnow.trans hn) ((hdelay _ _ he).trans hd) (hdrawn.trans hw) (hrecorded.trans hr)
  | held he hn hw hr => exact .held (herrand.trans he) (hnow.symm ▸ hn) (hdrawn.trans hw) (hrecorded.trans hr)
  | answered he hn hw hr => exact .answered (herrand.trans he) (hnow.symm ▸ hn) (hdrawn.trans hw) (hrecorded.trans hr)
  | settled he hn hw hr => exact .settled (herrand.trans he) (hnow.symm ▸ hn) (hdrawn.trans hw) (hrecorded.trans hr)

/-- What the errand has brought is known as long as the errand is there. -/
theorem Journey.reply (hjourney : s.Journey x) {reply : Except Error Response}
    (hreply : s.reply? x.bench = some reply) : x.drawn = some reply ∧ s.release ≤ x.bench.now := by
  unfold reply? at hreply
  cases hjourney with
  | unsent herrand _ _ _ _ =>
      rw [herrand] at hreply
      contradiction
  | held herrand _ _ _ =>
      rw [herrand] at hreply
      contradiction
  | answered herrand hnow hdrawn _ =>
      rw [herrand] at hreply
      exact ⟨hdrawn.trans hreply, hnow⟩
  | settled herrand _ _ _ =>
      rw [herrand] at hreply
      contradiction

/-- A step that leaves the script alone and brings no answer counts for nothing. -/
theorem Journey.onto_eq (hjourney : s.Journey x) (hscript : w.script = x.bench.script)
    (hreply : ∀ reply, s.reply? w = some reply → s.reply? x.bench = some reply) : s.onto x w = { x with bench := w } := by
  have hrecorded : x.recorded + (w.script.sent .listAccessPoints - x.sent) = x.recorded := by
    rw [hscript, Moment.sent, Nat.sub_self, Nat.add_zero]
  have hdrawn : x.drawn.or (s.reply? w) = x.drawn := by
    cases hcase : s.reply? w with
    | none => exact Option.or_none
    | some reply =>
        rw [(hjourney.reply (hreply reply hcase)).1]
        rfl
  rw [onto, hrecorded, hdrawn]

/-- An errand that has brought its answer has been put on record. -/
theorem Journey.recorded_of_drawn (hjourney : s.Journey x) {answer : Except Error Response}
    (hdrawn : x.drawn = some answer) : x.recorded = 1 := by
  cases hjourney with
  | unsent _ _ _ hnone _ =>
      rw [hnone] at hdrawn
      contradiction
  | held _ _ hnone _ =>
      rw [hnone] at hdrawn
      contradiction
  | answered _ _ _ hone => exact hone
  | settled _ _ _ hone => exact hone

/-- What the errand keeps counts as the survey's own. -/
theorem onto_kept (s : Survey) (hdrawn : x.drawn = none) (script : Script) (transit : Transit) :
    (s.onto x (s.kept x.bench script transit)).drawn = transit.reply? ∧
      (s.onto x (s.kept x.bench script transit)).recorded =
        x.recorded + (script.sent .listAccessPoints - x.sent) := by
  refine ⟨?_, rfl⟩
  rw [onto, hdrawn, Option.none_or]
  exact reply?_of_sent (s.errand?_kept x.bench script transit)

/-- **What a step of the errand comes to.** -/
structure Carried (s : Survey) (x : Moment) (w : World) : Prop where
  journey : s.Journey (s.onto x w)
  aside : s.Aside x.bench w
  errand : s.errand? x.bench ≠ none → s.errand? w ≠ none
  effect : s.Effect x (s.onto x w)

/-- An errand that does nothing stays where it is. -/
theorem Journey.carried_of_still (hjourney : s.Journey x) (hscript : w.script = x.bench.script)
    (haside : s.Aside x.bench w) (herrand : s.errand? w = s.errand? x.bench) : s.Carried x w := by
  have honto := hjourney.onto_eq hscript fun reply h => (reply?_congr herrand).symm.trans h
  exact
    { journey := honto ▸ hjourney.congr haside.now herrand (fun _ _ _ => by rw [hscript]) rfl rfl
      aside := haside
      errand := fun hne => herrand ▸ hne
      effect := honto ▸ effect_of_script hscript rfl rfl }

/-- **The beginning of the errand** sends its command, unless it is sent. -/
theorem Journey.enter (hjourney : s.Journey x) : s.Carried x ((Task.errand s.errand).enter x.bench).2 := by
  cases hjourney with
  | unsent herrand hnow hdelay hdrawn hnone =>
      rw [run_enter_unsent herrand]
      obtain ⟨hsent, hdelays, hheld | hanswered⟩ := receive_scan x.bench.script x.bench.now
      · obtain ⟨delay, hset, htransit, hkept⟩ := hheld
        have hrelease : x.bench.now + delay.ceilMillis = s.release := by
          rw [release, ← hdelay, hset, hnow, Option.map_some, Option.getD_some]
        rw [htransit, hrelease]
        obtain ⟨hnothing, hcount⟩ := s.onto_kept hdrawn (x.bench.script.receive .scan x.bench.now).2
          (.held .listAccessPoints s.release)
        rw [hnone, hsent, Moment.sent, Nat.add_sub_cancel_left] at hcount
        have herrand' := s.errand?_kept x.bench (x.bench.script.receive .scan x.bench.now).2
          (.held .listAccessPoints s.release)
        exact
          { journey := .held herrand' (hrelease ▸ Nat.le_add_right _ _) hnothing hcount
            aside := s.aside_kept hdelays _
            errand := fun _ => herrand'.symm ▸ nofun
            effect := ⟨.inr ⟨hnone, hcount, hsent⟩, .inl ⟨hkept, hnothing.trans hdrawn.symm⟩⟩ }
      · obtain ⟨hset, htransit, htaken⟩ := hanswered
        have hrelease : x.bench.now = s.release := by
          rw [release, ← hdelay, hset, hnow, Option.map_none, Option.getD_none, Nat.add_zero]
        rw [htransit]
        obtain ⟨hbrought, hcount⟩ := s.onto_kept hdrawn (x.bench.script.receive .scan x.bench.now).2
          (.answered (nextAnswer x.answers))
        rw [hnone, hsent, Moment.sent, Nat.add_sub_cancel_left] at hcount
        have herrand' := s.errand?_kept x.bench (x.bench.script.receive .scan x.bench.now).2
          (.answered (nextAnswer x.answers))
        exact
          { journey := .answered herrand' (Nat.le_of_eq hrelease.symm) hbrought hcount
            aside := s.aside_kept hdelays _
            errand := fun _ => herrand'.symm ▸ nofun
            effect := ⟨.inr ⟨hnone, hcount, hsent⟩, .inr ⟨hdrawn, hrelease, hbrought, htaken⟩⟩ }
  | held herrand hnow hdrawn hone =>
      rw [run_enter_sent herrand]
      exact carried_of_still (.held herrand hnow hdrawn hone) rfl (s.aside_refl _) rfl
  | answered herrand hnow hdrawn hone =>
      rw [run_enter_sent herrand]
      exact carried_of_still (.answered herrand hnow hdrawn hone) rfl (s.aside_refl _) rfl
  | settled herrand hnow hdrawn hone =>
      rw [run_enter_none herrand]
      exact carried_of_still (.settled herrand hnow hdrawn hone) rfl (s.aside_refl _) rfl

/-- **A turn of the errand** takes its answer off the script when the time has come. -/
theorem Journey.carry (hjourney : s.Journey x) : s.Carried x ((Task.errand s.errand).turn x.bench).2 := by
  cases hjourney with
  | unsent herrand hnow hdelay hdrawn hnone =>
      have hwaits : ((Task.errand s.errand).turn x.bench).2 = x.bench := by
        rw [run_carry, herrand]
        rfl
      rw [hwaits]
      exact carried_of_still (.unsent herrand hnow hdelay hdrawn hnone) rfl (s.aside_refl _) rfl
  | held herrand hnow hdrawn hone =>
      rcases Nat.lt_or_ge x.bench.now s.release with hearly | hdue
      · rw [run_carry_early herrand hearly]
        exact carried_of_still (.held herrand hnow hdrawn hone) rfl (s.aside_refl _) rfl
      · obtain ⟨hreply, htaken, hdelays, hcommands⟩ := x.bench.script.collect_spec .listAccessPoints
        rw [run_carry_due herrand hdue, hreply]
        have hsent : (x.bench.script.collect .listAccessPoints).2.sent .listAccessPoints = x.sent :=
          congrArg (List.countP _) hcommands
        obtain ⟨hbrought, hcount⟩ := s.onto_kept hdrawn (x.bench.script.collect .listAccessPoints).2
          (.answered (nextAnswer x.answers))
        rw [hsent, Nat.sub_self, Nat.add_zero] at hcount
        have herrand' := s.errand?_kept x.bench (x.bench.script.collect .listAccessPoints).2
          (.answered (nextAnswer x.answers))
        exact
          { journey := .answered herrand' hdue hbrought (hcount.trans hone)
            aside := s.aside_kept hdelays _
            errand := fun _ => herrand'.symm ▸ nofun
            effect := ⟨.inl ⟨hsent, hcount⟩, .inr ⟨hdrawn, Nat.le_antisymm hnow hdue, hbrought, htaken⟩⟩ }
  | answered herrand hnow hdrawn hone =>
      rw [run_carry_answered herrand]
      refine carried_of_still (.answered herrand hnow hdrawn hone) rfl (s.aside_kept rfl _) ?_
      exact (s.errand?_kept _ _ _).trans herrand.symm
  | settled herrand hnow hdrawn hone =>
      have hover : ((Task.errand s.errand).turn x.bench).2 = x.bench := by
        rw [run_carry, herrand]
        rfl
      rw [hover]
      exact carried_of_still (.settled herrand hnow hdrawn hone) rfl (s.aside_refl _) rfl

/-! ### The caller -/

/-- What the caller is told at a look, if it is told anything. -/
def told? (s : Survey) (w : World) : Option (Except Error (List AccessPoint)) :=
  if w.raised s.token then some (.error .cancelled)
  else if s.deadline.passed w.now then some (.error (.timeout s.timeout))
  else (s.reply? w).map scanResult

theorem told?_eq_none_iff :
    s.told? w = none ↔ w.raised s.token = false ∧ s.deadline.passed w.now = false ∧ s.reply? w = none := by
  unfold told?
  split
  · next hraised => simp [hraised]
  · next hraised =>
    split
    · next hpassed => simp [hpassed]
    · next hpassed => simp [hraised, hpassed]

/-- The caller looks at what its errand has brought. -/
theorem run_look (s : Survey) (w : World) : (Carrier.errand s.errand).look w = ((s.reply? w, .errand s.errand), w) := by
  have hrun : (Carrier.errand s.errand).look w = (match s.errand? w with
      | some ⟨_, .sent transit⟩ => pure (transit.reply?, .errand s.errand)
      | _ => pure (none, .errand s.errand) : Bench (Option (Except Error Response) × Carrier)) w := rfl
  rw [hrun, reply?]
  cases s.errand? w with
  | none => rfl
  | some e =>
      obtain ⟨route, stage⟩ := e
      cases stage with
      | unsent command => rfl
      | sent transit => rfl

/-- An errand is forgotten if it has its answer. -/
theorem run_settle (s : Survey) (w : World) :
    ((Carrier.errand s.errand).settle w).2 =
      if (s.reply? w).isSome then { w with errands := w.errands.erase s.errand } else w := by
  simp only [Carrier.settle, modify, modifyGet, MonadStateOf.modifyGet, StateT.modifyGet, pure]
  unfold reply? errand?
  cases w.errands.get? s.errand with
  | none => rfl
  | some e =>
      obtain ⟨route, stage⟩ := e
      cases stage with
      | unsent command => rfl
      | sent transit =>
          cases transit with
          | held function release => rfl
          | answered reply => rfl

/-- The bench when the caller has been told. -/
def ended (s : Survey) (w : World) (r : Radio) (lines : List Log.Line) : World :=
  ((Carrier.errand s.errand).settle (tell lines (put s.radio (.radio r) w).2).2).2

/-- The errand is forgotten if it has its answer; what else the caller does is no matter. -/
theorem ended_spec {r : Radio} (hradio : w.things.get? s.radio = some (.radio r)) (lines : List Log.Line) :
    s.Aside w (s.ended w r lines) ∧ (s.ended w r lines).script = w.script ∧
      s.errand? (s.ended w r lines) = if (s.reply? w).isSome then none else s.errand? w := by
  let w₁ := (tell lines (put s.radio (.radio r) w).2).2
  have hthings (n : Nat) : w₁.things.get? n = w.things.get? n := Table.get?_set_of_get? hradio n
  have hended : s.ended w r lines =
      if (s.reply? w).isSome then { w₁ with errands := w.errands.erase s.errand } else w₁ := run_settle s w₁
  rw [hended]
  split
  · refine ⟨⟨⟨hthings, fun n hne => ?_, rfl⟩, rfl, rfl⟩, rfl, ?_⟩
    · exact (Table.get?_erase ..).trans (if_neg hne.symm)
    · exact (Table.get?_erase ..).trans (if_pos rfl)
  · exact ⟨⟨⟨hthings, fun _ _ => rfl, rfl⟩, rfl, rfl⟩, rfl, rfl⟩

/-- **A turn of the caller.** The caller waits, or it is told and its errand, if answered, is forgotten. -/
theorem run_caller {r : Radio} (hradio : w.things.get? s.radio = some (.radio r)) :
    ∃ lines, s.caller.turn w =
      (s.told? w).elim (none, w) fun result => (some (.over (scanAnswer result)), s.ended w r lines) := by
  obtain ⟨lines, hturn⟩ := Call.turn_scanning r.adapter w.now (w.raised s.token) (s.reply? w) s.deadline
  have hthing : thing? s.radio w = (some (.radio r), w) := by
    rw [← hradio]
    rfl
  have hcall : s.caller.turn w = callTurn s.radio (.scan s.timeout) s.token (.scanning s.deadline) (.errand s.errand) w :=
    rfl
  refine ⟨lines, ?_⟩
  rw [hcall, callTurn, run_bind, run_look]
  dsimp only
  rw [run_bind, hthing]
  dsimp only
  have htold : (if w.raised s.token = true then some (.error .cancelled)
      else if s.deadline.passed w.now = true then some (.error (.timeout s.deadline.timeout))
      else (s.reply? w).map scanResult) = s.told? w := rfl
  rw [htold] at hturn
  have hget : (get : Bench World) w = (w, w) := rfl
  have hraised : isCancelled s.token w = (w.raised s.token, w) := rfl
  rw [run_bind, hget, run_bind, hraised]
  dsimp only
  rw [hturn]
  cases s.told? w with
  | none => rfl
  | some result =>
      rw [Option.elim_some, Option.elim_some, ← callAnswer_scan r.adapter s.timeout result]
      rfl

/-- **The end of the caller** leaves the errand as far as it is. -/
theorem Journey.ended {r : Radio} (hjourney : s.Journey x) (hradio : x.bench.things.get? s.radio = some (.radio r))
    (lines : List Log.Line) :
    s.onto x (s.ended x.bench r lines) = { x with bench := s.ended x.bench r lines } ∧
      s.Journey { x with bench := s.ended x.bench r lines } := by
  obtain ⟨haside, hscript, herrand⟩ := ended_spec hradio lines
  have hnow := haside.now
  cases hcase : s.reply? x.bench with
  | none =>
      rw [hcase] at herrand
      have hsame : s.errand? (s.ended x.bench r lines) = s.errand? x.bench := herrand
      refine ⟨hjourney.onto_eq hscript fun reply h => (reply?_congr hsame).symm.trans h, ?_⟩
      exact hjourney.congr hnow hsame (fun _ _ _ => by rw [hscript]) rfl rfl
  | some reply =>
      rw [hcase, Option.isSome_some, if_pos rfl] at herrand
      obtain ⟨hdrawn, hdue⟩ := hjourney.reply hcase
      refine ⟨hjourney.onto_eq hscript fun reply' h => ?_, .settled herrand (hnow.symm ▸ hdue) hdrawn ?_⟩
      · unfold reply? at h
        rw [herrand] at h
        contradiction
      · exact hjourney.recorded_of_drawn hdrawn

/-! ### One step -/

/-- The answer comes after the beginning. -/
theorem begun_le_release (s : Survey) : s.begun ≤ s.release := Nat.le_add_right _ _

/-- A deadline that has passed was due before. -/
theorem passed_iff {d : Deadline} {now : Nat} : d.passed now = true ↔ ∃ due, d.due = some due ∧ due ≤ now := by
  simp [Deadline.passed, Option.any_eq_true]

/-- **What the caller is told** is what has come first. -/
theorem Sound.told (hsound : s.Sound x) (hdistinct : s.deadline.due ≠ some s.release)
    (hrelease : x.bench.now ≤ s.release) (hdue : ∀ due, s.deadline.due = some due → x.bench.now ≤ due)
    (hraised : ∀ time, x.raised = some time → time = x.bench.now ∧ time ≠ s.release ∧ s.deadline.due ≠ some time)
    {result : Except Error (List AccessPoint)} (htold : s.told? x.bench = some result) : s.Verdict x result := by
  unfold told? at htold
  rw [hsound.raised] at htold
  split at htold
  · next hisRaised =>
    obtain ⟨time, htime⟩ := Option.isSome_iff_exists.mp hisRaised
    obtain ⟨rfl, hne, hne'⟩ := hraised time htime
    obtain rfl := Option.some.inj htold
    refine .cancelled htime (Nat.lt_of_le_of_ne hrelease hne) fun due heq => ?_
    exact Nat.lt_of_le_of_ne (hdue due heq) fun hsame => hne' (hsame ▸ heq)
  · next hnotRaised =>
    -- The token has not been raised, so that nothing is before it.
    have hnone {time : Nat} (htime : x.raised = some time) : False := hnotRaised (htime ▸ rfl)
    split at htold
    · next hpassed =>
      obtain ⟨due, heq, hle⟩ := passed_iff.mp hpassed
      obtain rfl := Option.some.inj htold
      refine .timedOut heq hle ?_ fun time htime => (hnone htime).elim
      exact Nat.lt_of_le_of_ne (Nat.le_trans hle hrelease) fun hsame => hdistinct (hsame ▸ heq)
    · next hnotPassed =>
      obtain ⟨reply, hreply, rfl⟩ := Option.map_eq_some_iff.mp htold
      obtain ⟨hdrawn, hcome⟩ := hsound.journey.reply hreply
      refine .answered hdrawn hcome (fun due heq => ?_) fun time htime => (hnone htime).elim
      rcases Nat.lt_or_ge x.bench.now due with hlt | hge
      · exact Nat.lt_of_le_of_lt hcome hlt
      · exact absurd (passed_iff.mpr ⟨due, heq, hge⟩) hnotPassed

/-- What the caller has been told stands, whatever comes later. -/
theorem Verdict.later {result : Except Error (List AccessPoint)} (hverdict : s.Verdict x result)
    (hnow : x.bench.now ≤ y.bench.now) (hdrawn : ∀ answer, x.drawn = some answer → y.drawn = some answer)
    (hraised : y.raised = x.raised ∨
      (y.raised = some x.bench.now ∧ x.raised = none ∧ x.bench.now ≠ s.release ∧ s.deadline.due ≠ some x.bench.now)) :
    s.Verdict y result := by
  cases hverdict with
  | cancelled htime hbefore hbefore' =>
      rcases hraised with hsame | ⟨-, hnone, -⟩
      · exact .cancelled (hsame.trans htime) hbefore hbefore'
      · rw [hnone] at htime
        contradiction
  | @timedOut due heq hcome hbefore hbefore' =>
      refine .timedOut heq (Nat.le_trans hcome hnow) hbefore fun time htime => ?_
      rcases hraised with hsame | ⟨hsome, -, -, hne⟩
      · exact hbefore' time (hsame.symm.trans htime)
      · obtain rfl := Option.some.inj (hsome.symm.trans htime)
        exact Nat.lt_of_le_of_ne hcome fun hsame => hne (hsame ▸ heq)
  | answered hcase hcome hbefore hbefore' =>
      refine .answered (hdrawn _ hcase) (Nat.le_trans hcome hnow) hbefore fun time htime => ?_
      rcases hraised with hsame | ⟨hsome, -, hne, -⟩
      · exact hbefore' time (hsame.symm.trans htime)
      · obtain rfl := Option.some.inj (hsome.symm.trans htime)
        exact Nat.lt_of_le_of_ne hcome hne.symm

theorem raised_congr {w' : World} (h : w'.cancelled = w.cancelled) (token : Option String) :
    w'.raised token = w.raised token := by
  rw [World.raised, World.raised, h]

/-- Where the caller is does not change while the clock stands still and others leave it alone. -/
theorem Called.still (hcalled : s.Called x) (hcaller : y.caller = x.caller) (hraised : y.raised = x.raised)
    (hnow : y.bench.now = x.bench.now)
    (hradio : x.caller.answer? = none → (∃ r, x.bench.things.get? s.radio = some (.radio r)) →
      ∃ r, y.bench.things.get? s.radio = some (.radio r))
    (herrand : s.errand? x.bench ≠ none → s.errand? y.bench ≠ none)
    (hdrawn : ∀ answer, x.drawn = some answer → y.drawn = some answer) : s.Called y := by
  cases hcalled with
  | waiting hwaits hr he hrelease hdue hearly =>
      refine .waiting (hcaller.trans hwaits) (hradio (hwaits ▸ rfl) hr) (herrand he) ?_ ?_ ?_
      · exact hnow ▸ hrelease
      · exact fun due heq => hnow ▸ hdue due heq
      · exact fun time htime => hnow ▸ hearly time (hraised.symm.trans htime)
  | told hover hverdict =>
      exact .told (hcaller.trans hover) (hverdict.later (Nat.le_of_eq hnow.symm) hdrawn (.inl hraised))

/-- What is drawn stays. -/
theorem drawn_onto (s : Survey) (x : Moment) (w : World) (answer : Except Error Response)
    (hdrawn : x.drawn = some answer) : (s.onto x w).drawn = some answer := by
  rw [onto, hdrawn]
  rfl

/-- What the errand does is as well for the caller. -/
theorem Sound.carried (hsound : s.Sound x) (hcarried : s.Carried x w) : s.Sound (s.onto x w) where
  begun := hcarried.aside.now ▸ hsound.begun
  raised := (raised_congr hcarried.aside.cancelled s.token).trans hsound.raised
  journey := hcarried.journey
  unshared hown := (hsound.unshared hown).step hcarried.effect
  called := hsound.called.still rfl rfl hcarried.aside.now (fun _ hr => (hcarried.aside.things _).symm ▸ hr) hcarried.errand
    (s.drawn_onto x w)

/-- **A turn of the caller** leaves the script alone. -/
theorem Sound.call (hsound : s.Sound x) (hdistinct : s.deadline.due ≠ some s.release) {next : Option Job}
    (hturn : x.caller.turn x.bench = (next, w)) :
    s.Sound { s.onto x w with caller := next.getD x.caller } ∧
      s.Effect x { s.onto x w with caller := next.getD x.caller } ∧ s.Apart x.bench w := by
  -- A turn in which the caller is told nothing changes nothing.
  have hidle (hcaller : next = none ∧ w = x.bench) :
      s.Sound { s.onto x w with caller := next.getD x.caller } ∧
        s.Effect x { s.onto x w with caller := next.getD x.caller } ∧ s.Apart x.bench w := by
    obtain ⟨rfl, rfl⟩ := hcaller
    rw [hsound.journey.onto_eq rfl fun _ h => h]
    exact ⟨hsound, effect_of_script rfl rfl rfl, s.apart_refl _⟩
  cases hsound.called with
  | told hcaller hverdict =>
      rw [hcaller] at hturn
      exact hidle ⟨(congrArg Prod.fst hturn).symm, (congrArg Prod.snd hturn).symm⟩
  | waiting hcaller hr he hrelease hdue hraised =>
      obtain ⟨r, hradio⟩ := hr
      obtain ⟨lines, hrun⟩ := run_caller hradio
      rw [hcaller, hrun] at hturn
      cases htold : s.told? x.bench with
      | none =>
          rw [htold] at hturn
          exact hidle ⟨(congrArg Prod.fst hturn).symm, (congrArg Prod.snd hturn).symm⟩
      | some result =>
          rw [htold] at hturn
          obtain ⟨rfl, rfl⟩ := Prod.mk.inj hturn
          obtain ⟨haside, hscript, -⟩ := ended_spec hradio lines
          obtain ⟨honto, hjourney⟩ := hsound.journey.ended hradio lines
          rw [honto]
          have hverdict := hsound.told hdistinct hrelease hdue hraised htold
          refine ⟨?_, effect_of_script hscript rfl rfl, haside.toApart⟩
          exact
            { begun := haside.now.symm ▸ hsound.begun
              raised := (raised_congr haside.cancelled s.token).trans hsound.raised
              journey := hjourney.congr rfl rfl (fun _ _ _ => rfl) rfl rfl
              unshared := fun hown => (hsound.unshared hown).step (effect_of_script hscript rfl rfl)
              called := .told rfl (hverdict.later (Nat.le_of_eq haside.now.symm) (fun _ h => h) (.inl rfl)) }

/-- **The token is raised.** -/
theorem Sound.cancel (hsound : s.Sound x) {token : String} (htoken : s.token = some token)
    (hapart : x.bench.now ≠ s.release) (hapart' : s.deadline.due ≠ some x.bench.now) :
    s.Sound { x with bench := ((Cue.cancel token).play x.bench).2, raised := x.raised <|> some x.bench.now } where
  begun := hsound.begun
  raised := by
    have hraised : World.raised ((Cue.cancel token).play x.bench).2 s.token = true := by
      rw [htoken]
      exact decide_eq_true List.mem_cons_self
    rw [hraised]
    cases x.raised with
    | none => rfl
    | some _ => rfl
  journey := hsound.journey.congr rfl rfl (fun _ _ _ => rfl) rfl rfl
  unshared hown := (hsound.unshared hown).step (effect_of_script rfl rfl rfl)
  called := by
    cases hsound.called with
    | waiting hcaller hr he hrelease hdue hraised =>
        refine .waiting hcaller hr he hrelease hdue fun time htime => ?_
        cases hbefore : x.raised with
        | none =>
            rw [hbefore] at htime
            obtain rfl := Option.some.inj htime
            exact ⟨rfl, hapart, hapart'⟩
        | some earlier =>
            rw [hbefore] at htime
            exact hraised time (hbefore.trans htime)
    | told hcaller hverdict =>
        refine .told hcaller (hverdict.later (Nat.le_refl _) (fun _ h => h) ?_)
        cases hbefore : x.raised with
        | none => exact .inr ⟨rfl, rfl, hapart, hapart'⟩
        | some earlier => exact .inl rfl

/-- A caller that waits has not been told anything. -/
theorem told?_of_stands (hstands : s.Stands x) (hcaller : x.caller = s.caller)
    (hradio : ∃ r, x.bench.things.get? s.radio = some (.radio r)) : s.told? x.bench = none := by
  obtain ⟨r, hr⟩ := hradio
  obtain ⟨lines, hrun⟩ := run_caller hr
  have hwaits := hstands.caller
  rw [hcaller, hrun] at hwaits
  cases htold : s.told? x.bench with
  | none => rfl
  | some result =>
      rw [htold] at hwaits
      contradiction

/-- An errand that is held waits for the time of its answer. -/
theorem release_mem_wakes (herrand : s.errand? x.bench = some ⟨.scripted, .sent (.held .listAccessPoints s.release)⟩) :
    s.release ∈ s.wakes x := by
  refine List.mem_append_right _ ?_
  rw [herrand]
  exact List.mem_singleton_self _

/-- **An errand that stands still** is held, or it has come to its end. -/
theorem Journey.standing (hjourney : s.Journey x) (hstands : s.Stands x) :
    (s.release ∈ s.wakes x ∧ x.bench.now < s.release) ∨
      ∃ answer, x.drawn = some answer ∧ (s.errand? x.bench ≠ none → s.reply? x.bench = some answer) := by
  cases hjourney with
  | unsent herrand _ _ _ _ => exact absurd herrand (hstands.sent _ _)
  | held herrand _ _ _ => exact .inl ⟨release_mem_wakes herrand, hstands.held _ _ _ herrand⟩
  | answered herrand _ hdrawn _ => exact .inr ⟨_, hdrawn, fun _ => reply?_of_sent herrand⟩
  | settled herrand _ hdrawn _ => exact .inr ⟨_, hdrawn, fun hne => absurd herrand hne⟩

/-- **The clock goes on.** -/
theorem Sound.pass (hsound : s.Sound x) {time : Nat} (hlater : x.bench.now < time) (hstands : s.Stands x)
    (hwithin : ∀ wake ∈ s.wakes x, x.bench.now < wake → time ≤ wake) :
    s.Sound { x with bench := (advanceTo time x.bench).2 } where
  begun := Nat.le_trans hsound.begun (Nat.le_of_lt hlater)
  raised := hsound.raised
  journey := by
    have hpast {t : Nat} (ht : t ≤ x.bench.now) : t ≤ time := Nat.le_trans ht (Nat.le_of_lt hlater)
    cases hsound.journey with
    | unsent herrand _ _ _ _ => exact absurd herrand (hstands.sent _ _)
    | held herrand _ hdrawn hone =>
        exact .held herrand (hwithin _ (release_mem_wakes herrand) (hstands.held _ _ _ herrand)) hdrawn hone
    | answered herrand hnow hdrawn hone => exact .answered herrand (hpast hnow) hdrawn hone
    | settled herrand hnow hdrawn hone => exact .settled herrand (hpast hnow) hdrawn hone
  unshared hown := (hsound.unshared hown).step (effect_of_script rfl rfl rfl)
  called := by
    cases hsound.called with
    | told hcaller hverdict =>
        exact .told hcaller (hverdict.later (Nat.le_of_lt hlater) (fun _ h => h) (.inl rfl))
    | waiting hcaller hr he _ _ _ =>
        obtain ⟨hnotRaised, hnotPassed, hnoReply⟩ := told?_eq_none_iff.mp (told?_of_stands hstands hcaller hr)
        refine .waiting hcaller hr he ?_ (fun due heq => ?_) fun time' htime' => ?_
        · -- The errand has not got its answer, or the caller would be told.
          rcases hsound.journey.standing hstands with ⟨hwake, hearly⟩ | ⟨_, -, hreply⟩
          · exact hwithin _ hwake hearly
          · cases (hreply he).symm.trans hnoReply
        · refine hwithin due (List.mem_append_left _ ?_) (Nat.lt_of_not_le fun hle => ?_)
          · rw [hcaller]
            have hmem : due ∈ s.deadline.due.toList := Option.mem_toList.mpr heq
            exact List.mem_append_left _ hmem
          · exact Bool.false_ne_true (hnotPassed.symm.trans (passed_iff.mpr ⟨due, heq, hle⟩))
        · rw [hsound.raised, htime'] at hnotRaised
          contradiction

/-- **What the caller, the errand and the clock do** keeps this. They change nothing of the script but for the command
and its answer, and leave everything else alone. -/
theorem Sound.own (hsound : s.Sound x) (hdistinct : s.deadline.due ≠ some s.release) (hown : s.Own x y) :
    s.Sound y ∧ s.Effect x y ∧ s.Apart x.bench y.bench := by
  cases hown with
  | call turn => exact hsound.call hdistinct turn
  | enter =>
      have hcarried := hsound.journey.enter
      exact ⟨hsound.carried hcarried, hcarried.effect, hcarried.aside.toApart⟩
  | carry =>
      have hcarried := hsound.journey.carry
      exact ⟨hsound.carried hcarried, hcarried.effect, hcarried.aside.toApart⟩
  | cancel token_eq apart apart' =>
      exact ⟨hsound.cancel token_eq apart apart', effect_of_script rfl rfl rfl, fun _ => rfl, fun _ _ => rfl, rfl⟩
  | pass later stands within =>
      exact ⟨hsound.pass later stands within, effect_of_script rfl rfl rfl, fun _ => rfl, fun _ _ => rfl, rfl⟩

/-- **A survey spares others.** What it does while the clock stands still, and without raising the token of another one,
is what others may do to that one. -/
theorem Sound.spares {t : Survey} {z z' : Moment} (hsound : t.Sound z) (hdistinct : t.deadline.due ≠ some t.release)
    (hown : t.Own z z') (hother : s.errand ≠ t.errand) (hbench : z.bench = x.bench)
    (hnow : z'.bench.now = z.bench.now) (hraised : z'.bench.raised s.token = z.bench.raised s.token) :
    s.Spares x z'.bench := by
  obtain ⟨-, -, hapart⟩ := hsound.own hdistinct hown
  rw [hbench] at hapart hnow hraised
  exact
    { now := hnow
      errand := hapart.errands s.errand hother
      raised := hraised
      delay := fun _ _ _ => by rw [hapart.delays]
      radio := fun _ hr => (hapart.things s.radio).symm ▸ hr }

/-- **What others do** keeps it as well. -/
theorem Sound.others (hsound : s.Sound x) (hspares : s.Spares x w) {changed : Bool}
    (hkept : changed = false → w.script.answers .listAccessPoints = x.answers) :
    s.Sound { x with bench := w, shared := x.shared || (x.drawn.isNone && changed) } where
  begun := hspares.now.symm ▸ hsound.begun
  raised := hspares.raised.trans hsound.raised
  journey := hsound.journey.congr hspares.now hspares.errand hspares.delay rfl rfl
  unshared hown := by
    obtain ⟨hbefore, hmeanwhile⟩ := Bool.or_eq_false_iff.mp hown
    have hunshared := hsound.unshared hbefore
    refine ⟨fun hnone => ?_, hunshared.drawn⟩
    have hnone' : x.drawn = none := hnone
    rw [hnone'] at hmeanwhile
    exact (hkept hmeanwhile).trans (hunshared.kept hnone')
  called := hsound.called.still rfl rfl hspares.now hspares.radio (fun hne => hspares.errand.symm ▸ hne) fun _ h => h

/-- **One step**, of the survey or of others. -/
theorem Sound.next (hsound : s.Sound x) (hdistinct : s.deadline.due ≠ some s.release) (hnext : s.Next x y) :
    s.Sound y := by
  cases hnext with
  | own hown => exact (hsound.own hdistinct hown).1
  | others hspares changed hkept => exact hsound.others hspares hkept

/-- **Any number of steps.** -/
theorem Sound.reached (hsound : s.Sound x) (hdistinct : s.deadline.due ≠ some s.release) (hreached : s.Reached x y) :
    s.Sound y := by
  induction hreached with
  | refl => exact hsound
  | tail _ hnext ih => exact ih.next hdistinct hnext

end Survey

end Bench

end Peripherals
