import Peripherals.Proofs.Call.Survey

/-!
# `Proofs.Call.Abandoned` — a scan that is given up still takes an answer

A scan of which nobody waits for the answer any more has its command on the way all the same. Whatever the caller is
told, one command is put on record, and one answer is taken off the script when its time has come. That is the answer
next on the script then. It is the one that was next when the scan began, unless others have changed the answers: a
later scan may take it if its own answer is held back for a shorter time (`Survey.not_leavesNext_swift`).

* `Survey.sound_start` — the beginning of a scan;
* `Survey.Done`, `Survey.Sound.done` — a survey can always come to its end;
* `Survey.Fulfilled`, `Survey.fulfilled_of_reached` — every survey, at any time.
-/

namespace Peripherals.Bench

open Coprocessor

namespace Survey

variable {s : Survey} {w : World} {x y : Moment}

/-! ## The beginning -/

/-- A scan as it begins on a bench. -/
def start (n : Nat) (r : Radio) (timeout : Duration) (token : Option String) (w : World) : Moment :=
  ⟨(beginCall n r (.scan timeout) token w).2, (beginCall n r (.scan timeout) token w).1, none, 0, none, false⟩

/-- A scan begins with a caller that waits and an errand that is not sent, if the clock can tell the deadline. -/
theorem start_eq {n : Nat} {r : Radio} {token : Option String} {timeout : Duration} (hroute : r.route = .scripted)
    (hraised : w.raised token = false) (hfits : (w.survey n timeout token).deadline.fits w.horizon = true) :
    ∃ tasks hardware, start n r timeout token w =
      ⟨{ w with
          things := w.things.set n (.radio r)
          fresh := w.fresh + 1
          errands := w.errands.set w.fresh ⟨.scripted, .unsent .scan⟩
          tasks
          hardware }, (w.survey n timeout token).caller, none, 0, none, false⟩ := by
  have hstart : Call.start r.adapter w.now (w.raised token) (.scan timeout) =
      .ok ⟨r.adapter, .scanning (.start timeout w.now), .scan, []⟩ := by
    rw [hraised]
    rfl
  have htold : (Call.scanning (.start timeout w.now)).deadline?.all (·.fits w.horizon) = true := hfits
  rw [start, beginCall_of_started hstart, if_pos htold, hroute]
  exact ⟨_, _, rfl⟩

/-- The deadline comes after the beginning. -/
theorem begun_le_due {due : Nat} (h : s.deadline.due = some due) : s.begun ≤ due := by
  simp only [deadline, Deadline.start] at h
  split at h
  · contradiction
  · rw [← Option.some.inj h]
    exact Nat.le_add_right _ _

/-- **The beginning.** -/
theorem sound_start {n : Nat} {r : Radio} {token : Option String} {timeout : Duration} (hroute : r.route = .scripted)
    (hraised : w.raised token = false) (hfits : (w.survey n timeout token).deadline.fits w.horizon = true) :
    (w.survey n timeout token).Sound (start n r timeout token w) := by
  obtain ⟨tasks, hardware, hstart⟩ := start_eq hroute hraised hfits
  rw [hstart]
  have herrand : (w.survey n timeout token).errand? { w with
      things := w.things.set n (.radio r)
      fresh := w.fresh + 1
      errands := w.errands.set w.fresh ⟨.scripted, .unsent .scan⟩
      tasks
      hardware } = some ⟨.scripted, .unsent .scan⟩ := Table.get?_set_self _ _ _
  exact
    { begun := Nat.le_refl _
      raised := hraised
      journey := .unsent herrand rfl rfl rfl rfl
      unshared := fun _ => ⟨fun _ => rfl, nofun⟩
      called := .waiting rfl ⟨r, Table.get?_set_self _ _ _⟩ (herrand ▸ nofun)
        (begun_le_release (w.survey n timeout token)) (fun _ heq => begun_le_due heq) nofun }

/-! ## The end -/

/-- **A survey that is done**: the caller has been told, and an answer has been taken. -/
structure Done (s : Survey) (x : Moment) : Prop where
  told : x.caller.answer? ≠ none
  taken : ∃ answer, x.drawn = some answer

/-- A survey whose errand is held. -/
def Held (s : Survey) (x : Moment) : Prop :=
  s.errand? x.bench = some ⟨.scripted, .sent (.held .listAccessPoints s.release)⟩

/-- A step of the survey's own, and what comes after it. -/
theorem after_own (hown : s.Own x y) (hdone : ∃ z, s.Reached y z ∧ s.Done z) : ∃ z, s.Reached x z ∧ s.Done z := by
  obtain ⟨z, hreached, hz⟩ := hdone
  exact ⟨z, .head (.own hown) hreached, hz⟩

/-- **The caller takes its turn** and is told what there is to tell. -/
theorem exists_call {result : Except Error (List AccessPoint)} (hcaller : x.caller = s.caller)
    (hradio : ∃ r, x.bench.things.get? s.radio = some (.radio r)) (htold : s.told? x.bench = some result) :
    ∃ y, s.Own x y ∧ y.caller.answer? ≠ none ∧
      s.errand? y.bench = if (s.reply? x.bench).isSome then none else s.errand? x.bench := by
  obtain ⟨r, hr⟩ := hradio
  obtain ⟨lines, hrun⟩ := run_caller hr
  rw [htold, ← hcaller] at hrun
  exact ⟨_, .call hrun, nofun, (ended_spec hr lines).2.2⟩

/-- What has been drawn stays drawn. -/
theorem Effect.drawn_of_drawn (h : s.Effect x y) {answer : Except Error Response} (hdrawn : x.drawn = some answer) :
    y.drawn = some answer := by
  rcases h.draws with ⟨-, hsame⟩ | ⟨hnone, -⟩
  · exact hsame.trans hdrawn
  · cases hnone.symm.trans hdrawn

/-- Once the errand has its answer, the caller is told at its next turn. -/
theorem Sound.done_of_taken (hsound : s.Sound x) (hdistinct : s.deadline.due ≠ some s.release)
    {answer : Except Error Response} (hdrawn : x.drawn = some answer)
    (hreply : s.errand? x.bench ≠ none → s.reply? x.bench = some answer) : ∃ z, s.Reached x z ∧ s.Done z := by
  cases hsound.called with
  | told hcaller _ => exact ⟨x, .refl, hcaller ▸ nofun, answer, hdrawn⟩
  | waiting hcaller hr he _ _ _ =>
      cases htold : s.told? x.bench with
      | none => cases (hreply he).symm.trans (told?_eq_none_iff.mp htold).2.2
      | some result =>
          obtain ⟨y, hown, hover, -⟩ := exists_call hcaller hr htold
          have heffect := (hsound.own hdistinct hown).2.1
          exact after_own hown ⟨y, .refl, hover, answer, heffect.drawn_of_drawn hdrawn⟩

/-- When the time of the answer has come, the errand takes it. -/
theorem Sound.done_of_due (hsound : s.Sound x) (hdistinct : s.deadline.due ≠ some s.release) (hheld : s.Held x)
    (hdue : s.release ≤ x.bench.now) : ∃ z, s.Reached x z ∧ s.Done z := by
  refine after_own .carry ?_
  have hsound' := (hsound.own hdistinct .carry).1
  have herrand : ∃ reply, s.errand? ((Task.errand s.errand).turn x.bench).2 =
      some ⟨.scripted, .sent (.answered reply)⟩ := by
    rw [run_carry_due hheld hdue]
    exact ⟨_, s.errand?_kept _ _ _⟩
  obtain ⟨reply, herrand⟩ := herrand
  have hreply := reply?_of_sent herrand
  exact hsound'.done_of_taken hdistinct (hsound'.journey.reply hreply).1 fun _ => hreply

/-- A survey whose errand is held stands still if its caller does, as long as the time has not come. -/
theorem stands_of_held (hheld : s.Held x) (hearly : x.bench.now < s.release)
    (hcaller : (x.caller.turn x.bench).1 = none) : s.Stands x where
  caller := hcaller
  sent := fun _ _ heq => by cases hheld.symm.trans heq
  held := fun _ _ _ heq => by
    cases hheld.symm.trans heq
    exact hearly

/-- Once the caller has been told, the clock goes on to the time of the answer. -/
theorem Sound.done_of_told (hsound : s.Sound x) (hdistinct : s.deadline.due ≠ some s.release) (hheld : s.Held x)
    (htold : x.caller.answer? ≠ none) : ∃ z, s.Reached x z ∧ s.Done z := by
  rcases Nat.lt_or_ge x.bench.now s.release with hearly | hdue
  case inr => exact hsound.done_of_due hdistinct hheld hdue
  case inl =>
    cases hsound.called with
    | waiting hcaller _ _ _ _ _ => exact absurd (hcaller ▸ rfl) htold
    | told hcaller _ =>
        have hstands : s.Stands x := stands_of_held hheld hearly (by rw [hcaller]; rfl)
        have hwithin : ∀ wake ∈ s.wakes x, x.bench.now < wake → s.release ≤ wake := by
          intro wake hwake _
          rw [wakes, hcaller, hheld] at hwake
          exact Nat.le_of_eq (List.mem_singleton.mp hwake).symm
        have hpass : s.Own x _ := .pass hearly hstands hwithin
        exact after_own hpass ((hsound.own hdistinct hpass).1.done_of_due hdistinct hheld (Nat.le_refl _))

/-- A caller that waits is told first, if there is anything to tell. -/
theorem Sound.done_of_told? (hsound : s.Sound x) (hdistinct : s.deadline.due ≠ some s.release) (hheld : s.Held x)
    {result : Except Error (List AccessPoint)} (hcaller : x.caller = s.caller)
    (hradio : ∃ r, x.bench.things.get? s.radio = some (.radio r)) (htold : s.told? x.bench = some result) :
    ∃ z, s.Reached x z ∧ s.Done z := by
  obtain ⟨y, hown, hover, herrand⟩ := exists_call hcaller hradio htold
  have hreply : s.reply? x.bench = none := reply?_of_sent hheld
  rw [hreply] at herrand
  exact after_own hown ((hsound.own hdistinct hown).1.done_of_told hdistinct (herrand.trans hheld) hover)

/-- While the errand is held, the clock goes on to the deadline or to the time of the answer, whichever is first. -/
theorem exists_pass (hheld : s.Held x) (hearly : x.bench.now < s.release) (hcaller : x.caller = s.caller)
    (hradio : ∃ r, x.bench.things.get? s.radio = some (.radio r)) (htold : s.told? x.bench = none) :
    ∃ time, s.Own x { x with bench := (advanceTo time x.bench).2 } ∧
      (s.release ≤ time ∨ s.deadline.passed time = true) := by
  obtain ⟨r, hr⟩ := hradio
  obtain ⟨lines, hrun⟩ := run_caller hr
  rw [htold, ← hcaller] at hrun
  have hstands : s.Stands x := stands_of_held hheld hearly (congrArg Prod.fst hrun)
  have hwakes : s.wakes x = s.deadline.due.toList ++ [] ++ [s.release] := by
    rw [wakes, hcaller, hheld]
    rfl
  have hnotPassed := (told?_eq_none_iff.mp htold).2.1
  cases hdue : s.deadline.due with
  | none =>
      refine ⟨s.release, .pass hearly hstands fun wake hwake _ => ?_, .inl (Nat.le_refl _)⟩
      rw [hwakes, hdue] at hwake
      exact Nat.le_of_eq (List.mem_singleton.mp hwake).symm
  | some due =>
      have hmem {wake : Nat} (hwake : wake ∈ s.wakes x) : wake = due ∨ wake = s.release := by
        rw [hwakes, hdue] at hwake
        simpa using hwake
      -- The clock does not pass over the first of the two times.
      rcases Nat.lt_or_ge due s.release with hfirst | hlast
      · refine ⟨due, .pass (Nat.lt_of_not_le fun hle => ?_) hstands fun wake hwake _ => ?_,
          .inr (passed_iff.mpr ⟨due, hdue, Nat.le_refl _⟩)⟩
        · exact Bool.false_ne_true (hnotPassed.symm.trans (passed_iff.mpr ⟨due, hdue, hle⟩))
        · rcases hmem hwake with rfl | rfl
          · exact Nat.le_refl _
          · exact Nat.le_of_lt hfirst
      · refine ⟨s.release, .pass hearly hstands fun wake hwake _ => ?_, .inl (Nat.le_refl _)⟩
        rcases hmem hwake with rfl | rfl
        · exact hlast
        · exact Nat.le_refl _

/-- A survey whose errand is held can come to its end. -/
theorem Sound.done_of_held (hsound : s.Sound x) (hdistinct : s.deadline.due ≠ some s.release) (hheld : s.Held x) :
    ∃ z, s.Reached x z ∧ s.Done z := by
  rcases Nat.lt_or_ge x.bench.now s.release with hearly | hdue
  case inr => exact hsound.done_of_due hdistinct hheld hdue
  case inl =>
    cases hsound.called with
    | told hcaller _ => exact hsound.done_of_told hdistinct hheld (hcaller ▸ nofun)
    | waiting hcaller hr _ _ _ _ =>
        cases htold : s.told? x.bench with
        | some result => exact hsound.done_of_told? hdistinct hheld hcaller hr htold
        | none =>
            obtain ⟨time, hpass, hfirst⟩ := exists_pass hheld hearly hcaller hr htold
            have hsound' := (hsound.own hdistinct hpass).1
            refine after_own hpass ?_
            rcases hfirst with hrelease | hpassed
            · exact hsound'.done_of_due hdistinct hheld hrelease
            · cases htold' : s.told? (advanceTo time x.bench).2 with
              | some result => exact hsound'.done_of_told? hdistinct hheld hcaller hr htold'
              | none => cases hpassed.symm.trans (told?_eq_none_iff.mp htold').2.1

/-- **A survey can always come to its end**, wherever its errand is. -/
theorem Sound.done (hsound : s.Sound x) (hdistinct : s.deadline.due ≠ some s.release) :
    ∃ z, s.Reached x z ∧ s.Done z := by
  cases hsound.journey with
  | held herrand _ _ _ => exact hsound.done_of_held hdistinct herrand
  | answered herrand _ hdrawn _ => exact hsound.done_of_taken hdistinct hdrawn fun _ => reply?_of_sent herrand
  | settled herrand _ hdrawn _ => exact hsound.done_of_taken hdistinct hdrawn fun hne => absurd herrand hne
  | unsent herrand _ _ _ _ =>
      have hsound' := (hsound.own hdistinct .enter).1
      refine after_own .enter ?_
      have hsent : ∃ transit, s.errand? ((Task.errand s.errand).enter x.bench).2 =
          some ⟨.scripted, .sent transit⟩ := by
        rw [run_enter_unsent herrand]
        exact ⟨_, s.errand?_kept _ _ _⟩
      obtain ⟨transit, hsent⟩ := hsent
      -- Its command has been held, or answered at once.
      cases hsound'.journey with
      | unsent he _ _ _ _ => cases he.symm.trans hsent
      | settled he _ _ _ => cases he.symm.trans hsent
      | held he _ _ _ => exact hsound'.done_of_held hdistinct he
      | answered he _ hdrawn _ => exact hsound'.done_of_taken hdistinct hdrawn fun _ => reply?_of_sent he

/-! ## Every survey -/

/-- **A survey as it should be**, at a time. -/
structure Fulfilled (s : Survey) (x : Moment) : Prop where
  /-- The caller waits no longer than until the first of the three times, -/
  waits : x.caller.answer? = none → x.bench.now ≤ s.release ∧ (∀ due, s.deadline.due = some due → x.bench.now ≤ due) ∧
    ∀ time, x.raised = some time → x.bench.now ≤ time
  /-- and is told what has come first. -/
  told : ∀ answer, x.caller.answer? = some answer → ∃ result, answer = scanAnswer result ∧ s.Verdict x result
  /-- Of its own it puts one scan on record before any time passes, -/
  recorded : s.Stands x ∨ s.begun < x.bench.now → x.recorded = 1
  /-- and never more. -/
  once : x.recorded ≤ 1
  /-- Its errand has brought no answer until the time of the answer, -/
  kept : x.bench.now < s.release → x.drawn = none
  /-- and has brought one from then on, whatever has become of the caller. -/
  taken : s.release < x.bench.now → ∃ answer, x.drawn = some answer
  /-- The answer is the one that was next at the beginning, unless others have changed the answers before. -/
  unshared : x.shared = false → s.Unshared x
  /-- Each command that it sends is put on record, and the answer is the one next on the script when it is taken off. -/
  effect : ∀ y, s.Own x y → s.Effect x y
  /-- The survey can come to its end, -/
  done : ∃ y, s.Reached x y ∧ s.Done y
  /-- and has come there when nothing can go on any more, not even the clock. -/
  ends : s.Stands x → (∀ wake ∈ s.wakes x, wake ≤ x.bench.now) → s.Done x
  /-- It changes no thing on the bench: not the adapter, nor its session, settings and notices. It leaves the errands of
  others alone as well. -/
  apart : ∀ y, s.Own x y → s.Apart x.bench y.bench

/-- A survey in which nothing can go on any more, not even the clock, is done. -/
theorem Sound.ends (hsound : s.Sound x) (hstands : s.Stands x) (hnever : ∀ wake ∈ s.wakes x, wake ≤ x.bench.now) :
    s.Done x := by
  rcases hsound.journey.standing hstands with ⟨hwake, hearly⟩ | ⟨answer, hdrawn, hreply⟩
  · exact absurd (hnever _ hwake) (Nat.not_le.mpr hearly)
  · refine ⟨?_, answer, hdrawn⟩
    cases hsound.called with
    | told hcaller _ =>
        rw [hcaller]
        exact Option.some_ne_none _
    | waiting hcaller hr he _ _ _ =>
        -- The errand has its answer, so that the caller would be told.
        have hnothing := told?_eq_none_iff.mp (told?_of_stands hstands hcaller hr)
        cases (hreply he).symm.trans hnothing.2.2

/-- One scan is put on record before the errand stands still or any time passes. -/
theorem Sound.recorded (hsound : s.Sound x) (hlate : s.Stands x ∨ s.begun < x.bench.now) : x.recorded = 1 := by
  cases hsound.journey with
  | held _ _ _ hone => exact hone
  | answered _ _ _ hone => exact hone
  | settled _ _ _ hone => exact hone
  | unsent herrand hnow _ _ _ =>
      rcases hlate with hstands | hlate
      · exact absurd herrand (hstands.sent _ _)
      · exact absurd hnow (Nat.ne_of_gt hlate)

theorem Journey.once (hjourney : s.Journey x) : x.recorded ≤ 1 := by
  cases hjourney with
  | unsent _ _ _ _ hnone => exact hnone ▸ Nat.zero_le 1
  | held _ _ _ hone => exact Nat.le_of_eq hone
  | answered _ _ _ hone => exact Nat.le_of_eq hone
  | settled _ _ _ hone => exact Nat.le_of_eq hone

/-- No answer is brought before its time, and one is brought by then. -/
theorem Journey.drawn (hjourney : s.Journey x) :
    (x.bench.now < s.release → x.drawn = none) ∧ (s.release < x.bench.now → ∃ answer, x.drawn = some answer) := by
  cases hjourney with
  | unsent _ hnow _ hdrawn _ =>
      exact ⟨fun _ => hdrawn, fun hlate => absurd hlate (Nat.not_lt.mpr (hnow ▸ begun_le_release s))⟩
  | held _ hnow hdrawn _ => exact ⟨fun _ => hdrawn, fun hlate => absurd hlate (Nat.not_lt.mpr hnow)⟩
  | answered _ hnow hdrawn _ => exact ⟨fun hearly => absurd hearly (Nat.not_lt.mpr hnow), fun _ => ⟨_, hdrawn⟩⟩
  | settled _ hnow hdrawn _ => exact ⟨fun hearly => absurd hearly (Nat.not_lt.mpr hnow), fun _ => ⟨_, hdrawn⟩⟩

/-- A survey is as it should be whenever it is sound. -/
theorem Sound.fulfilled (hsound : s.Sound x) (hdistinct : s.deadline.due ≠ some s.release) : s.Fulfilled x where
  waits hwaiting := by
    cases hsound.called with
    | waiting _ _ _ hrelease hdue hraised =>
        exact ⟨hrelease, hdue, fun time htime => Nat.le_of_eq (hraised time htime).1.symm⟩
    | told hcaller _ =>
        rw [hcaller] at hwaiting
        contradiction
  told answer hover := by
    cases hsound.called with
    | waiting hcaller _ _ _ _ _ =>
        rw [hcaller] at hover
        contradiction
    | told hcaller hverdict =>
        rw [hcaller] at hover
        exact ⟨_, (Option.some.inj hover).symm, hverdict⟩
  recorded := hsound.recorded
  once := hsound.journey.once
  kept := hsound.journey.drawn.1
  taken := hsound.journey.drawn.2
  unshared := hsound.unshared
  effect _ hown := (hsound.own hdistinct hown).2.1
  done := hsound.done hdistinct
  ends := hsound.ends
  apart _ hown := (hsound.own hdistinct hown).2.2

/-- The beginning changes no thing on the bench. -/
theorem things_start {n : Nat} {r : Radio} {token : Option String} {timeout : Duration}
    (hradio : w.things.get? n = some (.radio r)) (hroute : r.route = .scripted) (hraised : w.raised token = false)
    (hfits : (w.survey n timeout token).deadline.fits w.horizon = true) (k : Nat) :
    (start n r timeout token w).bench.things.get? k = w.things.get? k := by
  obtain ⟨tasks, hardware, hstart⟩ := start_eq (n := n) hroute hraised hfits
  rw [hstart]
  exact Table.get?_set_of_get? hradio k

/-- **An abandoned scan still takes an answer.** Whatever the bench, the radio on its scripted coprocessor, the token and
the timeout, if the clock can tell the deadline, whatever others do meanwhile, other scans included, and in whatever
order things happen: the caller is told the answer, that time has run out, or that it has cancelled, by what comes first.
In any case the survey puts one command on record, and takes one answer off the script when its time has come, the one
that is next there then; and nothing on the bench changes by it. A scan whose token has been raised before does not
begin. -/
theorem fulfilled_of_reached {n : Nat} {r : Radio} {token : Option String} {timeout : Duration}
    (hradio : w.things.get? n = some (.radio r)) (hroute : r.route = .scripted) (hraised : w.raised token = false)
    (hfits : (w.survey n timeout token).deadline.fits w.horizon = true)
    (hdistinct : (w.survey n timeout token).deadline.due ≠ some (w.survey n timeout token).release)
    (hreached : (w.survey n timeout token).Reached (start n r timeout token w) x) :
    (∀ k, (start n r timeout token w).bench.things.get? k = w.things.get? k) ∧
      (w.survey n timeout token).Fulfilled x := by
  have hsound := (sound_start hroute hraised hfits).reached hdistinct hreached
  exact ⟨things_start hradio hroute hraised hfits, hsound.fulfilled hdistinct⟩

/-! ### A scan that runs out of time -/

/-- An adapter that has not been asked anything. -/
def idleRadio : Radio := .new (.new Course.radio false 0) .scripted

/-- The answer to the first scan: it is refused. -/
def refusal : Response := ⟨.failure, []⟩

/-- The answer to the second scan: there is nothing. -/
def nothing : Response := .ok (Bytes.zeros 8)

/-- A bench with that adapter. Answers to scans are held back for two seconds. -/
def slowBench : World :=
  { World.empty true with
    script := ((Script.empty.respond .listAccessPoints refusal).respond .listAccessPoints nothing).setDelay
      .listAccessPoints (.ofMillis 2000)
    things := Table.empty.set 0 (.radio idleRadio)
    fresh := 1 }

/-- A scan there, for which the caller has one second. -/
def hasty : Survey := slowBench.survey 0 (.ofMillis 1000) none

def hastyStart : Moment := start 0 idleRadio (.ofMillis 1000) none slowBench

/-- The command of that scan is sent. -/
def hastySent : Moment := hasty.onto hastyStart ((Task.errand hasty.errand).enter hastyStart.bench).2

/-- A second has passed. -/
def hastyDue : Moment := { hastySent with bench := (advanceTo 1000 hastySent.bench).2 }

/-- The scan is given up. -/
def hastyOver : Moment :=
  { hasty.onto hastyDue (hastyDue.caller.turn hastyDue.bench).2 with
    caller := (hastyDue.caller.turn hastyDue.bench).1.getD hastyDue.caller }

theorem reached_hastyOver : hasty.Reached hastyStart hastyOver := by
  have hdue : hasty.Own hastySent hastyDue := by
    refine .pass (by decide) (stands_of_held rfl (by decide) rfl) fun wake hwake _ => ?_
    have hmem : wake ∈ [1000, 2000] := hwake
    simp only [List.mem_cons, List.not_mem_nil, or_false] at hmem
    omega
  exact .tail (.tail (.tail .refl (.own .enter)) (.own hdue)) (.own (.call rfl))

/-- The same bench, on which another scan begins and sends its command. -/
def second : Survey := hastyOver.bench.survey 0 .zero none

def secondStart : Moment := start 0 idleRadio .zero none hastyOver.bench

def secondSent : Moment := second.onto secondStart ((Task.errand second.errand).enter secondStart.bench).2

/-- The scan is given up, and the other one is under way. -/
def hastyJoined : Moment := { hastyOver with bench := secondSent.bench }

/-- Another second has passed. -/
def hastyLate : Moment := { hastyJoined with bench := (advanceTo 2000 hastyJoined.bench).2 }

/-- The errand has taken the answer. -/
def hastyTaken : Moment := hasty.onto hastyLate ((Task.errand hasty.errand).turn hastyLate.bench).2

/-- The scan is given up after a second, and another one begins. After another second the errand of the first takes the
first answer, and leaves the other to the second. -/
theorem fulfilled_of_reached_hasty :
    hasty.Fulfilled hastyTaken ∧ hastyTaken.bench.now = 2000 ∧
      hastyTaken.caller.answer? = some (scanAnswer (.error (.timeout (.ofMillis 1000)))) ∧
      hastyTaken.drawn = some (.ok refusal) ∧ hastyTaken.answers = [.ok nothing] ∧
      second.errand? hastyTaken.bench = some ⟨.scripted, .sent (.held .listAccessPoints 3000)⟩ := by
  have hspares : hasty.Spares hastyOver secondSent.bench :=
    ⟨rfl, rfl, rfl, fun _ _ _ => rfl, fun hwaits => absurd hwaits (Option.some_ne_none _)⟩
  have hbegins : hasty.Next hastyOver hastyJoined := .others hspares false fun _ => rfl
  have hlate : hasty.Own hastyJoined hastyLate := by
    refine .pass (by decide) (stands_of_held rfl (by decide) rfl) fun wake hwake _ => ?_
    have hmem : wake ∈ [2000] := hwake
    exact Nat.le_of_eq (List.mem_singleton.mp hmem).symm
  have hreached : hasty.Reached hastyStart hastyTaken :=
    .tail (.tail (.tail reached_hastyOver hbegins) (.own hlate)) (.own .carry)
  exact ⟨(fulfilled_of_reached rfl rfl rfl (by decide) (by decide) hreached).2, rfl, rfl, rfl, rfl, rfl⟩

/-! ### An answer that goes to another scan -/

/-- **A scan leaves the other answers to later scans**: one that begins at a moment of it, and runs without anybody else
doing anything, gets no answer but the second. -/
def LeavesNext (s : Survey) (x : Moment) : Prop :=
  ∀ n r timeout token y, x.bench.things.get? n = some (.radio r) →
    Relation.ReflTransGen (x.bench.survey n timeout token).Own (start n r timeout token x.bench) y →
      ∀ answer, y.drawn = some answer → answer = nextAnswer s.answers.tail

/-- The scan has been given up, and answers are held back for a shorter time from now on. -/
def hastyPassed : Moment :=
  { hastyOver with
    bench :=
      { hastyOver.bench with script := hastyOver.bench.script.setDelay .listAccessPoints (.ofMillis 100) } }

/-- Another scan begins there. -/
def swift : Survey := hastyPassed.bench.survey 0 .zero none

def swiftStart : Moment := start 0 idleRadio .zero none hastyPassed.bench

def swiftSent : Moment := swift.onto swiftStart ((Task.errand swift.errand).enter swiftStart.bench).2

/-- A tenth of a second has passed, and the errand of the first scan is held still. -/
def swiftDue : Moment := { swiftSent with bench := (advanceTo 1100 swiftSent.bench).2 }

def swiftTaken : Moment := swift.onto swiftDue ((Task.errand swift.errand).turn swiftDue.bench).2

/-- The longest timeout that there is. -/
def longest : Duration := ⟨18446744073709551615999999999⟩

/-- A bench like the slow one, on which an answer comes after three tenths of a millisecond. -/
def briskBench : World := { slowBench with script := slowBench.script.setDelay .listAccessPoints (.ofMicros 300) }

/-- A scan there, for which the caller has seven tenths of a millisecond. -/
def brisk : Survey := briskBench.survey 0 (.ofMicros 700) none

def briskStart : Moment := start 0 idleRadio (.ofMicros 700) none briskBench

def briskSent : Moment := brisk.onto briskStart ((Task.errand brisk.errand).enter briskStart.bench).2

/-- Both times have been rounded up to a whole millisecond, which has passed. -/
def briskDue : Moment := { briskSent with bench := (advanceTo 1 briskSent.bench).2 }

def briskOver : Moment :=
  { brisk.onto briskDue (briskDue.caller.turn briskDue.bench).2 with
    caller := (briskDue.caller.turn briskDue.bench).1.getD briskDue.caller }

/-- **It does not**: the other scan takes the answer of the first, whose errand is held for longer. Nor does every scan
send its command: with the longest timeout the caller panics before that. And a caller may be told that time has run out
though its answer comes first, within the same millisecond. -/
theorem not_leavesNext_swift :
    (hasty.Reached hastyStart hastyPassed ∧ hastyPassed.shared = false ∧ ¬ hasty.LeavesNext hastyPassed) ∧
    ((start 0 idleRadio longest none slowBench).caller.answer? = some .panicked ∧
      (start 0 idleRadio longest none slowBench).bench.script.commands = [] ∧
      (start 0 idleRadio longest none slowBench).bench.errands.entries = []) ∧
    (brisk.Reached briskStart briskOver ∧
      briskOver.caller.answer? = some (scanAnswer (.error (.timeout (.ofMicros 700))))) := by
  refine ⟨⟨?_, rfl, fun h => ?_⟩, ⟨rfl, rfl, rfl⟩, ?_, rfl⟩
  · have hspares : hasty.Spares hastyOver hastyPassed.bench :=
      ⟨rfl, rfl, rfl, fun _ _ hunsent => (by cases hunsent), fun hwaits => absurd hwaits (Option.some_ne_none _)⟩
    exact .tail reached_hastyOver (.others hspares false fun _ => rfl)
  · have hdue : swift.Own swiftSent swiftDue := by
      refine .pass (by decide) (stands_of_held rfl (by decide) rfl) fun wake hwake _ => ?_
      have hmem : wake ∈ [1100] := hwake
      exact Nat.le_of_eq (List.mem_singleton.mp hmem).symm
    have hanswer : Except.ok refusal = nextAnswer hasty.answers.tail :=
      h 0 idleRadio .zero none swiftTaken rfl (.tail (.tail (.tail .refl .enter) hdue) .carry) (.ok refusal) rfl
    exact absurd hanswer (by decide)
  · have hdue : brisk.Own briskSent briskDue := by
      refine .pass (by decide) (stands_of_held rfl (by decide) rfl) fun wake hwake _ => ?_
      have hmem : wake ∈ [1, 1] := hwake
      simp only [List.mem_cons, List.not_mem_nil, or_false, or_self] at hmem
      exact Nat.le_of_eq hmem.symm
    exact .tail (.tail (.tail .refl (.own .enter)) (.own hdue)) (.own (.call rfl))

end Survey

end Peripherals.Bench
