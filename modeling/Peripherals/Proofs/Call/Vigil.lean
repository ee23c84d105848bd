import Peripherals.Proofs.Call.Overlap

/-!
# `Proofs.Call.Vigil` — the wait of a connect

A connect waits for an event to take the session out of `connecting`. Three clocks run meanwhile: the deadline, the
time of the next look at the session, and the events themselves; and the caller may cancel at any moment. A `Vigil` is
such a wait on an adapter that nobody else connects or disconnects. What happens in it is a list of occurrences, each
with the time since the one before.

The session is looked at when the answer comes and every poll interval after that, and only then. A deadline or a
cancellation ends the wait without another look. So what a call that gives up leaves behind is an attempt that is
still pending exactly if no event has decided it, and an event decides the result exactly if the next look comes
before the deadline and the cancellation (`Vigil.given_up_iff`). Where two of the three fall on one moment, either may
decide: a turn says which it looks at first.

* `Vigil.act`, `Vigil.run` — what occurrences do;
* `Vigil.GaveUp`, `Vigil.Answered` — the two ways in which a vigil can end;
* `Vigil.Stands` — all places where a vigil can stand;
* `Vigil.sound_act`, `Vigil.sound_run` — one occurrence and a whole vigil keep to them;
* `Vigil.Punctual`, `Vigil.timely_run` — a call that is never late looks again within a poll interval.
-/

namespace Peripherals.Coprocessor

/-! ## Looks -/

/-- A deadline that has passed stays so. -/
theorem Deadline.passed_mono {d : Deadline} {t t' : Nat} (h : d.passed t = true) (hle : t ≤ t') :
    d.passed t' = true := by
  unfold passed at h ⊢
  cases hdue : d.due with
  | none =>
      rw [hdue] at h
      contradiction
  | some due =>
      rw [hdue] at h
      simp only [Option.any_some, decide_eq_true_eq] at h ⊢
      exact Nat.le_trans h hle

/-- What a call that connects answers for a session that is no longer connecting. -/
def Session.verdict (s : Session) : Except Error Success :=
  match s.state with
  | .connected => .ok .done
  | .error => .error (.connectionFailed (s.lastStatus.getD .failure))
  | state => .error (.notConnected state)

namespace Adapter

variable {a a' : Adapter} {t : Transition}

/-- The time between two looks is a setting, and no transition changes it. -/
theorem Advanced.pollInterval (h : a.Advanced t a') : a'.pollInterval = a.pollInterval := by
  rw [Adapter.pollInterval, h.config, Adapter.pollInterval]

theorem pollInterval_dispatch (a : Adapter) (e : Event) (wall : Nat) :
    (a.dispatch e wall).1.pollInterval = a.pollInterval := by
  rcases advanced_dispatch a e wall with ⟨t, -, hadvanced⟩ | hadvanced
  · exact hadvanced.pollInterval
  · exact hadvanced.pollInterval

/-- No event makes a session connecting. -/
theorem dispatch_state_ne (h : a.session.state ≠ .connecting) (e : Event) (wall : Nat) :
    (a.dispatch e wall).1.session.state ≠ .connecting := by
  rcases advanced_dispatch a e wall with ⟨t, ht, hadvanced⟩ | hadvanced
  · rw [hadvanced.session]
    rcases Session.apply_settles ht with hsame | ⟨hne, -⟩
    · rw [hsame]
      exact h
    · exact hne
  · rw [hadvanced.session]
    exact h

end Adapter

namespace Call

variable {a : Adapter} {d : Deadline} {now : Nat}

theorem observe_of_connecting (ssid : String) (h : a.session.state = .connecting) :
    observe a ssid d now = .goOn a (.watching ssid d (now + a.pollInterval)) := by
  unfold observe
  rw [h]

theorem observe_of_ne (ssid : String) (d : Deadline) (now : Nat) (h : a.session.state ≠ .connecting) :
    ∃ lines, observe a ssid d now = .over a a.session.verdict lines := by
  unfold observe Session.verdict
  cases hstate : a.session.state with
  | connecting => exact absurd hstate h
  | unknown => exact ⟨_, rfl⟩
  | disconnected => exact ⟨_, rfl⟩
  | connected => exact ⟨_, rfl⟩
  | disconnecting => exact ⟨_, rfl⟩
  | error => exact ⟨_, rfl⟩

/-- **What a wait on several things at once comes to.** The caller or the deadline ends the call and leaves the adapter
as it is, or else the news decide. They do so in a turn that does not look at them first, and if there are none, only
when nothing else has come. -/
theorem select_cases (a : Adapter) (d : Deadline) (now : Nat) (cancelled : Bool) (first : Wait) (ends what : String)
    (news : Option Turn) :
    (cancelled = true ∧ ∃ lines, select a d now cancelled first ends what news = .over a (.error .cancelled) lines) ∨
    (d.passed now = true ∧ (first = .token → cancelled = false) ∧
      ∃ lines, select a d now cancelled first ends what news = .over a (.error (.timeout d.timeout)) lines) ∨
    (select a d now cancelled first ends what news = news.getD .wait ∧
      (first ≠ .news ∨ news = none → ¬ (cancelled = true ∨ d.passed now = true))) := by
  cases hdecides : first.decides cancelled (d.passed now) news.isSome with
  | none =>
      obtain ⟨hcancelled, hpassed, -⟩ := Wait.decides_eq_none.mp hdecides
      refine .inr (.inr ⟨select_of_not first ends what news hcancelled hpassed, fun _ => ?_⟩)
      simp [hcancelled, hpassed]
  | some w =>
      have hover := Wait.isOver_of_decides hdecides
      cases w with
      | token =>
          refine .inl ⟨hover, ?_⟩
          simp only [select, hdecides]
          exact ⟨_, rfl⟩
      | deadline =>
          refine .inr (.inl ⟨hover, ?_, ?_⟩)
          · rintro rfl
            exact Wait.of_decides_deadline hdecides
          · simp only [select, hdecides]
            exact ⟨_, rfl⟩
      | news =>
          refine .inr (.inr ⟨?_, ?_⟩)
          · simp only [select, hdecides]
          · rintro (hfirst | rfl)
            · obtain ⟨hcancelled, hpassed⟩ := Wait.of_decides_news hdecides hfirst
              simp [hcancelled, hpassed]
            · contradiction

end Call

/-! ## Vigils -/

/-- What can happen while a connect waits. -/
inductive Occurrence where
  | event (e : Event) (wall : Nat)
  /-- The answer to the credentials arrives. -/
  | answer (reply : Except Error Response)
  | cancel
  /-- The call takes a turn, and looks at one of its waits before the others. -/
  | turn (first : Wait := .token)

/-- A turn that looks at the token first, or something else. -/
def Occurrence.InOrder : Occurrence → Prop
  | .turn first => first = .token
  | _ => True

instance : (o : Occurrence) → Decidable o.InOrder
  | .turn first => inferInstanceAs (Decidable (first = .token))
  | .event _ _ | .answer _ | .cancel => inferInstanceAs (Decidable True)

/-- Where a connect stands. -/
inductive Stage where
  | waits (call : Call)
  | ended (result : Except Error Success)

/-- **A connect that waits on an adapter.** -/
structure Vigil where
  adapter : Adapter
  stage : Stage
  /-- The time of what happened last, in milliseconds. -/
  clock : Nat
  reply : Option (Except Error Response)
  cancelled : Bool
  /-- When the call last looked at the session and found it connecting. -/
  seen : Option Nat
  /-- When an event took the session out of `connecting`. -/
  moved : Option Nat

namespace Vigil

/-- A connect that has just started. -/
def start (started : Started) (now : Nat) : Vigil where
  adapter := started.adapter
  stage := .waits started.call
  clock := now
  reply := none
  cancelled := false
  seen := none
  moved := none

/-- The state of the session. -/
def state (v : Vigil) : State := v.adapter.session.state

/-- What becomes of a vigil by a turn of its call. -/
def turned (v : Vigil) (now : Nat) : Turn → Vigil
  | .wait => { v with clock := now }
  | .goOn adapter call => { v with adapter, stage := .waits call, clock := now, seen := some now }
  | .over adapter result _ => { v with adapter, stage := .ended result, clock := now }

/-- **What an occurrence does**, some time after the one before. Nothing counts after the end. -/
def act (v : Vigil) (wait : Nat) (o : Occurrence) : Vigil :=
  match v.stage with
  | .ended _ => v
  | .waits call =>
    let now := v.clock + wait
    match o with
    | .event e wall =>
      let adapter := (v.adapter.dispatch e wall).1
      { v with
        adapter
        clock := now
        moved := if v.state = .connecting ∧ adapter.session.state ≠ .connecting then some now else v.moved }
    | .answer reply => { v with clock := now, reply := v.reply.or (some reply) }
    | .cancel => { v with clock := now, cancelled := true }
    | .turn first => v.turned now (call.turn v.adapter now v.cancelled v.reply first)

/-- A vigil after occurrences. -/
def run (v : Vigil) (log : List (Nat × Occurrence)) : Vigil := log.foldl (fun v o => v.act o.1 o.2) v

/-- **There is a reason to give up**: the caller has cancelled, or the deadline has passed. -/
def GivenUp (d : Deadline) (v : Vigil) : Prop := v.cancelled = true ∨ d.passed v.clock = true

instance (d : Deadline) (v : Vigil) : Decidable (v.GivenUp d) :=
  inferInstanceAs (Decidable (v.cancelled = true ∨ d.passed v.clock = true))

/-- **What the call waits for has come**: the answer or, once it has looked, the time of the next look. -/
inductive Ripe (p : Nat) (v : Vigil) : Prop where
  | answered (hseen : v.seen = none) (hreply : v.reply ≠ none)
  | due {look : Nat} (hseen : v.seen = some look) (hdue : look + p ≤ v.clock)

/-- What a call may answer that gives up. -/
def Excuses (d : Deadline) (v : Vigil) (e : Error) : Prop :=
  (v.cancelled = true ∧ e = .cancelled) ∨ (d.passed v.clock = true ∧ e = .timeout d.timeout)

/-- What a call answers that gives up and has looked at the token first. -/
def excuse (d : Deadline) (v : Vigil) : Error := if v.cancelled then .cancelled else .timeout d.timeout

/-- **A call that gave up** leaves the attempt pending exactly if no event has taken the session out of
`connecting`. -/
structure GaveUp (d : Deadline) (v : Vigil) (e : Error) : Prop where
  excuses : v.Excuses d e
  pending : v.state = .connecting ↔ v.moved = none

/-- **What a call answers that does not give up**: what the coprocessor has answered, or what an event has made of the
session. -/
inductive Answered (v : Vigil) : Except Error Success → Prop where
  | lost {e : Error} (hreply : v.reply = some (.error e)) : Answered v (.error e)
  | refused {response : Response} (hreply : v.reply = some (.ok response)) (hstatus : response.status ≠ .completed) :
    Answered v (.error (.connectionFailed response.status))
  | settled (hstate : v.state ≠ .connecting) (hmoved : v.moved ≠ none) : Answered v v.adapter.session.verdict

/-! ## Where a vigil stands -/

/-- **All places where a vigil can stand**: the first two while it waits, the others when it is over. If all turns are
`plain`, they have looked at the token first, then at the deadline. -/
inductive Stands (d : Deadline) (p : Nat) (plain : Prop) (v : Vigil) : Stage → Prop where
  | joining {ssid : String} (hseen : v.seen = none) (hmoved : v.state = .connecting ↔ v.moved = none) :
    Stands d p plain v (.waits (.joining ssid d))
  | watching {ssid : String} {look : Nat} (hseen : v.seen = some look)
    (hmoved : v.state = .connecting ↔ v.moved = none) : Stands d p plain v (.waits (.watching ssid d (look + p)))
  | gaveUp {e : Error} (hgave : v.GaveUp d e) (hplain : plain → e = v.excuse d) :
    Stands d p plain v (.ended (.error e))
  | answered {r : Except Error Success} (hanswered : v.Answered r) (hripe : v.Ripe p)
    (hplain : plain → ¬ v.GivenUp d) : Stands d p plain v (.ended r)

/-- **The invariant of a vigil.** It stands at one of these places, and whatever took the session out of `connecting`
came after the last look that found it there. -/
structure Sound (d : Deadline) (p : Nat) (plain : Prop) (v : Vigil) : Prop where
  stands : v.Stands d p plain v.stage
  interval : v.adapter.pollInterval = p
  seen_le : ∀ look, v.seen = some look → look ≤ v.clock
  moved_le : ∀ u, v.moved = some u → u ≤ v.clock
  seen_le_moved : ∀ u look, v.moved = some u → v.seen = some look → look ≤ u

variable {d : Deadline} {p : Nat} {plain : Prop} {v : Vigil} {call : Call}

/-! ## What one occurrence preserves -/

theorem Stands.moved_iff (h : v.Stands d p plain (.waits call)) : v.state = .connecting ↔ v.moved = none := by
  cases h with
  | joining _ hmoved => exact hmoved
  | watching _ hmoved => exact hmoved

/-- As long as a vigil waits, only a look takes it elsewhere. -/
theorem Stands.still {v' : Vigil} (h : v.Stands d p plain (.waits call)) (hseen : v'.seen = v.seen)
    (hmoved : v'.state = .connecting ↔ v'.moved = none) : v'.Stands d p plain (.waits call) := by
  cases h with
  | joining hnone _ => exact .joining (hseen.trans hnone) hmoved
  | watching hsome _ => exact .watching (hseen.trans hsome) hmoved

/-- The invariant at a later time, with everything else as it was. -/
theorem Sound.later (h : v.Sound d p plain) {v' : Vigil} (hstands : v'.Stands d p plain v'.stage)
    (hinterval : v'.adapter.pollInterval = v.adapter.pollInterval) (hclock : v.clock ≤ v'.clock)
    (hseen : v'.seen = v.seen) (hmoved : v'.moved = v.moved) : v'.Sound d p plain where
  stands := hstands
  interval := hinterval.trans h.interval
  seen_le look hlook := Nat.le_trans (h.seen_le look (hseen.symm.trans hlook)) hclock
  moved_le u hu := Nat.le_trans (h.moved_le u (hmoved.symm.trans hu)) hclock
  seen_le_moved u look hu hlook := h.seen_le_moved u look (hmoved.symm.trans hu) (hseen.symm.trans hlook)

/-- The invariant of a vigil that goes on waiting. -/
theorem Sound.still (h : v.Sound d p plain) (hstage : v.stage = .waits call) {v' : Vigil}
    (hstage' : v'.stage = .waits call)
    (hadapter : v'.adapter = v.adapter) (hclock : v.clock ≤ v'.clock) (hseen : v'.seen = v.seen)
    (hmoved : v'.moved = v.moved) : v'.Sound d p plain := by
  have hstands := h.stands
  rw [hstage] at hstands
  refine h.later ?_ (by rw [hadapter]) hclock hseen hmoved
  rw [hstage']
  refine hstands.still hseen ?_
  rw [state, hadapter, hmoved]
  exact hstands.moved_iff

theorem Sound.event (h : v.Sound d p plain) (hstage : v.stage = .waits call) (wait : Nat) (e : Event) (wall : Nat) :
    (v.act wait (.event e wall)).Sound d p plain := by
  have hstands := h.stands
  rw [hstage] at hstands
  have hiff := hstands.moved_iff
  have hinterval := Adapter.pollInterval_dispatch v.adapter e wall
  simp only [act, hstage]
  by_cases hleft : v.state = .connecting ∧ (v.adapter.dispatch e wall).1.session.state ≠ .connecting
  · -- The event takes the session out of connecting, after all looks so far.
    rw [if_pos hleft]
    exact {
      stands := hstands.still rfl ⟨fun hin => absurd hin hleft.2, nofun⟩
      interval := hinterval.trans h.interval
      seen_le := fun look hlook => Nat.le_trans (h.seen_le look hlook) (Nat.le_add_right _ _)
      moved_le := fun u hu => Nat.le_of_eq (Option.some.inj hu).symm
      seen_le_moved := fun u look hu hlook => by
        obtain rfl := Option.some.inj hu
        exact Nat.le_trans (h.seen_le look hlook) (Nat.le_add_right _ _) }
  · rw [if_neg hleft]
    refine h.later (hstands.still rfl ?_) hinterval (Nat.le_add_right _ _) rfl rfl
    rw [← hiff]
    constructor
    · exact Decidable.not_imp_not.mp fun hout => Adapter.dispatch_state_ne hout e wall
    · exact Decidable.not_and_not_right.mp hleft

/-- **A look** goes on if the session is still connecting, and settles the result otherwise. -/
theorem Sound.look (h : v.Sound d p plain) {now : Nat} {ssid : String} (hclock : v.clock ≤ now)
    (hiff : v.state = .connecting ↔ v.moved = none) (hplain : plain → ¬ (v.cancelled = true ∨ d.passed now = true))
    (hripe : { v with clock := now }.Ripe p) :
    (v.turned now (Call.observe v.adapter ssid d now)).Sound d p plain := by
  by_cases hstate : v.state = .connecting
  · rw [Call.observe_of_connecting ssid hstate, h.interval]
    have hnone : v.moved = none := hiff.mp hstate
    exact {
      stands := .watching rfl hiff
      interval := h.interval
      seen_le := fun look hlook => Nat.le_of_eq (Option.some.inj hlook).symm
      moved_le := fun u hu => Nat.le_trans (h.moved_le u hu) hclock
      seen_le_moved := fun u look hu _ => by
        rw [turned, hnone] at hu
        contradiction }
  · obtain ⟨lines, hlook⟩ := Call.observe_of_ne ssid d now hstate
    rw [hlook]
    have hsettled : ({ v with stage := .ended v.adapter.session.verdict, clock := now } : Vigil).Answered
        v.adapter.session.verdict := .settled hstate fun hnone => hstate (hiff.mpr hnone)
    refine h.later (.answered hsettled ?_ hplain) rfl hclock rfl rfl
    cases hripe with
    | answered hseen hreply => exact .answered hseen hreply
    | due hseen hdue => exact .due hseen hdue

/-- **A turn of a call that waits for several things** gives up, or does what the news do. -/
theorem Sound.select (h : v.Sound d p plain) {now : Nat} (hclock : v.clock ≤ now)
    (hiff : v.state = .connecting ↔ v.moved = none) (first : Wait) (ends what : String) (news : Option Turn)
    (hfirst : plain → first = .token)
    (hnews : (plain ∨ news = none → ¬ (v.cancelled = true ∨ d.passed now = true)) →
      (v.turned now (news.getD .wait)).Sound d p plain) :
    (v.turned now (Call.select v.adapter d now v.cancelled first ends what news)).Sound d p plain := by
  rcases Call.select_cases v.adapter d now v.cancelled first ends what news with
    ⟨hcancelled, lines, hturn⟩ | ⟨hpassed, htoken, lines, hturn⟩ | ⟨hturn, hfree⟩
  · rw [hturn]
    refine h.later (.gaveUp ⟨.inl ⟨hcancelled, rfl⟩, hiff⟩ fun _ => ?_) rfl hclock rfl rfl
    exact (if_pos hcancelled).symm
  · rw [hturn]
    refine h.later (.gaveUp ⟨.inr ⟨hpassed, rfl⟩, hiff⟩ fun hplain => ?_) rfl hclock rfl rfl
    exact (if_neg (Bool.not_eq_true _ ▸ htoken (hfirst hplain))).symm
  · rw [hturn]
    refine hnews fun hcase => hfree (hcase.imp_left fun hplain => ?_)
    rw [hfirst hplain]
    exact Wait.noConfusion

theorem Sound.turn (h : v.Sound d p plain) (hstage : v.stage = .waits call) (wait : Nat) {first : Wait}
    (hfirst : plain → first = .token) : (v.act wait (.turn first)).Sound d p plain := by
  have hstands := h.stands
  rw [hstage] at hstands
  have hiff := hstands.moved_iff
  have hclock : v.clock ≤ v.clock + wait := Nat.le_add_right _ _
  simp only [act, hstage]
  cases hstands with
  | @joining ssid hseen _ =>
      refine h.select hclock hiff first _ _ _ hfirst fun hfree => ?_
      cases hreply : v.reply with
      | none => exact h.still hstage hstage rfl hclock rfl rfl
      | some reply =>
          have hplain : plain → ¬ (v.cancelled = true ∨ d.passed (v.clock + wait) = true) := fun hplain =>
            hfree (.inl hplain)
          have hcome : v.reply ≠ none := hreply ▸ Option.some_ne_none reply
          cases reply with
          | error e => exact h.later (.answered (.lost hreply) (.answered hseen hcome) hplain) rfl hclock rfl rfl
          | ok response =>
              simp only [Option.map_some, Option.getD_some, Call.joined]
              split
              · exact h.look hclock hiff hplain (.answered hseen hcome)
              · next hstatus =>
                  have hadvanced := Adapter.advanced_advance v.adapter
                    (v.adapter.session.recordFailure response.status)
                  exact h.later
                    (.answered (.refused hreply fun hc => hstatus (Status.isOk_iff.mpr hc)) (.answered hseen hcome) hplain)
                    hadvanced.pollInterval hclock rfl rfl
  | @watching ssid look hseen _ =>
      refine h.select hclock hiff first _ _ _ hfirst fun hfree => ?_
      by_cases hwake : look + p ≤ v.clock + wait
      · rw [if_pos hwake]
        exact h.look hclock hiff (fun hplain => hfree (.inl hplain)) (.due hseen hwake)
      · rw [if_neg hwake]
        exact h.still hstage hstage rfl hclock rfl rfl

/-- **One occurrence preserves the invariant.** -/
theorem sound_act (h : v.Sound d p plain) (wait : Nat) {o : Occurrence} (hplain : plain → o.InOrder) :
    (v.act wait o).Sound d p plain := by
  cases hstage : v.stage with
  | ended result =>
      have hsame : v.act wait o = v := by simp only [act, hstage]
      rw [hsame]
      exact h
  | waits call =>
      cases o with
      | event e wall => exact h.event hstage wait e wall
      | answer reply =>
          simp only [act, hstage]
          exact h.still hstage rfl rfl (Nat.le_add_right _ _) rfl rfl
      | cancel =>
          simp only [act, hstage]
          exact h.still hstage rfl rfl (Nat.le_add_right _ _) rfl rfl
      | turn first => exact h.turn hstage wait hplain

/-- **A whole vigil preserves the invariant.** -/
theorem sound_run (h : v.Sound d p plain) {log : List (Nat × Occurrence)} (hplain : plain → ∀ o ∈ log, o.2.InOrder) :
    (v.run log).Sound d p plain := by
  induction log generalizing v with
  | nil => exact h
  | cons o rest ih =>
      refine ih (sound_act h o.1 fun hp => ?_) fun hp o' ho' => ?_
      · exact hplain hp o List.mem_cons_self
      · exact hplain hp o' (List.mem_cons_of_mem o ho')

theorem sound_start {a : Adapter} {now : Nat} {cancelled : Bool} {ssid password : String} {timeout : Duration}
    {started : Started} (h : Call.start a now cancelled (.connect ssid password timeout) = .ok started) (plain : Prop) :
    (start started now).Sound (.start timeout now) a.pollInterval plain := by
  obtain ⟨s, hs, hadapter, hcall⟩ := Call.start_connect h
  obtain ⟨-, -, rfl⟩ := Session.beginConnect_eq_ok.mp hs
  rw [start, hcall, hadapter]
  exact ⟨.joining rfl ⟨fun _ => rfl, fun _ => rfl⟩, rfl, nofun, nofun, nofun⟩

/-! ## On time -/

/-- Whether something that happens now leaves the call the turn that it wants. -/
def onTime (v : Vigil) (wait : Nat) : Bool :=
  match v.stage with
  | .waits call => call.wake?.all (v.clock + wait ≤ ·)
  | .ended _ => true

/-- **The call is never late**: nothing happens after a time at which it wants a turn until it has taken it. -/
def Punctual : Vigil → List (Nat × Occurrence) → Prop
  | _, [] => True
  | v, (wait, o) :: rest => v.onTime wait = true ∧ Punctual (v.act wait o) rest

instance decidablePunctual : (v : Vigil) → (log : List (Nat × Occurrence)) → Decidable (Punctual v log)
  | _, [] => inferInstanceAs (Decidable True)
  | v, (wait, o) :: rest =>
    have := decidablePunctual (v.act wait o) rest
    inferInstanceAs (Decidable (v.onTime wait = true ∧ Punctual (v.act wait o) rest))

/-- **What a call that is never late keeps to**: the next look is not overdue. -/
def Timely (p : Nat) (v : Vigil) : Prop := ∀ look, v.seen = some look → v.clock ≤ look + p

/-- **When a call that has looked has a reason to give up**: the caller has cancelled, or the deadline has passed by the
time of the next look. -/
theorem Stands.gaveUp_iff {r : Except Error Success} (h : v.Stands d p plain (.ended r)) {look : Nat}
    (hclock : v.clock ≤ look + p) (hlook : v.seen = some look) :
    v.GivenUp d ↔ v.cancelled = true ∨ d.passed (look + p) = true := by
  constructor
  · exact Or.imp_right fun hpassed => Deadline.passed_mono hpassed hclock
  · intro hearly
    cases h with
    | gaveUp hgave _ => exact hgave.excuses.imp And.left And.left
    | answered _ hripe _ =>
        cases hripe with
        | answered hseen _ =>
            rw [hseen] at hlook
            contradiction
        | due hseen hdue =>
            obtain rfl := Option.some.inj (hseen.symm.trans hlook)
            exact hearly.imp_right fun hpassed => Deadline.passed_mono hpassed hdue

/-- The turn that a watching call wants comes no later than its next look. -/
theorem Sound.le_of_onTime (h : v.Sound d p plain) (hstage : v.stage = .waits call) {wait : Nat}
    (htime : v.onTime wait = true) {look : Nat} (hlook : v.seen = some look) : v.clock + wait ≤ look + p := by
  have hstands := h.stands
  rw [hstage] at hstands
  simp only [onTime, hstage] at htime
  cases hstands with
  | joining hseen _ =>
      rw [hseen] at hlook
      contradiction
  | watching hseen _ =>
      obtain rfl := Option.some.inj (hseen.symm.trans hlook)
      simp only [Call.wake?, Option.all_some, decide_eq_true_eq] at htime
      cases hdue : d.due with
      | none =>
          rw [hdue] at htime
          exact htime
      | some due =>
          rw [hdue] at htime
          exact Nat.le_trans htime (Nat.min_le_left _ _)

/-- A call that has just looked is not overdue. -/
theorem timely_turned {now : Nat} (hle : ∀ look, v.seen = some look → now ≤ look + p) :
    (t : Turn) → (v.turned now t).Timely p
  | .wait => hle
  | .goOn _ _ => fun look hlook => by
      obtain rfl := Option.some.inj hlook
      exact Nat.le_add_right _ _
  | .over _ _ _ => hle

theorem timely_act (h : v.Sound d p plain) (htimely : v.Timely p) {wait : Nat} (htime : v.onTime wait = true)
    (o : Occurrence) : (v.act wait o).Timely p := by
  cases hstage : v.stage with
  | ended result =>
      have hsame : v.act wait o = v := by simp only [act, hstage]
      rw [hsame]
      exact htimely
  | waits call =>
      have hle : ∀ look, v.seen = some look → v.clock + wait ≤ look + p := fun look => h.le_of_onTime hstage htime
      cases o with
      | event e wall =>
          simp only [act, hstage]
          exact hle
      | answer reply =>
          simp only [act, hstage]
          exact hle
      | cancel =>
          simp only [act, hstage]
          exact hle
      | turn first =>
          simp only [act, hstage]
          exact timely_turned hle _

theorem timely_run (h : v.Sound d p False) (htimely : v.Timely p) {log : List (Nat × Occurrence)}
    (hpunctual : v.Punctual log) : (v.run log).Timely p := by
  induction log generalizing v with
  | nil => exact htimely
  | cons o rest ih =>
      obtain ⟨htime, hrest⟩ := hpunctual
      exact ih (sound_act h o.1 False.elim) (timely_act h htimely htime o.2) hrest

/-! ## The end -/

/-- **What a connect comes to that nobody else disturbs.** With a reason to give up, and before what it waits for has
come, it answers the reason, and leaves the attempt pending exactly if no event has taken the session out of
`connecting`. Without a reason it answers what the coprocessor has answered, or what an event has made of the session.
Where both come at once, it does one or the other; it gives up if its turns look at the token first, then at the
deadline. When the call is never late, an event that comes after a look decides the result within a poll interval,
unless the caller has cancelled or the deadline has passed by the time of the next look: then the call has a reason to
give up all the same. -/
theorem given_up_iff {a : Adapter} {now : Nat} {ssid password : String} {timeout : Duration} {started : Started}
    (hstart : Call.start a now false (.connect ssid password timeout) = .ok started) (log : List (Nat × Occurrence))
    {v : Vigil} (hv : (start started now).run log = v) {r : Except Error Success} (hover : v.stage = .ended r) :
    (v.GivenUp (.start timeout now) → ¬ v.Ripe a.pollInterval →
      ∃ e, r = .error e ∧ v.GaveUp (.start timeout now) e) ∧
    (¬ v.GivenUp (.start timeout now) → v.Ripe a.pollInterval ∧ v.Answered r) ∧
    (v.GivenUp (.start timeout now) → v.Ripe a.pollInterval →
      (∃ e, r = .error e ∧ v.GaveUp (.start timeout now) e) ∨ v.Answered r) ∧
    ((∀ o ∈ log, o.2.InOrder) → v.GivenUp (.start timeout now) →
      r = .error (v.excuse (.start timeout now)) ∧ (v.state = .connecting ↔ v.moved = none)) ∧
    ((start started now).Punctual log → ∀ u look, v.moved = some u → v.seen = some look →
      look ≤ u ∧ u ≤ v.clock ∧ v.clock ≤ look + a.pollInterval ∧
        (v.GivenUp (.start timeout now) ↔
          v.cancelled = true ∨ (Deadline.start timeout now).passed (look + a.pollInterval) = true)) := by
  have hsound := sound_run (sound_start hstart (∀ o ∈ log, o.2.InOrder)) fun hplain => hplain
  have htimely : (start started now).Punctual log → v.Timely a.pollInterval := by
    intro hpunctual
    rw [← hv]
    exact timely_run (sound_start hstart False) nofun hpunctual
  rw [hv] at hsound
  have hstands := hsound.stands
  rw [hover] at hstands
  refine ⟨?_, ?_, ?_, ?_, ?_⟩
  · intro _ hgreen
    cases hstands with
    | gaveUp hgave _ => exact ⟨_, rfl, hgave⟩
    | answered _ hripe _ => exact absurd hripe hgreen
  · intro hnot
    cases hstands with
    | gaveUp hgave _ => exact absurd (hgave.excuses.imp And.left And.left) hnot
    | answered hanswered hripe _ => exact ⟨hripe, hanswered⟩
  · intro _ _
    cases hstands with
    | gaveUp hgave _ => exact .inl ⟨_, rfl, hgave⟩
    | answered hanswered _ _ => exact .inr hanswered
  · intro hplain hgivenUp
    cases hstands with
    | gaveUp hgave hexcuse => exact ⟨congrArg Except.error (hexcuse hplain), hgave.pending⟩
    | answered _ _ hnot => exact absurd hgivenUp (hnot hplain)
  · intro hpunctual u look hu hlook
    have hclock := htimely hpunctual look hlook
    refine ⟨hsound.seen_le_moved u look hu hlook, hsound.moved_le u hu, hclock, ?_⟩
    exact hstands.gaveUp_iff hclock hlook

/-! ## Attempts that have succeeded -/

/-- A connect that has just started on a new adapter. -/
def attempt (timeout : Duration) : Started where
  adapter := { Course.radio with session := ⟨.connecting, none, none⟩ }
  call := .joining "lab" (.start timeout 0)
  command := .wireless .connect (Credentials.encode ⟨"lab", "hunter22"⟩)
  lines := [⟨.info, "Connecting to lab"⟩]

theorem start_attempt (timeout : Duration) :
    Call.start Course.radio 0 false (.connect "lab" "hunter22" timeout) = .ok (attempt timeout) := rfl

/-- The event that ends the attempt. -/
def joins : Occurrence := .event ⟨.connected, .completed, Course.network.encode⟩ 100

/-- The event comes between two looks, and the deadline before the second one. -/
def expires : List (Nat × Occurrence) :=
  [(0, .answer (.ok ⟨.completed, []⟩)), (0, .turn), (100, joins), (200, .turn)]

/-- The event comes between two looks, and the caller cancels before the second one. -/
def calledOff : List (Nat × Occurrence) :=
  [(0, .answer (.ok ⟨.completed, []⟩)), (0, .turn), (100, joins), (100, .cancel), (0, .turn)]

/-- The event comes before the answer, and the deadline as well. -/
def unanswered : List (Nat × Occurrence) := [(100, joins), (200, .turn)]

/-- **All three give up on an attempt that has succeeded.** Of the two that have looked, the next look would have come
at 500 ms: too late for a deadline of 300 ms, and for a caller who cancels at 200 ms. -/
theorem given_up_iff_late :
    (((start (attempt ⟨300000000⟩) 0).run expires).state ≠ .connecting ∧
      ((start (attempt ⟨300000000⟩) 0).run expires).clock ≤ 500) ∧
    (((start (attempt ⟨0⟩) 0).run calledOff).state ≠ .connecting ∧
      ((start (attempt ⟨0⟩) 0).run calledOff).clock ≤ 500) ∧
    ((start (attempt ⟨300000000⟩) 0).run unanswered).state ≠ .connecting := by
  have hexpires := given_up_iff (start_attempt ⟨300000000⟩) expires rfl rfl
  have hcalledOff := given_up_iff (start_attempt ⟨0⟩) calledOff rfl rfl
  have hunanswered := given_up_iff (start_attempt ⟨300000000⟩) unanswered rfl rfl
  refine ⟨⟨fun hstate => ?_, ?_⟩, ⟨fun hstate => ?_, ?_⟩, fun hstate => ?_⟩
  · exact absurd ((hexpires.2.2.2.1 (by decide) (by decide)).2.mp hstate) (by decide)
  · exact (hexpires.2.2.2.2 (by decide) 100 0 rfl rfl).2.2.1
  · exact absurd ((hcalledOff.2.2.2.1 (by decide) (by decide)).2.mp hstate) (by decide)
  · exact (hcalledOff.2.2.2.2 (by decide) 100 0 rfl rfl).2.2.1
  · exact absurd ((hunanswered.2.2.2.1 (by decide) (by decide)).2.mp hstate) (by decide)

/-- **A connect that has timed out or was cancelled leaves the attempt pending.** -/
def LeavesPending (v : Vigil) (log : List (Nat × Occurrence)) : Prop :=
  v.Punctual log → ∀ e, (v.run log).stage = .ended (.error e) → (e = .cancelled ∨ ∃ after, e = .timeout after) →
    (v.run log).state = .connecting

/-- **These three do not.** -/
theorem not_leavesPending_late :
    ¬ (start (attempt ⟨300000000⟩) 0).LeavesPending expires ∧ ¬ (start (attempt ⟨0⟩) 0).LeavesPending calledOff ∧
      ¬ (start (attempt ⟨300000000⟩) 0).LeavesPending unanswered := by
  refine ⟨fun h => ?_, fun h => ?_, fun h => ?_⟩
  · exact absurd (h (by decide) _ rfl (.inr ⟨_, rfl⟩)) (by decide)
  · exact absurd (h (by decide) _ rfl (.inl rfl)) (by decide)
  · exact absurd (h (by decide) _ rfl (.inr ⟨_, rfl⟩)) (by decide)

end Vigil

end Peripherals.Coprocessor
