import Peripherals.Bench.Run
import Peripherals.Proofs.Call.Overlap
import Peripherals.Proofs.Event.Turns

/-!
# `Proofs.Call.Refusal` — requests that are refused leave no trace

A request to an adapter is checked before anything is done about it: the name of the network, the token of the caller,
the state of the session, the antenna, the time between scans. Beside these checks stand steps with effects: a connect
forgets the network that was known, a disconnect takes the session to `disconnecting`, and every request that passes
sends a command. `Call.Refuses` lists the requests that do not pass, and `Call.start_eq_error_iff` says that it lists
all of them.

On a bench a refused request is over at once, and the bench is the very one that it was: the session, the settings, what
subscribers have to read, the commands on record, the script of the coprocessor, and everything else
(`Fruitless.unchanged`). Nothing of it comes later either, so that performing it to the end is the same as letting the
bench go on by itself (`Fruitless.afterwards`).

* `Call.Refuses`, `Call.start_eq_error_iff` — the requests that are refused, and why;
* `Fruitless` — a step of which nothing remains but its answer;
* `refused_fruitless` — refused requests are fruitless, and no other requests are over at once.
-/

namespace Peripherals

namespace Coprocessor

variable {a : Adapter} {raised : Bool} {request : Request} {e : Error} {now : Nat}

/-! ## Requests that are refused -/

/-- **The requests that an adapter refuses, and why.** `raised` says whether the token of the caller has been raised. -/
inductive Call.Refuses (a : Adapter) (raised : Bool) : Request → Error → Prop where
  | noName {password : String} {timeout : Duration} :
    Refuses a raised (.connect "" password timeout) (.invalidArgument .ssid)
  | raisedConnect {ssid password : String} {timeout : Duration} (hssid : ssid ≠ "") (hraised : raised = true) :
    Refuses a raised (.connect ssid password timeout) .cancelled
  | busyConnect {ssid password : String} {timeout : Duration} (hssid : ssid ≠ "") (hraised : raised = false)
    (hstate : a.session.state = .connecting ∨ a.session.state = .disconnecting) :
    Refuses a raised (.connect ssid password timeout) (.stateConflict a.session.state)
  | busyDisconnect {turnOff : Bool} (hstate : a.session.state = .disconnecting) :
    Refuses a raised (.disconnect turnOff) (.stateConflict a.session.state)
  | raisedScan {timeout : Duration} (hraised : raised = true) : Refuses a raised (.scan timeout) .cancelled
  | noAntenna {persist : Bool} : Refuses a raised (.setAntenna .unknown persist) .invalidAntenna

theorem Session.beginConnect_eq_error {s : Session} :
    s.beginConnect = .error e ↔ (s.state = .connecting ∨ s.state = .disconnecting) ∧ e = .stateConflict s.state := by
  unfold beginConnect
  cases hstate : s.state <;> simp [eq_comm]

theorem Session.beginDisconnect_eq_error {s : Session} :
    s.beginDisconnect = .error e ↔ s.state = .disconnecting ∧ e = .stateConflict s.state := by
  unfold beginDisconnect
  cases hstate : s.state <;> simp [eq_comm]

theorem antennaRequest?_eq_none {antenna : Antenna} {persist : Bool} :
    antennaRequest? antenna persist = none ↔ antenna = .unknown := by
  cases antenna <;> simp [antennaRequest?]

namespace Call

/-- A refused request does not start. -/
theorem Refuses.start_eq (h : Refuses a raised request e) (now : Nat) : start a now raised request = .error e := by
  cases h with
  | noName => rfl
  | raisedConnect hssid hraised => simp [start, hssid, hraised]
  | busyConnect hssid hraised hstate =>
      have hbegin := Session.beginConnect_eq_error.mpr ⟨hstate, rfl⟩
      simp [start, hssid, hraised, hbegin]
  | busyDisconnect hstate =>
      have hbegin := Session.beginDisconnect_eq_error.mpr ⟨hstate, rfl⟩
      simp only [start, hbegin]
  | raisedScan hraised => simp only [start, hraised, if_true]
  | noAntenna => rfl

/-- **A request does not start exactly if it is refused.** -/
theorem start_eq_error_iff : start a now raised request = .error e ↔ Refuses a raised request e := by
  refine ⟨fun h => ?_, fun h => h.start_eq now⟩
  cases request with
  | connect ssid password timeout =>
      simp only [start] at h
      split at h
      · next hempty =>
          obtain rfl := String.isEmpty_iff.mp hempty
          obtain rfl := Except.error.inj h
          exact .noName
      · next hname =>
          have hssid : ssid ≠ "" := fun hempty => hname (String.isEmpty_iff.mpr hempty)
          split at h
          · next hraised =>
              obtain rfl := Except.error.inj h
              exact .raisedConnect hssid hraised
          · next hraised =>
              split at h
              · next hbegin =>
                  obtain rfl := Except.error.inj h
                  obtain ⟨hstate, rfl⟩ := Session.beginConnect_eq_error.mp hbegin
                  exact .busyConnect hssid (Bool.eq_false_iff.mpr hraised) hstate
              · contradiction
  | disconnect turnOff =>
      simp only [start] at h
      split at h
      · next hbegin =>
          obtain rfl := Except.error.inj h
          obtain ⟨hstate, rfl⟩ := Session.beginDisconnect_eq_error.mp hbegin
          exact .busyDisconnect hstate
      · contradiction
  | scan timeout =>
      simp only [start] at h
      split at h
      · next hraised =>
          obtain rfl := Except.error.inj h
          exact .raisedScan hraised
      · contradiction
  | startInterface => contradiction
  | stopInterface => contradiction
  | setAntenna antenna persist =>
      simp only [start] at h
      split at h
      · next hnone =>
          obtain rfl := antennaRequest?_eq_none.mp hnone
          obtain rfl := Except.error.inj h
          exact .noAntenna
      · contradiction

end Call

/-- A time between scans is refused exactly if it is shorter than a second or longer than a minute. -/
theorem Adapter.setScanPeriod_eq_error_iff {period : Duration} :
    a.setScanPeriod period = .error e ↔
      (period.nanos < 1000000000 ∨ 60000000000 < period.nanos) ∧ e = .invalidArgument (.scanPeriod period) := by
  unfold setScanPeriod
  by_cases h : allowsScanPeriod period = true
  · have hin := allowsScanPeriod_eq_true.mp h
    rw [if_pos h]
    constructor
    · intro hrefused
      contradiction
    · rintro ⟨hout, -⟩
      omega
  · rw [if_neg h]
    rw [allowsScanPeriod_eq_true] at h
    constructor
    · intro hrefused
      exact ⟨by omega, (Except.error.inj hrefused).symm⟩
    · rintro ⟨-, rfl⟩
      rfl

end Coprocessor

namespace Bench

open Coprocessor

variable {w : World} {slot : Slot} {n : Nat} {r : Radio} {step : Step} {answer : Answer}

/-! ## Steps that come to nothing -/

/-- What a bench does by itself before its clock goes on. -/
def goOn : Bench Bool := whileUsing [] runBackground

/-- **A step of which nothing remains but its answer.** -/
structure Fruitless (w : World) (step : Step) (answer : Answer) : Prop where
  /-- The step is over at once, and has changed nothing. -/
  unchanged : start step w = (.over answer, w)
  /-- Performed to the end, it leaves the bench as it would have become by itself. -/
  afterwards : perform ⟨step, []⟩ w = (.single answer, (goOn w).2)

/-- A scene whose step is over at its beginning, and during which nothing comes. -/
def Act.spent (begun : Nat) (answer : Answer) : Act := ⟨begun, .over answer, none, [], none, []⟩

/-- Such a scene takes one round, in which only the bench goes on. -/
theorem Act.run_spent (begun : Nat) (answer : Answer) (w : World) :
    (Act.spent begun answer).run roundLimit w
      = ({ Act.spent begun answer with ended := some w.now }, (goOn w).2) := by
  obtain ⟨limit, hlimit⟩ := Nat.exists_eq_succ_of_ne_zero (by decide : roundLimit ≠ 0)
  rw [hlimit]
  rfl

/-- A step that is over at once and changes nothing is fruitless. -/
theorem fruitless_of_unchanged (h : start step w = (.over answer, w)) : Fruitless w step answer where
  unchanged := h
  afterwards := by
    have hbegin : Scene.enact ⟨step, []⟩ w = (Act.spent w.now answer, w) := by
      show ((⟨w.now, (start step w).1, none, [], none, []⟩ : Act), (start step w).2) = _
      rw [h]
      rfl
    show (((Scene.enact ⟨step, []⟩ w).1.run roundLimit (Scene.enact ⟨step, []⟩ w).2).1.result,
      ((Scene.enact ⟨step, []⟩ w).1.run roundLimit (Scene.enact ⟨step, []⟩ w).2).2) = _
    rw [hbegin, Act.run_spent]
    rfl

/-! ## Refused requests -/

/-- Whether the token of a caller has been raised. -/
def World.raised (w : World) (token : Option String) : Bool := token.any (· ∈ w.cancelled)

/-- Whatever is to be done with what is in the slot is done with the adapter. -/
theorem bind_inSlot? {α : Type} (hslot : w.slots.get? slot = some n) (hradio : w.things.get? n = some (.radio r))
    (next : Option (Nat × Thing) → Bench α) : (inSlot? slot >>= next) w = next (some (n, .radio r)) w := by
  have hnumber : number? slot w = (some n, w) := by
    rw [← hslot]
    rfl
  have hthing : thing? n w = (some (.radio r), w) := by
    rw [← hradio]
    rfl
  have hfound : inSlot? slot w = (some (n, .radio r), w) := by
    unfold inSlot?
    rw [run_bind, hnumber]
    dsimp only
    rw [run_bind, hthing]
    rfl
  rw [run_bind, hfound]

/-- A request for the adapter is begun by it. -/
theorem start_ask (hslot : w.slots.get? slot = some n) (hradio : w.things.get? n = some (.radio r)) (request : Request)
    (token : Option String) : start (.ask slot request token) w = beginCall n r request token w :=
  bind_inSlot? hslot hradio _

/-- A time between scans is set by the adapter. -/
theorem use_setScanPeriod (hslot : w.slots.get? slot = some n) (hradio : w.things.get? n = some (.radio r))
    (period : Duration) : use slot (.setScanPeriod period) w = useRadio n r (.setScanPeriod period) w :=
  bind_inSlot? hslot hradio _

/-- A request that does not start is over at once. -/
theorem beginCall_of_refused {request : Request} {token : Option String} {e : Error}
    (h : Call.start r.adapter w.now (w.raised token) request = .error e) :
    beginCall n r request token w = (.over (callAnswer r.adapter request (.error e)), w) := by
  have hget : (get : Bench World) w = (w, w) := rfl
  have hraised : isCancelled token w = (w.raised token, w) := rfl
  unfold beginCall
  rw [run_bind, hget, run_bind, hraised]
  simp only [h]
  rfl

/-- The bench when a request has started, and its command is to be sent. -/
def World.begun (w : World) (n : Nat) (r : Radio) (started : Started) : World :=
  (tell started.lines (put n (.radio (r.withAdapter started.adapter)) w).2).2

/-- **A request that starts is under way from then on**, and its command is sent; or the clock cannot tell its deadline,
and the caller panics. -/
theorem beginCall_of_started {request : Request} {token : Option String} {started : Started}
    (h : Call.start r.adapter w.now (w.raised token) request = .ok started) :
    beginCall n r request token w =
      if started.call.deadline?.all (·.fits w.horizon) then
        (.calling n request token started.call
            (dispatchCommand r.route started.call started.command (w.begun n r started)).1,
          (dispatchCommand r.route started.call started.command (w.begun n r started)).2)
      else (.panicked, w.begun n r started) := by
  have hget : (get : Bench World) w = (w, w) := rfl
  have hraised : isCancelled token w = (w.raised token, w) := rfl
  unfold beginCall
  rw [run_bind, hget, run_bind, hraised]
  simp only [h]
  rw [run_bind, run_bind, run_bind]
  show (if started.call.deadline?.all (·.fits w.horizon) then _ else pure .panicked : Bench Job)
    (w.begun n r started) = _
  split
  · rfl
  · rfl

/-- A time between scans that is refused is answered at once. -/
theorem start_setScanPeriod (hslot : w.slots.get? slot = some n) (hradio : w.things.get? n = some (.radio r))
    {period : Duration} {e : Error} (h : r.adapter.setScanPeriod period = .error e) :
    start (.use slot (.setScanPeriod period)) w
      = (.over (.scanPeriod (.error (.coprocessor e)) r.adapter.scanPeriod), w) := by
  have huse : useRadio n r (.setScanPeriod period) w
      = (.scanPeriod (.error (.coprocessor e)) r.adapter.scanPeriod, w) := by
    simp only [useRadio, h]
    rfl
  have hstart : start (.use slot (.setScanPeriod period)) w
      = (Job.over (use slot (.setScanPeriod period) w).1, (use slot (.setScanPeriod period) w).2) :=
    bind_inSlot? hslot hradio _
  rw [hstart, use_setScanPeriod hslot hradio, huse]

/-- **Refused requests leave no trace.** A request to the adapter in a slot that is refused is over at once, changes
nothing on the bench, and comes to nothing later; so is a time between scans that is too short or too long. Any other
request to the adapter is not over at once: it is under way, or its caller panics. -/
theorem refused_fruitless (hslot : w.slots.get? slot = some n) (hradio : w.things.get? n = some (.radio r)) :
    (∀ request token e, Call.Refuses r.adapter (w.raised token) request e →
      Fruitless w (.ask slot request token) (callAnswer r.adapter request (.error e))) ∧
    (∀ period : Duration, period.nanos < 1000000000 ∨ 60000000000 < period.nanos →
      Fruitless w (.use slot (.setScanPeriod period))
        (.scanPeriod (.error (.coprocessor (.invalidArgument (.scanPeriod period)))) r.adapter.scanPeriod)) ∧
    (∀ request token, (∃ answer, (start (.ask slot request token) w).1 = .over answer) ↔
      ∃ e, Call.Refuses r.adapter (w.raised token) request e) := by
  refine ⟨?_, ?_, ?_⟩
  · intro request token e hrefuses
    apply fruitless_of_unchanged
    rw [start_ask hslot hradio]
    exact beginCall_of_refused (hrefuses.start_eq w.now)
  · intro period hout
    apply fruitless_of_unchanged
    exact start_setScanPeriod hslot hradio (Adapter.setScanPeriod_eq_error_iff.mpr ⟨hout, rfl⟩)
  · intro request token
    rw [start_ask hslot hradio]
    constructor
    · rintro ⟨answer, hover⟩
      cases hstart : Call.start r.adapter w.now (w.raised token) request with
      | error e => exact ⟨e, Call.start_eq_error_iff.mp hstart⟩
      | ok started =>
          rw [beginCall_of_started hstart] at hover
          split at hover
          · contradiction
          · contradiction
    · rintro ⟨e, hrefuses⟩
      rw [beginCall_of_refused (hrefuses.start_eq w.now)]
      exact ⟨_, rfl⟩

/-! ## A bench on which much is refused -/

/-- An adapter that is disconnecting. -/
def busyRadio : Radio :=
  .new (.new { Course.radio with session := ⟨.disconnecting, some Course.network, none⟩ } false 0) .scripted

/-- It is in the slot `lab`; the token `stop` has been raised. -/
def busyBench : World :=
  { World.empty true with
    script := Script.empty.respond .listAccessPoints ⟨.completed, []⟩
    things := Table.empty.set 0 (.radio busyRadio)
    slots := Table.empty.set "lab" 0
    fresh := 1
    cancelled := ["stop"] }

/-- A connect and a disconnect are refused there for the state of the session, a scan for the token, and a time between
scans because it is too short. -/
theorem refused_fruitless_busy :
    Fruitless busyBench (.ask "lab" (.connect "guest" "visitor99" ⟨0⟩) none)
      (callAnswer busyRadio.adapter (.connect "guest" "visitor99" ⟨0⟩) (.error (.stateConflict .disconnecting))) ∧
    Fruitless busyBench (.ask "lab" (.disconnect true) none)
      (callAnswer busyRadio.adapter (.disconnect true) (.error (.stateConflict .disconnecting))) ∧
    Fruitless busyBench (.ask "lab" (.scan ⟨0⟩) (some "stop"))
      (callAnswer busyRadio.adapter (.scan ⟨0⟩) (.error .cancelled)) ∧
    Fruitless busyBench (.use "lab" (.setScanPeriod ⟨999999999⟩))
      (.scanPeriod (.error (.coprocessor (.invalidArgument (.scanPeriod ⟨999999999⟩)))) busyRadio.adapter.scanPeriod) := by
  obtain ⟨hasked, hset, -⟩ := @refused_fruitless busyBench "lab" 0 busyRadio rfl rfl
  refine ⟨?_, ?_, ?_, ?_⟩
  · exact hasked _ none _ (.busyConnect (by decide) rfl (.inr rfl))
  · exact hasked _ none _ (.busyDisconnect rfl)
  · exact hasked _ (some "stop") _ (.raisedScan (by decide))
  · exact hset ⟨999999999⟩ (.inl (by decide))

end Bench

end Peripherals
