import Peripherals.Proofs.Call.Refusal
import Peripherals.Proofs.Config.Guards

/-!
# `Proofs.Call.Tuning` — the radio settings of an adapter

Three settings of an adapter can be changed while it is in use, each in a way of its own. A time between scans that is
out of its range is refused, a retry count that is too small is raised, and an antenna counts as chosen only once the
coprocessor has agreed, though the command goes out before that. Nothing else that is done with an adapter touches the
three of them.

* `Desk.noted` — what is noted along a history, and `Desk.last_noted`, a setting that follows the last of it;
* `Desk.accepted?`, `Desk.wished?`, `Desk.agreed?`, `Desk.chosen?`, `Desk.sent?` — what there is to note;
* `Desk.Tuned`, `Desk.tuned_of_created` — the settings after any history.
-/

namespace Peripherals

namespace Coprocessor

/-- The payload of a command that chooses an antenna. -/
def Command.antennaPayload? (c : Command) : Option Bytes :=
  if c.wirelessFunction? = some .setAntenna then some c.payload else none

/-- Only a request that chooses an antenna has such a payload. -/
theorem Command.antennaPayload?_wireless (request : Request) (payload : Bytes) :
    (Command.wireless request.function payload).antennaPayload? =
      if request.function = .setAntenna then some payload else none := by
  cases request with
  | connect ssid password timeout => rfl
  | disconnect turnOff => rfl
  | scan timeout => rfl
  | startInterface => rfl
  | stopInterface => rfl
  | setAntenna antenna persist => rfl

/-- **A change of an adapter that tunes it like this**: to a time between scans, to a retry count unless it is too
small, and to an antenna; or leaves each of them as it was. -/
structure Adapter.Retuned (a : Adapter) (period : Option Duration) (count : Option UInt32) (antenna : Option Antenna)
    (a' : Adapter) : Prop where
  scanPeriod : a'.scanPeriod = period.elim a.scanPeriod id
  retryCount : a'.retryCount = count.elim a.retryCount fun count => max count minRetryCount
  antenna : a'.antenna = antenna.elim a.antenna id

theorem Adapter.retuned_advance (a : Adapter) (t : Transition) : a.Retuned none none none (a.advance t) := by
  rw [advance, publish_eq]
  exact ⟨rfl, rfl, rfl⟩

namespace Desk

/-! ## Notes along a history -/

variable {β γ δ : Type}

/-- **What is noted along a history.** What there is to note depends on the adapter as it is then. -/
def noted (note : Desk → Doing → Option β) (d : Desk) : List Doing → List β
  | [] => []
  | doing :: rest => (note d doing).toList ++ (d.undergo doing).noted note rest

/-- **A setting that every note changes, and nothing else, follows the last note.** -/
theorem last_noted (note : Desk → Doing → Option β) (setting : Desk → γ) {f : β → γ}
    (hstep : ∀ d doing, setting (d.undergo doing) = (note d doing).elim (setting d) f) (d : Desk)
    (history : List Doing) : setting (d.after history) = (d.noted note history).getLast?.elim (setting d) f := by
  induction history generalizing d with
  | nil => rfl
  | cons doing rest ih =>
      have hafter : d.after (doing :: rest) = (d.undergo doing).after rest := rfl
      rw [hafter, ih, hstep, noted, List.getLast?_append]
      -- The last note is one of the rest, or it is the first, or there is none.
      cases (noted note (d.undergo doing) rest).getLast? with
      | some b => rfl
      | none =>
          cases note d doing with
          | none => rfl
          | some b => rfl

/-- What there is to note at once, if anything. -/
theorem filterMap_toList (o : Option β) (f : β → Option γ) : o.toList.filterMap f = (o.bind f).toList := by
  cases o with
  | none => rfl
  | some b =>
      rw [Option.toList_some, List.filterMap_cons, List.filterMap_nil, Option.bind_some]
      cases f b with
      | none => rfl
      | some c => rfl

/-- Two ways of noting that agree at every step agree along a history. -/
theorem filterMap_noted {note : Desk → Doing → Option β} {note' : Desk → Doing → Option γ} {f : β → Option δ}
    {f' : γ → Option δ} (hstep : ∀ d doing, (note d doing).bind f = (note' d doing).bind f') (d : Desk)
    (history : List Doing) : (d.noted note history).filterMap f = (d.noted note' history).filterMap f' := by
  induction history generalizing d with
  | nil => rfl
  | cons doing rest ih =>
      rw [noted, noted, List.filterMap_append, List.filterMap_append, ih, filterMap_toList, filterMap_toList, hstep]

/-! ## Settings -/

/-- A time between scans that is accepted. -/
def accepted? (d : Desk) : Doing → Option Duration
  | .setScanPeriod period =>
    match d.adapter.setScanPeriod period with
    | .ok _ => some period
    | .error _ => none
  | _ => none

/-- A retry count that is requested. -/
def wished? (_ : Desk) : Doing → Option UInt32
  | .setRetryCount count => some count
  | _ => none

/-- An antenna that is asked for, and whether it is to stay; with whatever answer, and even if it is none. -/
def chosen? (_ : Desk) : Doing → Option (Antenna × Bool)
  | .move (.ask (.setAntenna antenna persist) _ _) => some (antenna, persist)
  | _ => none

/-- The antenna of a choice that ends with a success. -/
def agreed? (d : Desk) : Doing → Option Antenna
  | .move (.turn n now cancelled reply first) =>
    match d.call? n with
    | none => none
    | some call =>
      match Call.turn d.adapter now cancelled reply call first with
      | .over _ result _ => call.agreed? result
      | _ => none
  | _ => none

/-- The command that goes out. -/
def sent? (d : Desk) : Doing → Option Command
  | .move (.ask request now cancelled) =>
    match Call.start d.adapter now cancelled request with
    | .ok started => some started.command
    | .error _ => none
  | _ => none

/-! ## One step -/

/-- A move tunes nothing but the antenna, and only as the end of a choice that the coprocessor has agreed to. -/
theorem retuned_act (d : Desk) (m : Move) : d.adapter.Retuned none none (d.agreed? (.move m)) (d.act m).adapter := by
  cases m with
  | ask request now cancelled =>
      simp only [act, agreed?]
      split
      · exact ⟨rfl, rfl, rfl⟩
      · next h =>
        rcases Call.start_cases h with ⟨_, _, _, s, -, -, hadapter, -⟩ | ⟨_, s, -, -, hadapter, -⟩ | ⟨hadapter, -, -⟩
        · exact hadapter ▸ ⟨rfl, rfl, rfl⟩
        · exact hadapter ▸ ⟨rfl, rfl, rfl⟩
        · exact hadapter ▸ ⟨rfl, rfl, rfl⟩
  | turn n now cancelled reply first =>
      cases hcall : d.call? n with
      | none =>
          simp only [act, agreed?, hcall]
          exact ⟨rfl, rfl, rfl⟩
      | some call =>
          have houtcome := Call.outcome_turn d.adapter now cancelled reply call first
          simp only [act, agreed?, hcall]
          generalize Call.turn d.adapter now cancelled reply call first = turn at houtcome
          cases houtcome with
          | wait => exact ⟨rfl, rfl, rfl⟩
          | goOn _ => exact ⟨rfl, rfl, rfl⟩
          | done t _ hagreed =>
              simp only [hagreed]
              exact d.adapter.retuned_advance t
          | chosen hagreed =>
              simp only [hagreed]
              exact ⟨rfl, rfl, rfl⟩
  | event e wall =>
      simp only [act, agreed?, Adapter.dispatch]
      split
      · exact d.adapter.retuned_advance _
      · exact ⟨rfl, rfl, rfl⟩

/-- **A step tunes the adapter as it says.** -/
theorem retuned_undergo (d : Desk) (doing : Doing) :
    d.adapter.Retuned (d.accepted? doing) (d.wished? doing) (d.agreed? doing) (d.undergo doing).adapter := by
  cases doing with
  | move m => exact d.retuned_act m
  | setScanPeriod period =>
      simp only [undergo, accepted?, Adapter.setScanPeriod]
      by_cases hallowed : Adapter.allowsScanPeriod period = true
      · simp only [hallowed, if_true]
        exact ⟨rfl, rfl, rfl⟩
      · simp only [hallowed]
        exact ⟨rfl, rfl, rfl⟩
  | setRetryCount count => exact ⟨rfl, rfl, rfl⟩
  | askStation =>
      simp only [undergo, Adapter.stationMac]
      split
      · exact ⟨rfl, rfl, rfl⟩
      · exact ⟨rfl, rfl, rfl⟩
  | askSoftAp =>
      simp only [undergo, Adapter.softApMac]
      split
      · exact ⟨rfl, rfl, rfl⟩
      · exact ⟨rfl, rfl, rfl⟩

/-- What is accepted is in range. -/
theorem allows_of_accepted {d : Desk} {doing : Doing} {period : Duration} (h : d.accepted? doing = some period) :
    Adapter.allowsScanPeriod period = true := by
  cases doing with
  | setScanPeriod requested =>
      simp only [accepted?, Adapter.setScanPeriod] at h
      split at h
      · next hset =>
        split at hset
        · next hallowed => exact Option.some.inj h ▸ hallowed
        · contradiction
      · contradiction
  | move m => contradiction
  | setRetryCount count => contradiction
  | askStation => contradiction
  | askSoftAp => contradiction

/-- The adapter is tuned to a time between scans that is in range, whatever is done with it. -/
theorem allows_after {d : Desk} (h : Adapter.allowsScanPeriod d.adapter.scanPeriod = true) (history : List Doing) :
    Adapter.allowsScanPeriod (d.after history).adapter.scanPeriod = true := by
  induction history generalizing d with
  | nil => exact h
  | cons doing rest ih =>
      refine ih ?_
      rw [(d.retuned_undergo doing).scanPeriod]
      cases haccepted : d.accepted? doing with
      | none => exact h
      | some period => exact allows_of_accepted haccepted

/-- **A command that chooses an antenna goes out for each choice of one**, and for nothing else. -/
theorem antennaPayload?_sent (d : Desk) (doing : Doing) :
    (d.sent? doing).bind Command.antennaPayload? = (d.chosen? doing).bind fun c => antennaRequest? c.1 c.2 := by
  cases doing with
  | move m =>
      cases m with
      | ask request now cancelled =>
          cases hstart : Call.start d.adapter now cancelled request with
          | ok started =>
              obtain ⟨payload, hpayload, hcommand⟩ := Call.command_of_start hstart
              simp only [sent?, hstart, Option.bind_some, hcommand, Command.antennaPayload?_wireless]
              cases request with
              | setAntenna antenna persist => exact hpayload.symm
              | connect ssid password timeout => rfl
              | disconnect turnOff => rfl
              | scan timeout => rfl
              | startInterface => rfl
              | stopInterface => rfl
          | error e =>
              -- The only choice that is refused is that of no antenna.
              simp only [sent?, hstart, Option.bind_none]
              cases Call.start_eq_error_iff.mp hstart with
              | noAntenna => rfl
              | noName => rfl
              | raisedConnect _ _ => rfl
              | busyConnect _ _ _ => rfl
              | busyDisconnect _ => rfl
              | raisedScan _ => rfl
      | turn n now cancelled reply first => rfl
      | event e wall => rfl
  | setScanPeriod period => rfl
  | setRetryCount count => rfl
  | askStation => rfl
  | askSoftAp => rfl

/-! ## After any history -/

/-- **The settings of an adapter after a history**, which began under this configuration. -/
structure Tuned (config : WirelessConfig) (d : Desk) (history : List Doing) : Prop where
  /-- The time between scans is never shorter than a second or longer than a minute. -/
  inRange : 1000000000 ≤ (d.after history).adapter.scanPeriod.nanos ∧
    (d.after history).adapter.scanPeriod.nanos ≤ 60000000000
  scanPeriod : (d.after history).adapter.scanPeriod =
    (d.noted accepted? history).getLast?.getD (Config.scanPeriod config)
  retryCount : (d.after history).adapter.retryCount =
    max ((d.noted wished? history).getLast?.getD config.maximumRetryCount) 3
  antenna : (d.after history).adapter.antenna = (d.noted agreed? history).getLast?.getD .unknown
  /-- Each choice of an antenna, and nothing else, has sent its payload, whatever was answered. -/
  payloads : ((d.noted sent? history).filterMap Command.antennaPayload?).map some =
    ((d.noted chosen? history).filter (·.1 ≠ .unknown)).map fun c => antennaRequest? c.1 c.2

/-- The choices of an antenna are those that can be put into a command. -/
theorem map_some_antennaRequests (choices : List (Antenna × Bool)) :
    (choices.filterMap fun c => antennaRequest? c.1 c.2).map some =
      (choices.filter (·.1 ≠ .unknown)).map fun c => antennaRequest? c.1 c.2 := by
  induction choices with
  | nil => rfl
  | cons c rest ih =>
      obtain ⟨antenna, persist⟩ := c
      cases antenna with
      | unknown => exact ih
      | onBoard => exact congrArg (_ :: ·) ih
      | external => exact congrArg (_ :: ·) ih

/-- What an adapter is tuned to at first. -/
theorem retuned_of_created {config : WirelessConfig} {runtime : Bool} {wall : Nat} {a : Adapter}
    (hcreated : Adapter.create config runtime wall = .ok a) :
    Adapter.allowsScanPeriod a.scanPeriod = true ∧ a.scanPeriod = Config.scanPeriod config ∧
      a.retryCount = max config.maximumRetryCount Adapter.minRetryCount ∧ a.antenna = .unknown := by
  simp only [Adapter.create] at hcreated
  split at hcreated
  · contradiction
  · split at hcreated
    · contradiction
    · next hallowed =>
      obtain rfl := Except.ok.inj hcreated
      exact ⟨by simpa using hallowed, rfl, rfl, rfl⟩

/-- **The settings of an adapter stay in range and follow what is accepted.** Whatever the configuration, if it makes an
adapter, and whatever is done with the adapter, in any order and with any answers of the coprocessor: the time between
scans is in its range, and is the last that was accepted; the retry count is the last that was requested, or three if
that was less; the antenna is the last that the coprocessor agreed to; and the commands that choose an antenna are
those of the choices. -/
theorem tuned_of_created {config : WirelessConfig} {runtime : Bool} {wall : Nat} {a : Adapter}
    (hcreated : Adapter.create config runtime wall = .ok a) (history : List Doing) :
    Tuned config (idle a) history := by
  obtain ⟨hallowed, hperiod, hcount, hantenna⟩ := retuned_of_created hcreated
  refine
    { inRange := Adapter.allowsScanPeriod_eq_true.mp (allows_after hallowed history)
      scanPeriod := ?_
      retryCount := ?_
      antenna := ?_
      payloads := ?_ }
  · have hlast := last_noted accepted? (·.adapter.scanPeriod) (fun d doing => (d.retuned_undergo doing).scanPeriod) (idle a)
    refine (hlast history).trans ?_
    cases ((idle a).noted accepted? history).getLast? with
    | none => exact hperiod
    | some period => rfl
  · have hlast := last_noted wished? (·.adapter.retryCount) (fun d doing => (d.retuned_undergo doing).retryCount) (idle a)
    refine (hlast history).trans ?_
    cases ((idle a).noted wished? history).getLast? with
    | none => exact hcount
    | some count => rfl
  · have hlast := last_noted agreed? (·.adapter.antenna) (fun d doing => (d.retuned_undergo doing).antenna) (idle a)
    refine (hlast history).trans ?_
    cases ((idle a).noted agreed? history).getLast? with
    | none => exact hantenna
    | some antenna => rfl
  · rw [filterMap_noted antennaPayload?_sent, map_some_antennaRequests]

/-- A time between scans is accepted and another one is not, a retry count is raised, and of three choices of an antenna
the first is agreed to, the second is none, and the third is refused. -/
def trial : List Doing :=
  [.setScanPeriod (.ofMillis 2000), .setScanPeriod .zero, .setRetryCount 1,
    .move (.ask (.setAntenna .external true) 0 false), .move (.ask (.setAntenna .unknown true) 1 false),
    .move (.ask (.setAntenna .onBoard false) 2 false), .move (.turn 0 3 false (some (.ok ⟨.completed, []⟩))),
    .move (.turn 1 4 false (some (.ok ⟨.failure, []⟩)))]

/-- The settings of an adapter after that. -/
theorem tuned_of_created_trial :
    ∃ a, Adapter.create Config.standard.wireless true 0 = .ok a ∧ Tuned Config.standard.wireless (idle a) trial ∧
      ((idle a).after trial).adapter.scanPeriod = .ofMillis 2000 ∧
      ((idle a).after trial).adapter.retryCount = 3 ∧ ((idle a).after trial).adapter.antenna = .external ∧
      ((idle a).noted sent? trial).filterMap Command.antennaPayload? = [[1, 1], [0, 0]] :=
  ⟨_, rfl, tuned_of_created (show Adapter.create Config.standard.wireless true 0 = _ from rfl) trial, rfl, rfl, rfl,
    rfl⟩

end Desk

end Coprocessor

namespace Bench

open Coprocessor

/-! ## On a bench -/

/-- A scripted coprocessor puts every command with a function on record. -/
theorem commands_receive (s : Script) (function : Function) (payload : Bytes) (now : Nat) :
    (s.receive (.wireless function payload) now).2.commands = s.commands ++ [.wireless function payload] := by
  have hfunction : (Command.wireless function payload).wirelessFunction? = some function :=
    Function.ofWord?_eq_some.mpr rfl
  simp only [Script.receive, Command.wireless] at hfunction ⊢
  simp only [hfunction]
  split
  · rfl
  · simp only [Script.collect]
    split
    · rfl
    · split
      · rfl
      · rfl

/-- **A choice of an antenna sends its command at once**, if it starts, and nothing otherwise. -/
theorem commands_of_chosen {w : World} {n : Nat} {r : Radio} (hroute : r.route = .scripted) (antenna : Antenna)
    (persist : Bool) (token : Option String) :
    (beginCall n r (.setAntenna antenna persist) token w).2.script.commands =
      w.script.commands ++ ((antennaRequest? antenna persist).map (Command.wireless .setAntenna)).toList := by
  cases hstart : Call.start r.adapter w.now (w.raised token) (.setAntenna antenna persist) with
  | error e =>
      rw [beginCall_of_refused hstart]
      cases Call.start_eq_error_iff.mp hstart
      exact (List.append_nil _).symm
  | ok started =>
      obtain ⟨payload, hpayload, hcommand⟩ := Call.command_of_start hstart
      have hchosen : antennaRequest? antenna persist = some payload := hpayload
      have hcall : started.call = .choosing antenna persist := by
        simp only [Call.start, hchosen] at hstart
        rw [← Except.ok.inj hstart]
      rw [beginCall_of_started hstart, hroute, hcall, hcommand, hchosen]
      show (dispatchCommand _ _ _ _).2.script.commands = _
      exact commands_receive w.script .setAntenna payload w.now

end Bench

end Peripherals
