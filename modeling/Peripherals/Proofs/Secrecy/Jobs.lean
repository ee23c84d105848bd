import Peripherals.Bench.Run
import Peripherals.Proofs.Secrecy.Tasks
import Peripherals.Proofs.Wire.Reader

/-!
# `Proofs.Secrecy.Jobs` — requests that differ in a password

A password comes in with a request to connect and goes out with the command of that request; in between, a job keeps
the request. Requests, steps, jobs and scenes look alike if they differ at most in the bytes of passwords, with as
many bytes in each. Requests that look alike are refused alike or start alike, with commands that look alike
(`Call.start_alike`), and jobs that look alike take the same turns (`Job.inStep_turn`).
-/

namespace Peripherals

open Veiled Coprocessor

/-! ## Requests that differ in a password -/

namespace Coprocessor

/-- **Two requests that look alike**: they are the same but for the bytes of a password. -/
inductive Request.Alike : Request → Request → Prop
  | same (request : Request) : Alike request request
  | connect (ssid : String) {password password' : String} (timeout : Duration)
      (hlength : password'.utf8ByteSize = password.utf8ByteSize) :
      Alike (.connect ssid password timeout) (.connect ssid password' timeout)

theorem length_encode_credentials (ssid password : String) :
    (Credentials.encode ⟨ssid, password⟩).length = 4 + ssid.utf8ByteSize + (4 + password.utf8ByteSize) := by
  have hbytes : ∀ s : String, (Bytes.ofText s).length = s.utf8ByteSize := fun _ => rfl
  rw [Credentials.encode, List.length_append, Wire.length_putText, Wire.length_putText, hbytes, hbytes]

/-- Passwords of one length make for commands that look alike. -/
theorem connect_veiled (ssid : String) {password password' : String}
    (hlength : password'.utf8ByteSize = password.utf8ByteSize) :
    (Command.wireless .connect (Credentials.encode ⟨ssid, password'⟩)).veiled =
      (Command.wireless .connect (Credentials.encode ⟨ssid, password⟩)).veiled := by
  simp only [Command.wireless, Command.veiled, length_encode_credentials, hlength]

/-- A command as diagnostics show it has nothing of the payload but its length. -/
theorem Command.describe_veiled (c : Command) : c.veiled.describe = c.describe := by
  have hlength : c.veiled.payload.length = c.payload.length := Bytes.length_zeros _
  unfold describe
  rw [hlength]
  rfl

/-- **Requests that look alike start in the same way**, but for the bytes of the command. -/
theorem Call.start_alike {request request' : Request} (hr : request.Alike request') (a : Adapter) (now : Nat)
    (cancelled : Bool) :
    (∃ e, start a now cancelled request = .error e ∧ start a now cancelled request' = .error e) ∨
      ∃ started c', start a now cancelled request = .ok started ∧
        start a now cancelled request' = .ok { started with command := c' } ∧ c'.veiled = started.command.veiled := by
  cases hr with
  | same =>
    cases hstart : start a now cancelled request with
    | error e => exact .inl ⟨e, rfl, rfl⟩
    | ok started => exact .inr ⟨started, started.command, rfl, rfl, rfl⟩
  | connect ssid timeout hlength =>
    rename_i password password'
    by_cases hssid : ssid.isEmpty = true
    · exact .inl ⟨.invalidArgument .ssid, by simp only [start, if_pos hssid], by simp only [start, if_pos hssid]⟩
    by_cases hcancelled : cancelled = true
    · refine .inl ⟨.cancelled, ?_, ?_⟩
      · simp only [start, if_neg hssid, if_pos hcancelled]
      · simp only [start, if_neg hssid, if_pos hcancelled]
    cases hbegin : a.session.beginConnect with
    | error e =>
      refine .inl ⟨e, ?_, ?_⟩
      · simp only [start, if_neg hssid, if_neg hcancelled, hbegin]
      · simp only [start, if_neg hssid, if_neg hcancelled, hbegin]
    | ok session =>
      let command (password : String) : Command := .wireless .connect (Credentials.encode ⟨ssid, password⟩)
      refine .inr ⟨⟨{ a with session }, .joining ssid (.start timeout now), command password,
        [⟨.info, s!"Connecting to {ssid}"⟩]⟩, command password', ?_, ?_, ?_⟩
      · simp only [start, if_neg hssid, if_neg hcancelled, hbegin, command]
      · simp only [start, if_neg hssid, if_neg hcancelled, hbegin, command]
      · exact connect_veiled ssid hlength

end Coprocessor

namespace Bench

variable {α β : Type}

/-! ## Jobs -/

/-- **Two steps that look alike**: they are the same but for the bytes of a password. -/
inductive Step.Alike : Step → Step → Prop
  | same (step : Step) : Alike step step
  | ask (slot : Slot) {request request' : Request} (token : Option String) (hr : request.Alike request') :
      Alike (.ask slot request token) (.ask slot request' token)

/-- **Two jobs that look alike**: they are the same but for the bytes of a password. -/
inductive Job.Alike : Job → Job → Prop
  | same (job : Job) : Alike job job
  | calling (radio : Nat) {request request' : Request} (token : Option String) (call : Call) (carrier : Carrier)
      (hr : request.Alike request') :
      Alike (.calling radio request token call carrier) (.calling radio request' token call carrier)

namespace Job

variable {j j' : Job}

theorem Alike.answer?_eq (hj : j.Alike j') : j'.answer? = j.answer? := by
  cases hj with
  | same => rfl
  | calling => rfl

theorem Alike.uses_eq (hj : j.Alike j') : j'.uses = j.uses := by
  cases hj with
  | same => rfl
  | calling => rfl

theorem Alike.wakes_eq (hj : j.Alike j') : j'.wakes = j.wakes := by
  cases hj with
  | same => rfl
  | calling => rfl

end Job

theorem callAnswer_alike {request request' : Request} (hr : request.Alike request') (a : Adapter)
    (result : Except Error Success) : callAnswer a request' result = callAnswer a request result := by
  cases hr with
  | same => rfl
  | connect => rfl

theorem blind_isCancelled (token : Option String) : Blind (isCancelled token) := blind_public fun _ _ _ _ => rfl

theorem inStep_dispatchCommand (route : Route) (call : Call) {c c' : Command} (hc : c'.veiled = c.veiled) :
    InStep Eq (dispatchCommand route call c) (dispatchCommand route call c') := by
  have herrand : Errand.veiled ⟨route, .unsent c'⟩ = Errand.veiled ⟨route, .unsent c⟩ := by
    simp only [Errand.veiled, hc]
  unfold dispatchCommand
  split
  · exact blind_freshNumber.same fun number => (inStep_setErrand number herrand).same fun _ =>
      (blind_spawn _).same fun _ => blind_pure
  · exact blind_freshNumber.same fun number => (inStep_setErrand number herrand).same fun _ =>
      (blind_spawn _).same fun _ => blind_pure
  · exact (inStep_transmit .scripted hc).same fun _ => blind_pure

theorem inStep_beginCall (n : Nat) (r : Radio) {request request' : Request} (hr : request.Alike request')
    (token : Option String) :
    InStep Job.Alike (beginCall n r request token) (beginCall n r request' token) := by
  refine inStep_read (fun _ _ _ _ => rfl) fun w => (blind_isCancelled token).same fun cancelled => ?_
  rcases Call.start_alike hr r.adapter w.now cancelled with ⟨e, he, he'⟩ | ⟨started, c', hs, hs', hc⟩
  · simp only [he, he', callAnswer_alike hr]
    exact inStep_pure (.same _)
  · simp only [hs, hs']
    refine (blind_put ..).same fun _ => (blind_tell _).same fun _ => inStep_read (fun _ _ _ _ => rfl) fun begun => ?_
    split
    · exact (inStep_dispatchCommand _ _ hc).same fun carrier => inStep_pure (.calling n token started.call carrier hr)
    · exact inStep_pure (.same _)

theorem Carrier.blind_look (carrier : Carrier) : Blind carrier.look := by
  cases carrier with
  | own transit => exact (blind_follow transit).same fun _ => blind_pure
  | errand number =>
    refine inStep_get fun w w' hw => ?_
    rcases hw.errand_cases number with hsame | ⟨route, c, c', he, he', -⟩
    · rw [hsame]
      split
      · exact blind_pure
      · exact blind_pure
    · rw [he, he']
      exact blind_pure

theorem Carrier.blind_settle (carrier : Carrier) : Blind carrier.settle := by
  cases carrier with
  | own transit => exact blind_pure
  | errand number =>
    refine ⟨fun w w' hw => ⟨rfl, ?_⟩⟩
    simp only [settle, run_modify]
    rcases hw.errand_cases number with hsame | ⟨route, c, c', he, he', -⟩
    · rw [hsame]
      split
      · obtain ⟨hrecords, hcommands, herrands⟩ := hw
        have herase := congrArg (·.erase number) herrands
        exact .intro hrecords hcommands ((Table.map_erase ..).trans (herase.trans (Table.map_erase ..).symm))
      · exact hw
    · rw [he, he']
      exact hw

theorem inStep_callTurn (n : Nat) {request request' : Request} (hr : request.Alike request') (token : Option String)
    (call : Call) (carrier : Carrier) :
    InStep (Option.Rel Job.Alike) (callTurn n request token call carrier) (callTurn n request' token call carrier) := by
  refine carrier.blind_look.same fun looked => blind_thing?.same fun found => ?_
  obtain ⟨reply, carrier⟩ := looked
  dsimp only
  split
  · refine inStep_read (fun _ _ _ _ => rfl) fun w => (blind_isCancelled token).same fun cancelled => ?_
    split
    · exact inStep_pure .none
    · exact (blind_put ..).same fun _ => inStep_pure (.some (.calling n token _ carrier hr))
    · refine (blind_put ..).same fun _ => (blind_tell _).same fun _ => carrier.blind_settle.same fun _ => ?_
      rw [callAnswer_alike hr]
      exact inStep_pure (.some (.same _))
  · exact inStep_pure (.some (.same _))

/-! ## Steps -/

theorem blind_askDevice {attempt : Device → Attempt Device.Error α} (good : α → Answer)
    (hattempt : ∀ d, Blind (attempt d).run) : Blind (askDevice attempt good) := by
  refine inStep_read (fun _ _ _ _ => rfl) fun w => ?_
  split
  · exact blind_pure
  · exact (inStep_onBench (hattempt _)).same fun _ => blind_pure

theorem blind_convertOn (pin : String) {conversion : Converter → Pin → Attempt Bus.Error α} (good : α → Answer)
    (hconversion : ∀ c p, Blind (conversion c p).run) : Blind (convertOn pin conversion good) := by
  refine inStep_read (fun _ _ _ _ => rfl) fun w => ?_
  split
  · exact blind_pure
  · split
    · exact blind_pure
    · exact (inStep_onBench (hconversion _ _)).same fun _ => blind_pure

theorem blind_memberMac (n : Nat) : Blind (memberMac n) := by
  refine blind_thing?.same fun found => ?_
  split
  · exact blind_stationMac ..
  · exact blind_pure

theorem blind_mapM {f : α → Bench β} (hf : ∀ a, Blind (f a)) (as : List α) : Blind (as.mapM f) := by
  induction as with
  | nil => exact blind_pure
  | cons a as ih =>
    rw [List.mapM_cons]
    exact (hf a).same fun _ => ih.same fun _ => blind_pure

theorem blind_lookAtRegistry (index : Option Nat) : Blind (lookAtRegistry index) :=
  inStep_read (fun _ _ _ _ => rfl) fun _ => (blind_mapM (fun _ => blind_memberMac _) _).same fun _ => blind_pure

theorem blind_beginStop (slot : Slot) : Blind (beginStop slot) := by
  refine blind_inSlot?.same fun found => ?_
  split
  · split
    · exact (blind_put ..).same fun _ => blind_pure
    · exact blind_pure
  · exact blind_pure

/-- A step that no password is in. -/
theorem blind_start {step : Step} (hstep : ∀ slot request token, step ≠ .ask slot request token) :
    Blind (start step) := by
  cases step with
  | cue c => exact c.blind_play.same fun _ => blind_pure
  | make slot what => exact (blind_make ..).same fun _ => blind_pure
  | drop slot => exact (blind_drop slot).same fun _ => blind_pure
  | use slot u =>
    refine blind_inSlot?.same fun found => ?_
    split
    · exact inStep_read (fun _ _ _ _ => rfl) fun w => blind_pure
    · exact (blind_use ..).same fun _ => blind_pure
  | stopSampling slot => exact blind_beginStop slot
  | ask slot request token => exact absurd rfl (hstep slot request token)
  | advance ms => exact inStep_read (fun _ _ _ _ => rfl) fun w => blind_pure
  | awaitCancel token timeout => exact inStep_read (fun _ _ _ _ => rfl) fun w => blind_pure
  | lookUpPin name => exact (blind_askDevice _ fun d => Device.blind_findPin).same fun _ => blind_pure
  | lookAtDevice =>
    refine inStep_read (fun _ _ _ _ => rfl) fun w => ?_
    split
    · exact blind_pure
    · exact blind_pure
  | lookUpReservation pin => exact inStep_read (fun _ _ _ _ => rfl) fun w => blind_pure
  | convert pin => exact (blind_convertOn pin _ fun c p => Converter.blind_readRaw p).same fun _ => blind_pure
  | convertVoltage pin reference =>
    exact (blind_convertOn pin _ fun c p => c.blind_readVoltage p reference).same fun _ => blind_pure
  | lookAtRegistry index => exact (blind_lookAtRegistry index).same fun _ => blind_pure

theorem inStep_ask (slot : Slot) {request request' : Request} (hr : request.Alike request') (token : Option String) :
    InStep Job.Alike (start (.ask slot request token)) (start (.ask slot request' token)) := by
  refine blind_inSlot?.same fun found => ?_
  split
  · exact inStep_beginCall _ _ hr token
  · exact inStep_pure (.same _)

/-- **Steps that look alike** become jobs that look alike. -/
theorem inStep_start {step step' : Step} (hs : step.Alike step') : InStep Job.Alike (start step) (start step') := by
  cases hs with
  | ask slot token hr => exact inStep_ask slot hr token
  | same =>
    by_cases hask : ∃ slot request token, step = .ask slot request token
    · obtain ⟨slot, request, token, rfl⟩ := hask
      exact inStep_ask slot (.same request) token
    · refine (blind_start fun slot request token h => hask ⟨slot, request, token, h⟩).mono ?_
      rintro j _ rfl
      exact .same j

theorem blind_readingTurn (n : Nat) (reading : Reading) : Blind (readingTurn n reading) := by
  refine blind_thing?.same fun found => ?_
  split
  · refine inStep_read (fun _ _ _ _ => rfl) fun w => ?_
    refine (inStep_onBench (AnalogPort.blind_stepReading ..)).same fun moved => ?_
    cases moved with
    | blocked => exact blind_pure
    | moved reading => exact blind_pure
    | finished result => exact blind_pure
  · exact blind_pure

/-- **One turn of jobs that look alike.** -/
theorem Job.inStep_turn {j j' : Job} (hj : j.Alike j') : InStep (Option.Rel Job.Alike) j.turn j'.turn := by
  have hsame : ∀ x y : Option Job, x = y → Option.Rel Job.Alike x y := by
    rintro x _ rfl
    cases x with
    | none => exact .none
    | some j => exact .some (.same j)
  cases hj with
  | calling n token call carrier hr => exact inStep_callTurn n hr token call carrier
  | same =>
    cases j with
    | sleeping wake =>
      refine InStep.mono (inStep_read (fun _ _ _ _ => rfl) fun w => ?_) hsame
      split
      · exact blind_pure
      · exact blind_pure
    | awaiting token due =>
      refine InStep.mono ((blind_isCancelled _).same fun cancelled => ?_) hsame
      split
      · exact blind_pure
      · refine inStep_read (fun _ _ _ _ => rfl) fun w => ?_
        split
        · exact blind_pure
        · exact blind_pure
    | stopping n loop =>
      refine InStep.mono (blind_thing?.same fun found => ?_) hsame
      split
      · split
        · exact blind_pure
        · exact blind_pure
      · exact blind_pure
    | sampling n reading => exact (blind_readingTurn n reading).mono hsame
    | calling n request token call carrier => exact inStep_callTurn n (.same request) token call carrier
    | _ => exact inStep_pure .none

/-- Results that look alike, and the same answer to whether anything was done. -/
def Done (R : α → α → Prop) (x x' : α × Bool) : Prop := R x.1 x'.1 ∧ x'.2 = x.2

theorem inStep_done {R : α → α → Prop} {S : β → β → Prop} {m m' : Bench (α × Bool)} {f f' : α × Bool → Bench β}
    (hm : InStep (Done R) m m') (hf : ∀ a a' did, R a a' → InStep S (f (a, did)) (f' (a', did))) :
    InStep S (m >>= f) (m' >>= f') := by
  refine hm.bind fun x x' hx => ?_
  obtain ⟨a, _⟩ := x
  obtain ⟨a', did⟩ := x'
  obtain ⟨hR, rfl⟩ := hx
  exact hf a a' did hR

theorem Job.inStep_run {j j' : Job} (hj : j.Alike j') (fuel : Nat) :
    InStep (Done Job.Alike) (j.run fuel) (j'.run fuel) := by
  induction fuel generalizing j j' with
  | zero => exact inStep_pure ⟨hj, rfl⟩
  | succ fuel ih =>
    refine (Job.inStep_turn hj).bind fun next next' hnext => ?_
    cases hnext with
    | none => exact inStep_pure ⟨hj, rfl⟩
    | some hnext => exact inStep_done (ih hnext) fun last last' _ hlast => inStep_pure ⟨hlast, rfl⟩

end Bench

end Peripherals
