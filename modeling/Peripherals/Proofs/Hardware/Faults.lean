import Peripherals.Proofs.Hardware.Conduct

/-!
# `Proofs.Hardware.Faults` — what injected faults do to a call

A simulated driver can be told how to answer the calls to come. A code other than zero makes a call fail, and a call
that fails does nothing else (`Simulated.Still`). A code of zero is no failure, but it keeps the call from doing what it
is for. `Simulated.Candid` says that there are no such codes: then every call that is put on record as a success has
done what it is for (`Hardware.Issued.performed`).

* `Simulated.Performed` — everything that a call can do that no fault meets;
* `Simulated.levels_call`, `Simulated.faults_call` — the parts of the driver that a call leaves alone;
* `Hardware.Issued` — one call between two moments, with what it has done to the driver.
-/

namespace Peripherals

namespace Driver.Simulated

/-- **No call of this kind will be answered with zero before it has done anything.** -/
def Candid (s : Simulated) (o : Opcode) : Prop := ∀ code ∈ s.faults.getD o [], code ≠ 0

/-- **Nothing but the record and the faults to come** differs between two states of a driver. -/
def Still (s s' : Simulated) : Prop := ∃ faults records, s' = { s with faults, records }

variable {s : Simulated} {c : Call} {o : Opcode}

theorem busStopped_ne_zero : busStopped ≠ 0 := by decide

theorem nobodyHome_ne_zero : nobodyHome ≠ 0 := by decide

/-- **What a call can do that no fault meets.** -/
inductive Performed (s : Simulated) (c : Call) : Reply → Simulated → Prop
  | stopped (hopcode : c.opcode = .twoWireTransfer) (hbus : c.bus ∈ s.stoppedBuses) : Performed s c ⟨busStopped, c.rx⟩ s
  | unanswered (hopcode : c.opcode = .twoWireTransfer) (hbus : c.bus ∉ s.stoppedBuses)
      (hdevice : c.target ∉ s.devices) : Performed s c ⟨nobodyHome, c.rx⟩ s
  | twoWireWrite (hopcode : c.opcode = .twoWireTransfer) (hbus : c.bus ∉ s.stoppedBuses)
      (hdevice : c.target ∈ s.devices) (hrx : c.rx = []) : Performed s c ⟨0, c.rx⟩ s
  | twoWireRead (hopcode : c.opcode = .twoWireTransfer) (hbus : c.bus ∉ s.stoppedBuses)
      (hdevice : c.target ∈ s.devices) (hrx : c.rx ≠ []) :
      Performed s c ⟨0, Bytes.fit c.rx.length ((s.twoWireReplies.getD c.target []).headD [])⟩
        { s with twoWireReplies := s.twoWireReplies.set c.target (s.twoWireReplies.getD c.target []).tail }
  | shutdown {stoppedBuses : List UInt8} (hopcode : c.opcode = .twoWireShutdown)
      (hbuses : ∀ b, b ∈ stoppedBuses ↔ b ∈ s.stoppedBuses ∨ b = c.bus) :
      Performed s c ⟨0, c.rx⟩ { s with stoppedBuses }
  | fourWireWrite (hopcode : c.opcode = .fourWireTransfer) (hrx : c.rx = []) : Performed s c ⟨0, c.rx⟩ s
  | fourWireRead (hopcode : c.opcode = .fourWireTransfer) (hrx : c.rx ≠ []) :
      Performed s c ⟨0, Bytes.fit c.rx.length (s.fourWireReplies.headD [])⟩
        { s with fourWireReplies := s.fourWireReplies.tail }
  | pin {rx : Bytes} {levels : Table UInt16 Bool} {configured : Table UInt16 PinFlags}
      (hopcode : c.opcode ∉ [.twoWireTransfer, .twoWireShutdown, .fourWireTransfer, .convert])
      (hlevels : c.opcode ∉ [.pinConfigure, .pinWrite] → levels = s.levels)
      (hconfigured : c.opcode ∉ [.pinConfigure, .pinUnconfigure] → configured = s.configured) :
      Performed s c ⟨0, rx⟩ { s with levels, configured }
  | convert (hopcode : c.opcode = .convert) :
      Performed s c ⟨0, Bytes.fit c.rx.length (Bytes.ofWord32 (takeReading (s.readings.getD c.target [])).1)⟩
        { s with readings := s.readings.set c.target (takeReading (s.readings.getD c.target [])).2 }

/-- **Everything that a call can come to** that no fault meets. -/
theorem performed (s : Simulated) (c : Call) : Performed s c (s.perform c).1 (s.perform c).2 := by
  unfold perform
  split
  case h_1 hopcode =>
    split
    · next hbus => exact .stopped hopcode hbus
    · next hbus =>
      split
      · next hdevice => exact .unanswered hopcode hbus hdevice
      · next hdevice =>
        have hknown := Decidable.not_not.mp hdevice
        split
        · next hrx => exact .twoWireWrite hopcode hbus hknown (List.isEmpty_iff.mp hrx)
        · next hrx => exact .twoWireRead hopcode hbus hknown fun h => hrx (List.isEmpty_iff.mpr h)
  case h_2 hopcode =>
    split
    · next hbus =>
      exact .shutdown hopcode fun b => ⟨.inl, fun h => h.elim id fun heq => heq ▸ hbus⟩
    · exact .shutdown hopcode fun b => by simp
  case h_3 hopcode =>
    split
    · next hrx => exact .fourWireWrite hopcode (List.isEmpty_iff.mp hrx)
    · next hrx => exact .fourWireRead hopcode fun h => hrx (List.isEmpty_iff.mpr h)
  case h_8 hopcode => exact .convert hopcode
  -- The others are about pins.
  all_goals exact .pin (by simp [*]) (by simp [*]) (by simp [*])

namespace Performed

variable {r : Reply} {s' : Simulated}

/-- What the driver refuses of its own accord changes nothing, the receive buffer included. -/
theorem of_refused (h : Performed s c r s') (hstatus : r.status ≠ 0) : r.rx = c.rx ∧ s' = s := by
  cases h with
  | stopped => exact ⟨rfl, rfl⟩
  | unanswered => exact ⟨rfl, rfl⟩
  | _ => exact absurd rfl hstatus

/-- Only calls that configure or write a pin change the levels of lines. -/
theorem levels (h : Performed s c r s') (hopcode : c.opcode ∉ [.pinConfigure, .pinWrite]) : s'.levels = s.levels := by
  cases h with
  | pin _ hlevels => exact hlevels hopcode
  | _ => rfl

theorem configured (h : Performed s c r s') (hopcode : c.opcode ∉ [.pinConfigure, .pinUnconfigure]) :
    s'.configured = s.configured := by
  cases h with
  | pin _ _ hconfigured => exact hconfigured hopcode
  | _ => rfl

/-- A device answers only where it is told to. -/
theorem devices (h : Performed s c r s') : s'.devices = s.devices := by
  cases h with
  | _ => rfl

end Performed

theorem levels_call (hconfigure : c.opcode ≠ .pinConfigure) (hwrite : c.opcode ≠ .pinWrite) :
    (s.call c).2.levels = s.levels := by
  show (s.answer c).2.levels = s.levels
  unfold answer
  split
  · rfl
  · exact (s.performed c).levels (by simp [hconfigure, hwrite])

/-- Calls that write and read lines leave the configurations of pins alone. -/
theorem configured_call (hopcode : c.opcode = .pinWrite ∨ c.opcode = .pinRead) :
    (s.call c).2.configured = s.configured := by
  show (s.answer c).2.configured = s.configured
  unfold answer
  split
  · rfl
  · exact (s.performed c).configured (by rcases hopcode with h | h <;> simp [h])

/-- A call takes at most one fault, and from its own queue. -/
theorem faults_call (s : Simulated) (c : Call) (o : Opcode) :
    (s.call c).2.faults.getD o [] = if o = c.opcode then (s.faults.getD o []).tail else s.faults.getD o [] := by
  show (s.answer c).2.faults.getD o [] = _
  unfold answer
  split
  · next code rest hfaults =>
    split
    · next heq =>
      rw [heq, hfaults]
      exact Table.getD_set_self _ _ _ _
    · next hne => exact Table.getD_set_of_ne _ _ _ (Ne.symm hne)
  · next hfaults =>
    rw [(s.perform_frame c).2]
    split
    · next heq =>
      rw [heq, hfaults]
      rfl
    · rfl

theorem Candid.call (h : s.Candid o) (c : Call) : (s.call c).2.Candid o := by
  intro code hcode
  rw [faults_call] at hcode
  split at hcode
  · exact h code (List.mem_of_mem_tail hcode)
  · exact h code hcode

/-- Another fault that is not a zero. -/
theorem Candid.injectFault {o' : Opcode} {code : Int32} (hcandid : s.Candid o) (hcode : code ≠ 0) :
    (s.injectFault o' code).Candid o := by
  intro code' hcode'
  by_cases heq : o' = o
  · subst heq
    rw [Simulated.injectFault, Table.getD_set_self] at hcode'
    rcases List.mem_append.mp hcode' with hold | hnew
    · exact hcandid code' hold
    · exact List.mem_singleton.mp hnew ▸ hcode
  · rw [Simulated.injectFault, Table.getD_set_of_ne _ _ _ heq] at hcode'
    exact hcandid code' hcode'

/-- If no fault is a zero, a call that succeeds has met no fault. -/
theorem faults_of_success (hcandid : s.Candid c.opcode) (hstatus : (s.call c).1.status = 0) :
    s.faults.getD c.opcode [] = [] := by
  cases hfaults : s.faults.getD c.opcode [] with
  | nil => rfl
  | cons code rest =>
      have hcode : (s.call c).1.status = code := by rw [call, answer, hfaults]
      exact absurd (hcode.symm.trans hstatus) (hcandid code (hfaults ▸ List.mem_cons_self))

/-- **A call that fails does nothing else.** -/
theorem still_of_failure (hstatus : (s.call c).1.status ≠ 0) : s.Still (s.call c).2 := by
  cases hfaults : s.faults.getD c.opcode [] with
  | nil =>
      rw [call_of_no_fault hfaults] at hstatus ⊢
      have hsame : (s.perform c).2 = s := ((s.performed c).of_refused hstatus).2
      rw [hsame]
      exact ⟨_, _, rfl⟩
  | cons code rest =>
      rw [call, answer, hfaults]
      exact ⟨_, _, rfl⟩

/-- **A call that fails leaves the receive buffer as it was handed over.** -/
theorem rx_of_failure (hstatus : (s.call c).1.status ≠ 0) : (s.call c).1.rx = c.rx := by
  cases hfaults : s.faults.getD c.opcode [] with
  | nil =>
      rw [call_of_no_fault hfaults] at hstatus ⊢
      exact ((s.performed c).of_refused hstatus).1
  | cons code rest => rw [call, answer, hfaults]

end Driver.Simulated

namespace Hardware

variable {c : Driver.Call} {o : Driver.Opcode} {status : Int32} {h h' : Hardware}

/-- **One call was made** between two moments, and it was answered with this status. -/
structure Issued (c : Driver.Call) (status : Int32) (h h' : Hardware) : Prop where
  status : (h.driver.call c).1.status = status
  driver : h'.driver = (h.driver.call c).2

/-- **No call has failed** between two moments. -/
def Taken (h h' : Hardware) : Prop := Called (·.status = 0) h h'

/-- **Everything that an issued call can come to**, with what it does to the driver. -/
theorem issued_cases (c : Driver.Call) (h : Hardware) :
    (∃ h', Issued c 0 h h' ∧ (issue c).run h = (.ok (h.driver.call c).1.rx, h')) ∨
      ∃ status h', status ≠ 0 ∧ Issued c status h h' ∧ (issue c).run h = (.error (.ofStatus status c.target), h') := by
  unfold issue
  rw [attempt_ok (run_lift_call c h)]
  by_cases hstatus : (call c h).1.status = 0
  · rw [if_pos hstatus]
    exact .inl ⟨_, ⟨hstatus, rfl⟩, rfl⟩
  · rw [if_neg hstatus]
    exact .inr ⟨_, _, hstatus, ⟨rfl, rfl⟩, rfl⟩

/-- The same of an issued call whose answer is read in some way. -/
theorem issued_read_cases {α : Type} (c : Driver.Call) (g : Bytes → α) (h : Hardware) :
    (∃ h', Issued c 0 h h' ∧ (issue c >>= fun rx => pure (g rx)).run h = (.ok (g (h.driver.call c).1.rx), h')) ∨
      ∃ status h', status ≠ 0 ∧ Issued c status h h' ∧
        (issue c >>= fun rx => pure (g rx)).run h = (.error (.ofStatus status c.target), h') := by
  rcases issued_cases c h with ⟨h', hissued, hrun⟩ | ⟨status, h', hstatus, hissued, hrun⟩
  · exact .inl ⟨h', hissued, attempt_ok hrun⟩
  · exact .inr ⟨status, h', hstatus, hissued, attempt_error hrun⟩

namespace Issued

theorem calls (hissued : Issued c status h h') : h'.calls = h.calls ++ [c.record status] := by
  rw [Hardware.calls, hissued.driver, Driver.Simulated.records_call, Array.toList_push, hissued.status, Hardware.calls]

theorem called (hissued : Issued c status h h') : Called (fun _ => True) h h' := ⟨_, hissued.calls, fun _ _ => trivial⟩

/-- Only the driver matters. -/
theorem congr {h₁ h₁' : Hardware} (hissued : Issued c status h h') (hstart : h₁.driver = h.driver)
    (hend : h₁'.driver = h'.driver) : Issued c status h₁ h₁' :=
  ⟨by rw [hstart, hissued.status], by rw [hstart, hend, hissued.driver]⟩

theorem status_of_taken (hissued : Issued c status h h') (htaken : Taken h h') : status = 0 := by
  obtain ⟨added, hcalls, hadded⟩ := htaken
  have hsame : [c.record status] = added := List.append_cancel_left (hissued.calls.symm.trans hcalls)
  exact hadded (c.record status) (hsame ▸ List.mem_singleton_self _)

theorem candid (hissued : Issued c status h h') (hcandid : h.driver.Candid o) : h'.driver.Candid o := by
  rw [hissued.driver]
  exact hcandid.call c

/-- **A call that succeeds has done what it is for**, if no fault is a zero. -/
theorem performed (hissued : Issued c 0 h h') (hcandid : h.driver.Candid c.opcode) :
    h.driver.call c = ((h.driver.perform c).1, h'.driver) ∧
      h'.driver = { (h.driver.perform c).2 with records := h'.driver.records } := by
  have hfaults := Driver.Simulated.faults_of_success hcandid hissued.status
  rw [hissued.driver, Driver.Simulated.call_of_no_fault hfaults]
  exact ⟨rfl, rfl⟩

/-- **A call that fails has done nothing.** -/
theorem still (hissued : Issued c status h h') (hstatus : status ≠ 0) : h.driver.Still h'.driver := by
  rw [hissued.driver]
  exact Driver.Simulated.still_of_failure (hissued.status.symm ▸ hstatus)

end Issued

/-- A call that is issued, with an answer that is read in some way, if no call fails. -/
theorem issued_of_taken {α : Type} {g : Bytes → α} (htaken : Taken h ((issue c >>= fun rx => pure (g rx)).run h).2) :
    ∃ h', Issued c 0 h h' ∧ (issue c >>= fun rx => pure (g rx)).run h = (.ok (g (h.driver.call c).1.rx), h') := by
  rcases issued_read_cases c g h with hok | ⟨status, h', hstatus, hissued, hrun⟩
  · exact hok
  · rw [hrun] at htaken
    exact absurd (hissued.status_of_taken htaken) hstatus

end Hardware

end Peripherals
