import Peripherals.Bus.FourWire
import Peripherals.Converter

/-!
# `Proofs.Hardware.Conduct` — what an action does to the hardware

Most of what is done to the hardware leaves the arbiter alone: it calls the driver and writes to the log.
`Hardware.Touched P h h'` says so of two moments, and that the calls put on record between them satisfy `P`.
`Hardware.Within P Q a` says it of an action, wherever it starts, together with a property `Q` of its result.

An action is within its bounds if its parts are (`within_bind`, `within_attempt`). So there is one lemma for each
operation on a pin or a bus, and none of them opens another operation. A single call is the one place where
something is put on record (`within_issue`).
-/

namespace Peripherals

namespace Hardware

/-- The calls on record, oldest first. -/
def calls (h : Hardware) : List Driver.Record := h.driver.records.toList

/-- **Calls were added to the record** from one moment to another, and each of them satisfies `P`. -/
def Called (P : Driver.Record → Prop) (h h' : Hardware) : Prop :=
  ∃ added, h'.calls = h.calls ++ added ∧ ∀ r ∈ added, P r

/-- **Only the driver and the log were used** from one moment to another, and each call satisfies `P`. -/
structure Touched (P : Driver.Record → Prop) (h h' : Hardware) : Prop where
  arbiter : h'.arbiter = h.arbiter
  called : Called P h h'

variable {P P' : Driver.Record → Prop} {h h₁ h₂ : Hardware}

theorem called_of_eq (heq : h₁.calls = h.calls) : Called P h h₁ := ⟨[], by rw [heq, List.append_nil], nofun⟩

theorem Called.trans (h₀₁ : Called P h h₁) (h₁₂ : Called P h₁ h₂) : Called P h h₂ := by
  obtain ⟨added, hcalls, hadded⟩ := h₀₁
  obtain ⟨added', hcalls', hadded'⟩ := h₁₂
  refine ⟨added ++ added', ?_, ?_⟩
  · rw [hcalls', hcalls, List.append_assoc]
  · intro r hr
    rcases List.mem_append.mp hr with hr | hr
    · exact hadded r hr
    · exact hadded' r hr

/-- What was called between two moments was called before or after a moment in between. -/
theorem Called.split {Q R : Driver.Record → Prop} (hcalled : Called P h h₂) (hfirst : Called Q h h₁)
    (hsecond : Called R h₁ h₂) : Called P h h₁ ∧ Called P h₁ h₂ := by
  obtain ⟨added, hcalls, hadded⟩ := hcalled
  obtain ⟨first, hcalls₁, -⟩ := hfirst
  obtain ⟨second, hcalls₂, -⟩ := hsecond
  rw [hcalls₂, hcalls₁, List.append_assoc] at hcalls
  obtain rfl := List.append_cancel_left hcalls
  exact ⟨⟨first, hcalls₁, fun r hr => hadded r (List.mem_append_left _ hr)⟩,
    ⟨second, hcalls₂, fun r hr => hadded r (List.mem_append_right _ hr)⟩⟩

theorem Called.mono (hc : Called P h h₁) (hP : ∀ r, P r → P' r) : Called P' h h₁ := by
  obtain ⟨added, hcalls, hadded⟩ := hc
  exact ⟨added, hcalls, fun r hr => hP r (hadded r hr)⟩

theorem Touched.refl (h : Hardware) : Touched P h h := ⟨rfl, called_of_eq rfl⟩

theorem Touched.trans (h₀₁ : Touched P h h₁) (h₁₂ : Touched P h₁ h₂) : Touched P h h₂ :=
  ⟨h₁₂.arbiter.trans h₀₁.arbiter, h₀₁.called.trans h₁₂.called⟩

theorem Touched.mono (ht : Touched P h h₁) (hP : ∀ r, P r → P' r) : Touched P' h h₁ :=
  ⟨ht.arbiter, ht.called.mono hP⟩

/-! ## Actions -/

variable {α β ε ε' : Type}

/-- **Within bounds**: wherever the action starts, it uses only the driver and the log, its calls satisfy `P` and its
result satisfies `Q`. -/
def Within (P : Driver.Record → Prop) (Q : α → Prop) (a : Action α) : Prop :=
  ∀ h, Touched P h (a h).2 ∧ Q (a h).1

variable {Q : α → Prop} {R : β → Prop}

theorem Within.mono {a : Action α} (ha : Within P Q a) (hP : ∀ r, P r → P' r) : Within P' Q a := by
  intro h
  obtain ⟨htouched, hresult⟩ := ha h
  exact ⟨htouched.mono hP, hresult⟩

/-- One action after another. -/
theorem run_bind (a : Action α) (f : α → Action β) (h : Hardware) : (a >>= f) h = f (a h).1 (a h).2 := rfl

theorem within_pure {x : α} (hx : Q x) : Within P Q (pure x) := fun h => ⟨.refl h, hx⟩

theorem within_bind {a : Action α} {f : α → Action β} (ha : Within P Q a) (hf : ∀ x, Q x → Within P R (f x)) :
    Within P R (a >>= f) := by
  intro h
  obtain ⟨htouched, hQ⟩ := ha h
  obtain ⟨htouched', hR⟩ := hf _ hQ (a h).2
  exact ⟨htouched.trans htouched', hR⟩

theorem within_tell (lines : List Log.Line) : Within P (fun _ => True) (tell lines) :=
  fun _ => ⟨⟨rfl, called_of_eq rfl⟩, trivial⟩

/-! ## Attempts -/

theorem run_attempt (x : Attempt ε α) (f : α → Attempt ε β) (h : Hardware) :
    (x >>= f).run h = match x.run h with
      | (.ok a, h₁) => (f a).run h₁
      | (.error e, h₁) => (.error e, h₁) := by
  rw [ExceptT.run_bind, run_bind]
  cases x.run h with
  | mk r h₁ =>
    cases r with
    | ok a => rfl
    | error e => rfl

theorem attempt_ok {x : Attempt ε α} {f : α → Attempt ε β} {a : α} (hx : x.run h = (.ok a, h₁)) :
    (x >>= f).run h = (f a).run h₁ := by
  rw [run_attempt, hx]

theorem attempt_error {x : Attempt ε α} {f : α → Attempt ε β} {e : ε} (hx : x.run h = (.error e, h₁)) :
    (x >>= f).run h = (.error e, h₁) := by
  rw [run_attempt, hx]

/-- An attempt in two parts succeeds only if both parts do. -/
theorem attempt_eq_ok {x : Attempt ε α} {f : α → Attempt ε β} {b : β} (hrun : (x >>= f).run h = (.ok b, h₂)) :
    ∃ a h₁, x.run h = (.ok a, h₁) ∧ (f a).run h₁ = (.ok b, h₂) := by
  rw [run_attempt] at hrun
  cases hx : x.run h with
  | mk result h₁ =>
      rw [hx] at hrun
      cases result with
      | ok a => exact ⟨a, h₁, rfl, hrun⟩
      | error e => exact absurd (Prod.mk.inj hrun).1 nofun

/-- Errors that are worded in another way leave a success as it is. -/
theorem adapt_eq_ok {x : Attempt ε α} {f : ε → ε'} {a : α} (hrun : (x.adapt f).run h = (.ok a, h₁)) :
    x.run h = (.ok a, h₁) := by
  cases hx : x.run h with
  | mk result h₂ =>
      have hadapt : (x.adapt f).run h = (result.mapError f, h₂) := by
        show (Except.mapError f (x.run h).1, (x.run h).2) = _
        rw [hx]
      rw [hadapt] at hrun
      obtain ⟨hresult, rfl⟩ := Prod.mk.inj hrun
      cases result with
      | ok a' => rw [Except.ok.inj hresult]
      | error e => contradiction

/-- What is bound to an attempt that may fail runs only if it succeeds. -/
theorem within_attempt {x : Attempt ε α} {f : α → Attempt ε β} {Q : Except ε α → Prop} {R : Except ε β → Prop}
    (hx : Within P Q x.run) (herror : ∀ e, Q (.error e) → R (.error e))
    (hok : ∀ a, Q (.ok a) → Within P R (f a).run) : Within P R (x >>= f).run := by
  rw [ExceptT.run_bind]
  refine within_bind hx fun r hr => ?_
  cases r with
  | error e => exact within_pure (herror e hr)
  | ok a => exact hok a hr

/-- An attempt whose outcome does not matter. -/
theorem within_attempt_any {x : Attempt ε α} {f : α → Attempt ε β} (hx : Within P (fun _ => True) x.run)
    (hf : ∀ a, Within P (fun _ => True) (f a).run) : Within P (fun _ => True) (x >>= f).run :=
  within_attempt hx (fun _ _ => trivial) fun a _ => hf a

/-- An action that cannot fail, as part of an attempt. -/
theorem within_lift {a : Action α} (ha : Within P Q a) :
    Within P (fun _ => True) (liftM a : Attempt ε α).run :=
  within_bind ha fun _ _ => within_pure trivial

/-! ## Calls -/

/-- The hardware after a call. -/
theorem run_call (c : Driver.Call) (h : Hardware) :
    call c h = ((h.driver.call c).1, { h with driver := (h.driver.call c).2 }) := rfl

/-- A call as part of an attempt. -/
theorem run_lift_call (c : Driver.Call) (h : Hardware) :
    (liftM (call c) : Attempt Bus.Error Driver.Reply).run h = (.ok (call c h).1, (call c h).2) := rfl

/-- A call is put on record under the status that it was answered with. -/
theorem calls_call (c : Driver.Call) (h : Hardware) :
    (call c h).2.calls = h.calls ++ [c.record (call c h).1.status] := by
  simp only [calls, run_call, Driver.Simulated.records_call, Array.toList_push]

/-- **Everything that an issued call can come to.** It is put on record under its status, which decides. -/
theorem issue_cases (c : Driver.Call) (h : Hardware) :
    (∃ rx h', (issue c).run h = (.ok rx, h') ∧ h'.arbiter = h.arbiter ∧ h'.calls = h.calls ++ [c.record 0]) ∨
      ∃ status h', status ≠ 0 ∧ (issue c).run h = (.error (.ofStatus status c.target), h') ∧
        h'.arbiter = h.arbiter ∧ h'.calls = h.calls ++ [c.record status] := by
  have hcalls := calls_call c h
  unfold issue
  rw [attempt_ok (run_lift_call c h)]
  by_cases hstatus : (call c h).1.status = 0
  · rw [hstatus] at hcalls
    rw [if_pos hstatus]
    exact .inl ⟨_, _, rfl, rfl, hcalls⟩
  · rw [if_neg hstatus]
    exact .inr ⟨_, _, hstatus, rfl, rfl, hcalls⟩

/-- **An issued call** is put on record once, whether it succeeds or fails. -/
theorem within_issue {c : Driver.Call} (hP : ∀ status, P (c.record status)) :
    Within P (fun _ => True) (issue c).run := by
  intro h
  have hadded : ∀ status, ∀ r ∈ [c.record status], P r := by
    intro status r hr
    rw [List.mem_singleton.mp hr]
    exact hP status
  rcases issue_cases c h with ⟨rx, h', hrun, harbiter, hcalls⟩ | ⟨status, h', -, hrun, harbiter, hcalls⟩
  · rw [hrun]
    exact ⟨⟨harbiter, _, hcalls, hadded 0⟩, trivial⟩
  · rw [hrun]
    exact ⟨⟨harbiter, _, hcalls, hadded status⟩, trivial⟩

/-- What has been written to the log does not matter to a call. -/
theorem issue_tell (c : Driver.Call) (lines : List Log.Line) (h : Hardware) :
    ((issue c).run (tell lines h).2).1 = ((issue c).run h).1 := by
  have hreply : (call c (tell lines h).2).1 = (call c h).1 := rfl
  unfold issue
  rw [attempt_ok (run_lift_call c _), attempt_ok (run_lift_call c h), hreply]
  split
  · rfl
  · rfl

/-! ## Calls that succeed -/

/-- The hardware after a call that no fault meets. -/
def answered (c : Driver.Call) (h : Hardware) : Hardware :=
  { h with driver := { (h.driver.perform c).2 with records := h.driver.records.push (c.record 0) } }

theorem calls_answered (c : Driver.Call) (h : Hardware) : (answered c h).calls = h.calls ++ [c.record 0] :=
  Array.toList_push

theorem faults_answered (c : Driver.Call) (h : Hardware) : (answered c h).driver.faults = h.driver.faults :=
  (h.driver.perform_frame c).2

/-- **A call that no fault meets**, and that the driver has nothing against, succeeds. -/
theorem run_issue {c : Driver.Call} (hfaults : h.driver.faults.getD c.opcode [] = [])
    (hstatus : (h.driver.perform c).1.status = 0) :
    (issue c).run h = (.ok (h.driver.perform c).1.rx, answered c h) := by
  have hcall : call c h = ((h.driver.perform c).1, answered c h) := by
    rw [run_call, Driver.Simulated.call_of_no_fault hfaults, answered, hstatus]
  have hlift := run_lift_call c h
  rw [hcall] at hlift
  unfold issue
  rw [attempt_ok hlift, if_pos hstatus]
  rfl

end Hardware

end Peripherals
