import Peripherals.Hardware

/-!
# `Peripherals.Bus.Engine` — a bus number, a clock, and the calls that carry both

A bus generates only some clock speeds. A request is met by the fastest supported speed that is not above it, and
by the slowest one if all are above it.

* `clamp` — the speed that meets a request, and `isAdjusted`, whether that is another one;
* `Engine.new`, `Engine.setFrequency` — an engine always runs at a clamped speed;
* `Engine.transact` — one driver call with the number and the speed of the bus.
-/

namespace Peripherals.Bus

/-! ## Speeds -/

/-- The speed that meets a request. A bus without speeds takes any request. -/
def clamp (requested : UInt32) (supported : List UInt32) : UInt32 :=
  match (supported.filter (· ≤ requested)).max? with
  | some speed => speed
  | none => (supported.min?).getD requested

/-- Whether a request is met by a speed other than itself. -/
def isAdjusted (requested : UInt32) (supported : List UInt32) : Bool := clamp requested supported != requested

/-- Puts a speed into an ascending list, once. -/
def insertSpeed (speed : UInt32) : List UInt32 → List UInt32
  | [] => [speed]
  | s :: rest =>
    if speed < s then speed :: s :: rest
    else if speed = s then s :: rest
    else s :: insertSpeed speed rest

/-- The speeds of a list in ascending order, each once. -/
def ascending (speeds : List UInt32) : List UInt32 := speeds.foldr insertSpeed []

variable {speed x : UInt32} {speeds supported : List UInt32}

theorem mem_insertSpeed : x ∈ insertSpeed speed speeds ↔ x = speed ∨ x ∈ speeds := by
  induction speeds with
  | nil => simp [insertSpeed]
  | cons s rest ih =>
      unfold insertSpeed
      split
      · simp
      · split
        · next h => simp [h]
        · simp [ih, or_left_comm]

theorem pairwise_insertSpeed (h : speeds.Pairwise (· < ·)) : (insertSpeed speed speeds).Pairwise (· < ·) := by
  induction speeds with
  | nil => simp [insertSpeed]
  | cons s rest ih =>
      obtain ⟨hs, hrest⟩ := List.pairwise_cons.mp h
      unfold insertSpeed
      split
      · next hlt =>
        refine List.pairwise_cons.mpr ⟨fun y hy => ?_, h⟩
        rcases List.mem_cons.mp hy with rfl | hy
        · exact hlt
        · exact UInt32.lt_trans hlt (hs y hy)
      · next hle =>
        split
        · exact h
        · next hne =>
          have hlt : s < speed := UInt32.lt_of_le_of_ne (UInt32.not_lt.mp hle) (Ne.symm hne)
          refine List.pairwise_cons.mpr ⟨fun y hy => ?_, ih hrest⟩
          rcases mem_insertSpeed.mp hy with rfl | hy
          · exact hlt
          · exact hs y hy

theorem mem_ascending : x ∈ ascending speeds ↔ x ∈ speeds := by
  induction speeds with
  | nil => simp [ascending]
  | cons s rest ih =>
      have hcons : ascending (s :: rest) = insertSpeed s (ascending rest) := rfl
      rw [hcons, mem_insertSpeed, ih, List.mem_cons]

theorem pairwise_ascending (speeds : List UInt32) : (ascending speeds).Pairwise (· < ·) := by
  induction speeds with
  | nil => exact List.Pairwise.nil
  | cons s rest ih => exact pairwise_insertSpeed ih

instance maxEqOrSpeed : Std.MaxEqOr UInt32 where
  max_eq_or a b := by
    show (if a ≤ b then b else a) = a ∨ (if a ≤ b then b else a) = b
    split
    · exact .inr rfl
    · exact .inl rfl

instance minEqOrSpeed : Std.MinEqOr UInt32 where
  min_eq_or a b := by
    show (if a ≤ b then a else b) = a ∨ (if a ≤ b then a else b) = b
    split
    · exact .inl rfl
    · exact .inr rfl

/-- A request is met by a speed that can be generated, if there is any. -/
theorem clamp_mem (requested : UInt32) (h : supported ≠ []) : clamp requested supported ∈ supported := by
  unfold clamp
  split
  · next s hmax => exact (List.mem_filter.mp (List.max?_mem hmax)).1
  · cases hmin : supported.min? with
    | none => exact absurd (List.min?_eq_none_iff.mp hmin) h
    | some s => exact List.min?_mem hmin

/-! ## Engines -/

/-- A bus with its clock. -/
structure Engine where
  number : UInt8
  frequency : UInt32
  /-- The speeds that can be generated, ascending. -/
  supported : List UInt32
  deriving DecidableEq, Repr

namespace Engine

/-- Applies a new clock, clamped; the answer is the speed actually used. An adjustment is worth a warning. -/
def setFrequency (e : Engine) (requested : UInt32) : UInt32 × Engine × List Log.Line :=
  let effective := clamp requested e.supported
  (effective, { e with frequency := effective },
    if effective = requested then []
    else [⟨.warn, s!"Bus {e.number}: {requested} Hz is not supported, using {effective} Hz"⟩])

/-- An engine at the speed that meets `requested`. -/
def new (number : UInt8) (requested : UInt32) (supported : List UInt32) : Engine × List Log.Line :=
  (setFrequency ⟨number, requested, ascending supported⟩ requested).2

/-- An engine as diagnostics show it. -/
def describe (e : Engine) : String :=
  s!"TransactionEngine \x7b bus_number: {e.number}, frequency_hz: {e.frequency}, supported: {e.supported} \x7d"

/-- One call on the bus. -/
def transact (e : Engine) (opcode : Driver.Opcode) (target : UInt16) (flags : UInt8) (tx rx : Bytes) :
    Attempt Error Bytes :=
  Hardware.issue
    { opcode, bus := e.number, target, frequency := e.frequency, flags, tx, rx }

end Engine

end Peripherals.Bus
