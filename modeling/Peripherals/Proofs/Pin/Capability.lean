import Mathlib.Data.Nat.Bitwise
import Peripherals.Pin.Basic

/-!
# `Proofs.Pin.Capability` — what a pin can do, bit by bit

A set of capabilities stands for the set of its bits (`Capabilities.Has`). Union, inclusion and overlap are read off
the bits, and from then on no bit is looked at again: a pin has what any of its channels has
(`Pin.has_capabilities`), and it fits a use that asks for one capability exactly if it has it
(`Capabilities.intersects_iff_contains`).
-/

namespace Peripherals

namespace Capabilities

/-- A set has the capability with this bit. -/
def Has (c : Capabilities) (i : Nat) : Prop := c.bits.toNat.testBit i = true

variable {a b c : Capabilities}

theorem ext_has (h : ∀ i, a.Has i ↔ b.Has i) : a = b := by
  obtain ⟨x⟩ := a
  obtain ⟨y⟩ := b
  congr
  exact UInt16.toNat_inj.mp (Nat.eq_of_testBit_eq fun i => Bool.eq_iff_iff.mpr (h i))

theorem has_and (i : Nat) : Has ⟨a.bits &&& b.bits⟩ i ↔ a.Has i ∧ b.Has i := by
  unfold Has
  rw [UInt16.toNat_and, Nat.testBit_and, Bool.and_eq_true]

theorem has_union (i : Nat) : (a.union b).Has i ↔ a.Has i ∨ b.Has i := by
  unfold Has union
  rw [UInt16.toNat_or, Nat.testBit_or, Bool.or_eq_true]

theorem not_has_none (i : Nat) : ¬ none.Has i := by
  unfold Has none
  simp

/-- **Two sets overlap** if both have the same capability. -/
theorem intersects_iff : a.intersects b = true ↔ ∃ i, a.Has i ∧ b.Has i := by
  unfold intersects
  rw [bne_iff_ne]
  constructor
  · intro hbits
    by_contra hapart
    -- Bits that are never set together leave the empty set.
    have hempty : (⟨a.bits &&& b.bits⟩ : Capabilities) = none :=
      ext_has fun i => ⟨fun h => absurd ⟨i, (has_and i).mp h⟩ hapart, fun h => absurd h (not_has_none i)⟩
    exact hbits (congrArg bits hempty)
  · rintro ⟨i, hi⟩ hbits
    have hand : Has ⟨a.bits &&& b.bits⟩ i := (has_and i).mpr hi
    rw [hbits] at hand
    exact not_has_none i hand

/-- **A set contains another one** if it has whatever the other one has. -/
theorem contains_iff : a.contains b = true ↔ ∀ i, b.Has i → a.Has i := by
  unfold contains
  rw [beq_iff_eq]
  constructor
  · intro h i hb
    have hand : Has ⟨a.bits &&& b.bits⟩ i := by
      rw [h]
      exact hb
    exact ((has_and i).mp hand).1
  · intro h
    have hsame : (⟨a.bits &&& b.bits⟩ : Capabilities) = b :=
      ext_has fun i => (has_and i).trans ⟨And.right, fun hb => ⟨h i hb, hb⟩⟩
    exact congrArg bits hsame

theorem contains_trans (hab : a.contains b = true) (hbc : b.contains c = true) : a.contains c = true :=
  contains_iff.mpr fun i hc => contains_iff.mp hab i (contains_iff.mp hbc i hc)

/-- A single capability is either had or not. -/
theorem intersects_iff_contains {i : Nat} (hb : b.bits.toNat = 2 ^ i) :
    a.intersects b = true ↔ a.contains b = true := by
  have hone (j : Nat) : b.Has j ↔ i = j := by
    unfold Has
    rw [hb, Nat.testBit_two_pow, decide_eq_true_iff]
  simp only [intersects_iff, contains_iff, hone]
  constructor
  · rintro ⟨_, ha, rfl⟩ _ rfl
    exact ha
  · intro h
    exact ⟨i, h i rfl, rfl⟩

end Capabilities

namespace Pin

variable {p : Pin}

/-- **A pin has what some channel of it has.** -/
theorem has_capabilities (i : Nat) : p.capabilities.Has i ↔ ∃ c ∈ p.channels, c.capabilities.Has i := by
  -- By induction on the channels, whatever was seen before them.
  have hseen (channels : List Channel) (seen : Capabilities) :
      (channels.foldl (fun seen c => seen.union c.capabilities) seen).Has i ↔
        seen.Has i ∨ ∃ c ∈ channels, c.capabilities.Has i := by
    induction channels generalizing seen with
    | nil => simp
    | cons c rest ih =>
        simp only [List.foldl_cons, ih, Capabilities.has_union, or_assoc, List.mem_cons, exists_eq_or_imp]
  rw [capabilities, hseen]
  exact or_iff_right (Capabilities.not_has_none i)

/-- A pin can do what any of its channels can do. -/
theorem contains_of_mem_channels {channel : Channel} (h : channel ∈ p.channels) :
    p.capabilities.contains channel.capabilities = true :=
  Capabilities.contains_iff.mpr fun i hi => (has_capabilities i).mpr ⟨channel, h, hi⟩

/-- The first digital channel is a channel of the pin. -/
theorem contains_of_digitalChannel {channel : Channel} (h : p.digitalChannel? = some channel) :
    p.capabilities.contains channel.capabilities = true :=
  contains_of_mem_channels (List.mem_of_find?_eq_some h)

theorem supports_digitalOutput : p.supports .digitalOutput = true ↔ p.capabilities.contains .digitalOutput = true :=
  Capabilities.intersects_iff_contains (i := 1) rfl

end Pin

end Peripherals
