import Peripherals.Proofs.Bus.Wiring
import Peripherals.Proofs.Pin.Capability

/-!
# `Proofs.Pin.Views` — the two views of a pin agree

What a pin can do is looked up in two ways. One takes the capabilities of all its channels together and asks whether
they overlap with what a use requires (`Pin.supports`). The other one searches the channels for the first of a shape
(`Pin.analogChannel?` and its like). Ports and buses ask one or the other, so that a pin on which the two differed would
be taken by one and refused by the next.

They cannot differ, since both come down to single channels: a pin fits a use if one channel of it does
(`Pin.supports_iff`), and which channels fit a use is a matter of their shape (`Channel.fits_analogInput` and its like).

* `Channel.fits` — whether a channel by itself is fit for a use;
* `Pin.ViewsAgree`, `Pin.views_agree` — what holds of every pin.
-/

namespace Peripherals

namespace Channel

/-! ## One channel -/

/-- **Whether a channel is fit for a use**: it has one of the capabilities that the use requires. -/
def fits (c : Channel) (use : PinUse) : Bool := c.capabilities.intersects use.required

/-- Whether a channel is an analog one that can be read. -/
def isReadable : Channel → Bool
  | .analog _ input _ => input
  | _ => false

/-- Whether a channel is a digital one. -/
def isDigital : Channel → Bool
  | .digital .. => true
  | _ => false

/-- **Which channels are fit for a use** is a matter of their shape; of the digital ones, some are fit for nothing. -/
theorem fits_eq (c : Channel) :
    c.fits .analogInput = c.isReadable ∧ c.fits .twoWire = c.isTwoWire ∧ c.fits .fourWire = c.isFourWire ∧
      ((c.fits .digitalInput || c.fits .digitalOutput) = true → c.isDigital = true) := by
  cases c with
  | digital input output interrupt =>
      cases input <;> cases output <;> cases interrupt <;> decide
  | analog bits input output =>
      simp only [fits, capabilities, isReadable, isTwoWire, isFourWire, isDigital]
      cases input <;> cases output <;> decide
  | pwm timer channel =>
      simp only [fits, capabilities, isReadable, isTwoWire, isFourWire, isDigital]
      decide
  | twoWire bus role =>
      cases role <;> simp only [fits, capabilities, isReadable, isTwoWire, isFourWire, isDigital] <;> decide
  | fourWire bus role =>
      cases role <;> simp only [fits, capabilities, isReadable, isTwoWire, isFourWire, isDigital] <;> decide
  | serial port role =>
      cases role <;> simp only [fits, capabilities, isReadable, isTwoWire, isFourWire, isDigital] <;> decide

/-- Every channel has a name, since all names begin with the kind of the channel. -/
theorem name_ne_empty (c : Channel) : c.name ≠ "" := by
  -- The last letters of a name differ, and its number may have any digits; neither is looked at.
  have hkind {kind rest : String} (h : kind ≠ "") : kind ++ rest ≠ "" := fun hempty =>
    h (String.append_eq_empty_iff.mp hempty).1
  cases c with
  | digital input output interrupt => exact (by decide : "GPIO" ≠ "")
  | analog bits input output => exact (by decide : "ADC" ≠ "")
  | pwm timer channel => exact hkind (hkind (hkind (by decide : "PWM" ≠ "")))
  | twoWire bus role =>
      cases role with
      | _ => exact hkind (hkind (by decide : "I2C" ≠ ""))
  | fourWire bus role =>
      cases role with
      | _ => exact hkind (hkind (by decide : "SPI" ≠ ""))
  | serial port role =>
      cases role with
      | _ => exact hkind (hkind (by decide : "UART" ≠ ""))

end Channel

namespace Pin

/-! ## All channels of a pin -/

variable {p : Pin} {use : PinUse}

/-- **A pin fits a use if one of its channels does** by itself. -/
theorem supports_iff : p.supports use = true ↔ ∃ c ∈ p.channels, c.fits use = true := by
  unfold supports Channel.fits
  simp only [Capabilities.intersects_iff, has_capabilities]
  constructor
  · rintro ⟨i, ⟨c, hmem, hc⟩, huse⟩
    exact ⟨c, hmem, i, hc, huse⟩
  · rintro ⟨c, hmem, i, hc, huse⟩
    exact ⟨i, ⟨c, hmem, hc⟩, huse⟩

/-- A use for which channels of one shape are fit. -/
theorem supports_eq_any {shape : Channel → Bool} (h : ∀ c, c.fits use = shape c) :
    p.supports use = p.channels.any shape := by
  rw [Bool.eq_iff_iff, supports_iff, List.any_eq_true]
  simp only [h]

/-- A pin is described as nothing only if it has no channel. -/
theorem describeChannels_eq_empty_iff : p.describeChannels = "" ↔ p.channels = [] := by
  unfold describeChannels
  cases p.channels with
  | nil => simp
  | cons c rest =>
      have hname := c.name_ne_empty
      cases rest with
      | nil => simpa using hname
      | cons c' rest => simp [String.intercalate_cons_cons, hname]

/-- **The two views of a pin agree**, whatever its channels. -/
structure ViewsAgree (p : Pin) : Prop where
  /-- What the capabilities of all channels together say, some channel says by itself. -/
  supports : ∀ use, p.supports use = true ↔
    ∃ c ∈ p.channels, c.capabilities.intersects use.required = true
  analog : p.supports .analogInput = true ↔ p.analogChannel?.isSome = true
  twoWire : p.supports .twoWire = true ↔ p.twoWireChannel?.isSome = true
  fourWire : p.supports .fourWire = true ↔ p.fourWireChannel?.isSome = true
  digital : p.supports .digitalInput = true ∨ p.supports .digitalOutput = true → p.digitalChannel?.isSome = true
  /-- A pin that is fit for anything is described as something. -/
  described : ∀ use, p.describeChannels = "" → p.supports use = false

/-- **What a pin is fit for is what is found on it.** -/
theorem views_agree (p : Pin) : p.ViewsAgree where
  supports _ := supports_iff
  analog := by
    rw [supports_eq_any fun c => c.fits_eq.1, analogChannel?, List.find?_isSome, List.any_eq_true]
    rfl
  twoWire := by
    rw [supports_eq_any fun c => c.fits_eq.2.1, twoWireChannel?, List.findSome?_isSome_iff, List.any_eq_true]
    exact exists_congr fun c => and_congr_right fun _ => by cases c with | _ => simp [Channel.isTwoWire]
  fourWire := by
    rw [supports_eq_any fun c => c.fits_eq.2.2.1, fourWireChannel?, List.findSome?_isSome_iff, List.any_eq_true]
    exact exists_congr fun c => and_congr_right fun _ => by cases c with | _ => simp [Channel.isFourWire]
  digital h := by
    rw [digitalChannel?, List.find?_isSome]
    obtain ⟨c, hmem, hc⟩ : ∃ c ∈ p.channels, (c.fits .digitalInput || c.fits .digitalOutput) = true := by
      rcases h with hinput | houtput
      · obtain ⟨c, hmem, hc⟩ := supports_iff.mp hinput
        exact ⟨c, hmem, by rw [hc, Bool.true_or]⟩
      · obtain ⟨c, hmem, hc⟩ := supports_iff.mp houtput
        exact ⟨c, hmem, by rw [hc, Bool.or_true]⟩
    exact ⟨c, hmem, c.fits_eq.2.2.2 hc⟩
  described use h := by
    rw [Bool.eq_false_iff, ne_eq, supports_iff, describeChannels_eq_empty_iff.mp h]
    simp

end Pin

end Peripherals
