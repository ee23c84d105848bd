import Peripherals.Bus.FourWire
import Peripherals.Bus.TwoWire
import Peripherals.Proofs.Hardware.Conduct

/-!
# `Proofs.Bus.Wiring` — the pins on which a bus can be made

A bus needs pins that carry its channels, all of one bus number (`Bus.Wiring.Carried`). A pin may list several channels
of one family: for other buses, or in other roles. Whoever makes a bus looks at the first of them only (`Pin.Leads`,
`Bus.Wiring.Leading`). So a channel that stands behind another one of its family is not found, and pins that carry a
bus are refused; `Bus.hiddenClock` is such a pin.

* `TwoWireBus.number?_eq_ok_iff`, `FourWireBus.number?_eq_ok_iff` — the bus number that is found on given pins;
* `Bus.Judged` — which pins a constructor takes, and under which number their bus runs;
* `Bus.judged_by_leading_channels` — both constructors judge pins in this way.
-/

namespace Peripherals

open Hardware

/-! ## Channels of one family on a pin -/

namespace Channel

/-- Whether a channel belongs to a two-wire bus. -/
def isTwoWire : Channel → Bool
  | .twoWire .. => true
  | _ => false

/-- Whether a channel belongs to a four-wire bus. -/
def isFourWire : Channel → Bool
  | .fourWire .. => true
  | _ => false

end Channel

namespace Pin

/-- **A channel leads its family on a pin**: the pin lists no other channel of the family before it. -/
def Leads (family : Channel → Bool) (p : Pin) (c : Channel) : Prop :=
  ∃ before after, p.channels = before ++ c :: after ∧ ∀ x ∈ before, family x = false

/-- The pin lists no two different channels of a family. -/
def Plain (family : Channel → Bool) (p : Pin) : Prop :=
  ∀ x ∈ p.channels, ∀ y ∈ p.channels, family x = true → family y = true → x = y

variable {p : Pin} {family : Channel → Bool} {c : Channel}

theorem Leads.mem (h : p.Leads family c) : c ∈ p.channels := by
  obtain ⟨before, after, hchannels, -⟩ := h
  rw [hchannels]
  exact List.mem_append_right before List.mem_cons_self

/-- On a plain pin, every channel of the family leads it. -/
theorem Plain.leads (h : p.Plain family) (hmem : c ∈ p.channels) (hc : family c = true) : p.Leads family c := by
  obtain ⟨before, after, hchannels, hfirst⟩ := List.eq_append_cons_of_mem hmem
  refine ⟨before, after, hchannels, fun x hx => Bool.eq_false_iff.mpr fun hfamily => ?_⟩
  have hmem' : x ∈ p.channels := hchannels ▸ List.mem_append_left _ hx
  obtain rfl := h x hmem' c hmem hfamily hc
  exact hfirst hx

/-- **The first channel that a search finds** is the one that leads its family. -/
theorem findSome?_eq_some_iff_leads {α : Type} {f : Channel → Option α} (channel : α → Channel)
    (hf : ∀ x a, f x = some a ↔ x = channel a) (hfamily : ∀ x, family x = (f x).isSome) (a : α) :
    p.channels.findSome? f = some a ↔ p.Leads family (channel a) := by
  have hnone (x : Channel) : f x = none ↔ family x = false := by
    rw [hfamily, Option.isSome_eq_false_iff, Option.isNone_iff_eq_none]
  rw [List.findSome?_eq_some_iff]
  constructor
  · rintro ⟨before, x, after, hchannels, hx, hbefore⟩
    obtain rfl := (hf x a).mp hx
    exact ⟨before, after, hchannels, fun y hy => (hnone y).mp (hbefore y hy)⟩
  · rintro ⟨before, after, hchannels, hbefore⟩
    exact ⟨before, channel a, after, hchannels, (hf _ a).mpr rfl, fun y hy => (hnone y).mpr (hbefore y hy)⟩

theorem twoWireChannel?_eq_some_iff {bus : UInt8} {role : TwoWireRole} :
    p.twoWireChannel? = some (bus, role) ↔ p.Leads Channel.isTwoWire (.twoWire bus role) := by
  refine findSome?_eq_some_iff_leads (fun a => .twoWire a.1 a.2) (fun x a => ?_) (fun x => ?_) (bus, role)
  · cases x with
    | twoWire _ _ => simp [Prod.ext_iff]
    | _ => simp
  · cases x with
    | _ => rfl

theorem fourWireChannel?_eq_some_iff {bus : UInt8} {role : FourWireRole} :
    p.fourWireChannel? = some (bus, role) ↔ p.Leads Channel.isFourWire (.fourWire bus role) := by
  refine findSome?_eq_some_iff_leads (fun a => .fourWire a.1 a.2) (fun x a => ?_) (fun x => ?_) (bus, role)
  · cases x with
    | fourWire _ _ => simp [Prod.ext_iff]
    | _ => simp
  · cases x with
    | _ => rfl

end Pin

/-! ## What a bus needs of its pins -/

namespace Bus

/-- **The pins of a bus, each with the channel that it has to carry**, for every bus number. -/
abbrev Wiring := UInt8 → List (Pin × Channel)

namespace Wiring

/-- The pins carry the bus with this number. -/
def Carried (w : Wiring) (number : UInt8) : Prop := ∀ x ∈ w number, x.2 ∈ x.1.channels

instance (w : Wiring) (number : UInt8) : Decidable (w.Carried number) :=
  inferInstanceAs (Decidable (∀ x ∈ w number, x.2 ∈ x.1.channels))

/-- The pins carry the bus with this number, each as the first of the family. -/
def Leading (w : Wiring) (family : Channel → Bool) (number : UInt8) : Prop := ∀ x ∈ w number, x.1.Leads family x.2

variable {w : Wiring} {family : Channel → Bool} {number : UInt8}

theorem Leading.carried (h : w.Leading family number) : w.Carried number := fun x hx => (h x hx).mem

/-- On plain pins, the two are one. -/
theorem Carried.leading (h : w.Carried number) (hplain : ∀ x ∈ w number, x.1.Plain family)
    (hfamily : ∀ x ∈ w number, family x.2 = true) : w.Leading family number :=
  fun x hx => (hplain x hx).leads (h x hx) (hfamily x hx)

end Wiring

end Bus

/-- What a two-wire bus needs of its pins. -/
def TwoWireBus.wiring (clock data : Pin) : Bus.Wiring := fun number =>
  [(clock, .twoWire number .clock), (data, .twoWire number .data)]

/-- What a four-wire bus needs of its pins. -/
def FourWireBus.wiring (clock dataOut dataIn : Pin) : Bus.Wiring := fun number =>
  [(clock, .fourWire number .clock), (dataOut, .fourWire number .dataOut), (dataIn, .fourWire number .dataIn)]

/-! ## The bus number that is found -/

/-- **Two pins make a two-wire bus** exactly if its channels lead the family on both of them. -/
theorem TwoWireBus.number?_eq_ok_iff {clock data : Pin} {number : UInt8} :
    number? clock data = .ok number ↔ (wiring clock data).Leading Channel.isTwoWire number := by
  have hleading : (wiring clock data).Leading Channel.isTwoWire number ↔
      clock.twoWireChannel? = some (number, .clock) ∧ data.twoWireChannel? = some (number, .data) := by
    simp only [Bus.Wiring.Leading, wiring, List.forall_mem_cons, List.not_mem_nil, false_imp_iff, implies_true,
      and_true, Pin.twoWireChannel?_eq_some_iff]
  rw [hleading, number?]
  split
  · next bus hclock =>
    rw [hclock]
    split
    · next hdata => simp [hdata]
    · next hdata =>
      simp only [reduceCtorEq, Option.some.injEq, Prod.mk.injEq, and_true, false_iff, not_and]
      rintro rfl
      exact hdata
  · next hother =>
    simp only [reduceCtorEq, false_iff, not_and]
    exact fun hclock => absurd hclock (hother number)

/-- **Three pins make a four-wire bus** exactly if its channels lead the family on all of them. -/
theorem FourWireBus.number?_eq_ok_iff {clock dataOut dataIn : Pin} {number : UInt8} :
    number? clock dataOut dataIn = .ok number ↔ (wiring clock dataOut dataIn).Leading Channel.isFourWire number := by
  have hleading : (wiring clock dataOut dataIn).Leading Channel.isFourWire number ↔
      clock.fourWireChannel? = some (number, .clock) ∧ dataOut.fourWireChannel? = some (number, .dataOut) ∧
        dataIn.fourWireChannel? = some (number, .dataIn) := by
    simp only [Bus.Wiring.Leading, wiring, List.forall_mem_cons, List.not_mem_nil, false_imp_iff, implies_true,
      and_true, Pin.fourWireChannel?_eq_some_iff]
  rw [hleading, number?]
  split
  · next bus hclock =>
    rw [hclock]
    by_cases hout : dataOut.fourWireChannel? = some (bus, .dataOut)
    case neg =>
      simp only [hout, ne_eq, not_false_eq_true, if_true, reduceCtorEq, Option.some.injEq, Prod.mk.injEq, and_true,
        false_iff, not_and]
      rintro rfl
      exact fun h => absurd h hout
    case pos =>
      by_cases hin : dataIn.fourWireChannel? = some (bus, .dataIn)
      case neg =>
        simp only [hout, hin, ne_eq, not_true_eq_false, not_false_eq_true, if_true, if_false, reduceCtorEq,
          Option.some.injEq, Prod.mk.injEq, and_true, false_iff, not_and]
        rintro rfl
        exact fun _ => hin
      case pos =>
        simp only [hout, hin, ne_eq, not_true_eq_false, if_false, Except.ok.injEq, Option.some.injEq,
          Prod.mk.injEq, and_true, iff_self_and]
        exact fun h => ⟨h, h⟩
  · next hother =>
    simp only [reduceCtorEq, false_iff, not_and]
    exact fun hclock => absurd hclock (hother number)

/-! ## Which pins are taken -/

namespace Bus

variable {β : Type}

/-- **What the maker of a bus makes of its pins**, whatever the hardware is like. -/
structure Judged (make : Attempt Error β) (number : β → UInt8) (family : Channel → Bool) (wiring : Wiring) : Prop where
  /-- A bus with a number is made exactly if the channels of that bus lead the family on all pins. -/
  made_iff : ∀ h n, (∃ b h', make.run h = (.ok b, h') ∧ number b = n) ↔ wiring.Leading family n
  /-- A bus that is made runs under a number that its pins carry. -/
  carried : ∀ h b h', make.run h = (.ok b, h') → wiring.Carried (number b)
  /-- If no pin lists two channels of the family, just those pins are taken that carry a bus. -/
  made_iff_carried : (∀ n, ∀ x ∈ wiring n, x.1.Plain family) →
    ∀ h, (∃ b h', make.run h = (.ok b, h')) ↔ ∃ n, wiring.Carried n

/-- It is enough that the number which is found decides. -/
theorem judged_of_number {make : Attempt Error β} {number : β → UInt8} {family : Channel → Bool} {wiring : Wiring}
    {found : Except Error UInt8} (hfound : ∀ n, found = .ok n ↔ wiring.Leading family n)
    (hfamily : ∀ n, ∀ x ∈ wiring n, family x.2 = true)
    (hmade : ∀ h n, found = .ok n → ∃ b h', make.run h = (.ok b, h') ∧ number b = n)
    (hrefused : ∀ h e, found = .error e → make.run h = (.error e, h)) :
    Judged make number family wiring := by
  have hnumber : ∀ h b h', make.run h = (.ok b, h') → found = .ok (number b) := by
    intro h b h' hrun
    cases hresult : found with
    | error e =>
        rw [hrefused h e hresult] at hrun
        cases hrun
    | ok n =>
        obtain ⟨b', h₁, hrun', rfl⟩ := hmade h n hresult
        rw [hrun'] at hrun
        cases hrun
        rfl
  have hiff : ∀ h n, (∃ b h', make.run h = (.ok b, h') ∧ number b = n) ↔ wiring.Leading family n := by
    intro h n
    rw [← hfound]
    constructor
    · rintro ⟨b, h', hrun, rfl⟩
      exact hnumber h b h' hrun
    · exact hmade h n
  refine ⟨hiff, fun h b h' hrun => ((hiff h _).mp ⟨b, h', hrun, rfl⟩).carried, fun hplain h => ?_⟩
  constructor
  · rintro ⟨b, h', hrun⟩
    exact ⟨number b, ((hiff h _).mp ⟨b, h', hrun, rfl⟩).carried⟩
  · rintro ⟨n, hcarried⟩
    obtain ⟨b, h', hrun, -⟩ := (hiff h n).mpr (hcarried.leading (hplain n) (hfamily n))
    exact ⟨b, h', hrun⟩

theorem judged_twoWire (clock data : Pin) (requested : UInt32) (speeds : List UInt32) :
    Judged (TwoWireBus.create clock data requested speeds) (·.engine.number) Channel.isTwoWire
      (TwoWireBus.wiring clock data) := by
  refine judged_of_number (fun n => TwoWireBus.number?_eq_ok_iff) (by simp [TwoWireBus.wiring, Channel.isTwoWire])
    (fun h n hn => ?_) fun h e he => ?_
  · rw [TwoWireBus.create, hn]
    exact ⟨_, _, rfl, rfl⟩
  · rw [TwoWireBus.create, he]
    rfl

theorem judged_fourWire (clock dataOut dataIn : Pin) (settings : ClockSettings) (speeds : List UInt32) :
    Judged (FourWireBus.create clock dataOut dataIn settings speeds) (·.engine.number) Channel.isFourWire
      (FourWireBus.wiring clock dataOut dataIn) := by
  refine judged_of_number (fun n => FourWireBus.number?_eq_ok_iff) (by simp [FourWireBus.wiring, Channel.isFourWire])
    (fun h n hn => ?_) fun h e he => ?_
  · rw [FourWireBus.create, hn]
    exact ⟨_, _, rfl, rfl⟩
  · rw [FourWireBus.create, he]
    rfl

/-- **Buses are made by the leading channels of their pins.** On all pins, with whatever channels in whatever order, a
bus of either sort is made under a number exactly if the channels of that bus lead their family on the pins. So every
bus runs under a number that its pins carry; and if no pin lists two channels of the family, all pins that carry a bus
are taken. -/
theorem judged_by_leading_channels (clock data dataOut dataIn : Pin) (requested : UInt32) (settings : ClockSettings)
    (speeds : List UInt32) :
    Judged (TwoWireBus.create clock data requested speeds) (·.engine.number) Channel.isTwoWire
        (TwoWireBus.wiring clock data) ∧
      Judged (FourWireBus.create clock dataOut dataIn settings speeds) (·.engine.number) Channel.isFourWire
        (FourWireBus.wiring clock dataOut dataIn) :=
  ⟨judged_twoWire clock data requested speeds, judged_fourWire clock dataOut dataIn settings speeds⟩

/-! ## Pins that are refused -/

/-- **All pins that carry a bus are taken**, and no others. -/
def Obliging (make : Attempt Error β) (wiring : Wiring) : Prop :=
  ∀ h, (∃ b h', make.run h = (.ok b, h')) ↔ ∃ n, wiring.Carried n

/-- A pin that can be the clock of the two-wire buses 1 and 3. -/
def hiddenClock : Pin := ⟨"SCL", 30, [.twoWire 1 .clock, .twoWire 3 .clock]⟩

/-- A pin that can be the data line of bus 3. -/
def thirdData : Pin := ⟨"SDA", 31, [.twoWire 3 .data]⟩

/-- **These pins carry bus 3 and are refused**, for the clock is taken for bus 1. -/
theorem not_obliging_hiddenClock :
    ¬ Obliging (TwoWireBus.create hiddenClock thirdData 100000 [100000])
      (TwoWireBus.wiring hiddenClock thirdData) := by
  intro h
  have hcarried : (TwoWireBus.wiring hiddenClock thirdData).Carried 3 := by decide
  obtain ⟨b, h', hrun⟩ := (h .empty).mpr ⟨3, hcarried⟩
  have hrefused : (TwoWireBus.create hiddenClock thirdData 100000 [100000]).run .empty =
      (.error (.invalidPin "SDA" (.noTwoWireData 1)), .empty) := rfl
  rw [hrefused] at hrun
  cases hrun

end Bus

end Peripherals
