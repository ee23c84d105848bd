import Peripherals.Config.Basic

/-!
# `Proofs.Config.Ranges` — what the check of settings establishes

Settings are checked one after the other, and the first that is out of its range is refused. So settings pass the check
exactly if all of them are in their ranges (`Config.check_eq_ok_iff`).
-/

namespace Peripherals

namespace Config

/-- A text is a hardware address, if there is one. -/
def SpellsMac (text : Option String) : Prop := ∀ s, text = some s → ∃ mac, Mac.parse s = .ok mac

/-- **All settings are in their ranges.** -/
structure InRange (c : Config) : Prop where
  sampleCount : c.analog.sampleCount ≠ 0
  referenceVoltage : 0.0 < c.analog.referenceVoltage
  maxRawValue : c.analog.maxRawValue ≠ 0
  twoWire : c.twoWire.supportedHz ≠ []
  fourWire : c.fourWire.supportedHz ≠ []
  scanPeriod : 1000 ≤ c.wireless.scanPeriodMs ∧ c.wireless.scanPeriodMs ≤ 60000
  connectPollInterval : c.wireless.connectPollIntervalMs ≠ 0
  macAddress : SpellsMac c.wireless.macAddress
  softApMacAddress : SpellsMac c.wireless.softApMacAddress

theorem refuseIf_bind_eq_ok_iff {bad : Bool} {d : Defect} {rest : Except Defect Unit} :
    (do refuseIf bad d; rest) = .ok () ↔ bad = false ∧ rest = .ok () := by
  cases bad with
  | true => exact iff_of_false nofun nofun
  | false => exact ⟨fun hrest => ⟨rfl, hrest⟩, fun h => h.2⟩

theorem checkMac_eq_ok_iff {text : Option String} {defect : Hex.Error → Defect} :
    checkMac text defect = .ok () ↔ SpellsMac text := by
  cases text with
  | none => exact iff_of_true rfl nofun
  | some s =>
      unfold checkMac SpellsMac
      cases hparse : Mac.parse s with
      | ok mac => simp [hparse]
      | error e => simp [hparse]

theorem checkMac_bind_eq_ok_iff {text : Option String} {defect : Hex.Error → Defect} {rest : Except Defect Unit} :
    (do checkMac text defect; rest) = .ok () ↔ SpellsMac text ∧ rest = .ok () := by
  rw [← @checkMac_eq_ok_iff text defect]
  cases hcheck : checkMac text defect with
  | error e => exact iff_of_false nofun fun h => nomatch h.1
  | ok _ => exact ⟨fun hrest => ⟨rfl, hrest⟩, fun h => h.2⟩

/-- **Settings pass the check exactly if they are in their ranges.** -/
theorem check_eq_ok_iff {c : Config} : c.check = .ok () ↔ c.InRange := by
  unfold check
  simp only [refuseIf_bind_eq_ok_iff, checkMac_bind_eq_ok_iff, checkMac_eq_ok_iff]
  constructor
  · rintro ⟨hcount, hreference, hraw, htwoWire, hfourWire, hscan, hpoll, hmac, hsoftAp⟩
    have hperiod : ¬ c.wireless.scanPeriodMs < 1000 ∧ ¬ 60000 < c.wireless.scanPeriodMs := by simpa using hscan
    exact
      { sampleCount := by simpa using hcount
        referenceVoltage := by simpa using hreference
        maxRawValue := by simpa using hraw
        twoWire := by simpa using htwoWire
        fourWire := by simpa using hfourWire
        scanPeriod := ⟨UInt64.not_lt.mp hperiod.1, UInt64.not_lt.mp hperiod.2⟩
        connectPollInterval := by simpa using hpoll
        macAddress := hmac
        softApMacAddress := hsoftAp }
  · intro h
    have hperiod : ¬ c.wireless.scanPeriodMs < 1000 ∧ ¬ 60000 < c.wireless.scanPeriodMs :=
      ⟨UInt64.not_lt.mpr h.scanPeriod.1, UInt64.not_lt.mpr h.scanPeriod.2⟩
    exact ⟨by simpa using h.sampleCount, by simpa using h.referenceVoltage, by simpa using h.maxRawValue,
      by simpa using h.twoWire, by simpa using h.fourWire, by simpa using hperiod,
      by simpa using h.connectPollInterval, h.macAddress, h.softApMacAddress⟩

end Config

end Peripherals
