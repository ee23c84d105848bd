import Peripherals.Proofs.Config.Excerpt

/-!
# `Proofs.Config.Saving` — settings that are saved and loaded again

The text of settings mentions all of them, so it is read as what was written: every number, every list and every
string. The reference voltage is the exception, since a double goes through decimal digits, and an infinite one has
none. It passes the check all the same, for it is above zero; so it can be saved, but not loaded.

* `read_render` — what the text of settings is read as, whether these pass the check or not;
* `parse_render_iff` — checked settings come back exactly if their reference voltage does.
-/

namespace Peripherals.Config

open Json

/-! ## Whole documents -/

/-- Everything is mentioned. -/
def whole : Extent := ⟨fun _ => true, fun _ _ => true⟩

variable {c : Config} {o : Outline}

theorem excerpt_whole (h : c.value.Shown o) : c.Excerpt whole o := by
  refine excerpt_of_shown h fun part hpart item hitem => ?_
  have hsection {members : List (String × Value)} (hmembers : part.2 = .object members) :
      part.2.Excerpt (fun _ => true) (fun setting => setting.2.Shown) item := by
    rw [hmembers] at hitem ⊢
    exact excerpt_of_shown hitem fun _ _ _ h => h
  simp only [List.mem_cons, List.not_mem_nil, or_false] at hpart
  rcases hpart with rfl | rfl | rfl | rfl <;> exact hsection rfl

/-- A voltage that does not come back is the first thing that is wrong with the text of its section. -/
theorem readAnalog_refused {c : AnalogConfig} {fault : Fault} (hreal : reread c.referenceVoltage = .error fault)
    (h : (analogValue c).Shown o) : readRecord analogFields {} o = .error fault := by
  cases h with
  | object hkeys hvalues =>
      -- Three settings are stored before it.
      obtain _ | ⟨hcount, hkeys⟩ := hkeys
      obtain _ | ⟨hsample, hkeys⟩ := hkeys
      obtain _ | ⟨hupdate, hkeys⟩ := hkeys
      obtain _ | ⟨hvoltage, _⟩ := hkeys
      obtain _ | ⟨count, hvalues⟩ := hvalues
      obtain _ | ⟨sample, hvalues⟩ := hvalues
      obtain _ | ⟨update, hvalues⟩ := hvalues
      obtain _ | ⟨voltage, _⟩ := hvalues
      rw [readRecord, readMembers_known hcount rfl (by simp) (store_field _ (readLong_shown count) _),
        readMembers_known hsample rfl (by simp) (store_field _ (readLong_shown sample) _),
        readMembers_known hupdate rfl (by simp) (store_field _ (readLong_shown update) _)]
      exact readMembers_refused hvoltage rfl (by simp) (store_field _ ((readReal_shown voltage).trans hreal) _)

/-! ## Saving and loading -/

/-- **The text of settings**, checked or not, is read as these settings with the voltage that comes back. -/
theorem read_render (c : Config) : read c.render = (reread c.analog.referenceVoltage).map c.withVoltage := by
  obtain ⟨o, ho, htext⟩ := c.value.exists_isText 0
  cases hreal : reread c.analog.referenceVoltage with
  | ok x =>
      have hrereads : c.Rereads whole x := fun _ _ => hreal
      exact read_excerpt hrereads (excerpt_whole ho) htext
  | error fault =>
      rw [read, render, readDocument_of_isText htext]
      cases ho with
      | object hkeys hvalues =>
          obtain _ | ⟨hanalog, _⟩ := hkeys
          obtain _ | ⟨analog, _⟩ := hvalues
          exact readMembers_refused hanalog rfl (by simp) (store_field _ (readAnalog_refused hreal analog) _)

/-- A text is parsed as the settings as which it is read, if these pass the check. -/
theorem parse_eq_ok_iff {text : String} : parse text = .ok c ↔ read text = .ok c ∧ c.check = .ok () := by
  constructor
  · intro hparse
    cases hread : read text with
    | error fault =>
        rw [parse, hread] at hparse
        cases hparse
    | ok c' =>
        rw [parse_of_read hread] at hparse
        split at hparse
        · next hcheck =>
          obtain rfl := Except.ok.inj hparse
          exact ⟨rfl, hcheck⟩
        · cases hparse
  · rintro ⟨hread, hcheck⟩
    rw [parse_of_read hread, hcheck]

/-- Settings come back as they were if their voltage does. -/
theorem map_withVoltage_eq_ok_iff {result : Except Fault Float} :
    result.map c.withVoltage = .ok c ↔ result = .ok c.analog.referenceVoltage := by
  constructor
  · intro hmap
    cases result with
    | error fault => cases hmap
    | ok x =>
        have hsame : c.withVoltage x = c := Except.ok.inj hmap
        have hvoltage : (c.withVoltage x).analog.referenceVoltage = c.analog.referenceVoltage := by rw [hsame]
        exact congrArg Except.ok hvoltage
  · rintro rfl
    rfl

/-- **Checked settings that are saved and loaded** come back exactly if their reference voltage comes back from its own
text. An infinite voltage passes the check, and does not: its text is refused. -/
theorem parse_render_iff (h : c.check = .ok ()) :
    (parse c.render = .ok c ↔ reread c.analog.referenceVoltage = .ok c.analog.referenceVoltage) ∧
      ∀ negative, Decimal.Binary.ofFloat c.analog.referenceVoltage = .infinite negative →
        parse c.render = .error (.parse .mismatch) := by
  constructor
  · rw [parse_eq_ok_iff, read_render, and_iff_left h]
    exact map_withVoltage_eq_ok_iff
  · intro negative hinfinite
    rw [parse, read_render, reread_of_infinite hinfinite]
    rfl

/-! ## Settings that come back, and settings that do not -/

/-- The text of the standard settings is read as these. -/
theorem parse_render_standard : standard.check = .ok () ∧ parse standard.render = .ok standard := by
  have hcheck : standard.check = .ok () := rfl
  have htext : (Value.real 3.3).pretty 0 = "3.3" := by
    have hshortest : Decimal.shortest? realLayout 3.3 = some "3.3" := by decide +kernel
    rw [Value.pretty, hshortest]
    rfl
  have hreal : reread 3.3 = .ok 3.3 := by
    rw [reread, htext]
    rfl
  exact ⟨hcheck, (parse_render_iff hcheck).1.mpr hreal⟩

/-- Settings with an infinite reference voltage. -/
def endless : Config where
  analog := { referenceVoltage := 1.0 / 0.0 }

/-- **These pass the check, and do not come back.** -/
theorem not_restored_endless : endless.check = .ok () ∧ parse endless.render ≠ .ok endless := by
  have hinfinite : Decimal.Binary.ofFloat (1.0 / 0.0) = .infinite false := by decide +kernel
  have hread : read endless.render = .error .mismatch := by
    rw [read_render, show endless.analog.referenceVoltage = 1.0 / 0.0 from rfl, reread_of_infinite hinfinite]
    rfl
  refine ⟨rfl, ?_⟩
  intro hparse
  cases hread.symm.trans (parse_eq_ok_iff.mp hparse).1

end Peripherals.Config
