import Peripherals.Config.Document
import Peripherals.Proofs.Json.Record

/-!
# `Proofs.Config.Excerpt` — documents that leave settings out

A document need not mention every setting. Whole sections can be missing, and single settings of a section; the rest
can stand in any order, and between members with other names, whatever these hold. Such a document is read as the
settings of which it is an excerpt, with defaults for whatever it leaves out; what is checked are these settings, not
what is written.

* `Extent`, `Config.Excerpt` — what a document mentions of given settings;
* `Config.only` — the settings that it stands for;
* `Config.read_excerpt` — such a document is read as these settings;
* `Config.parse_excerpt` — and is refused just for what is wrong with them.
-/

namespace Peripherals

open Json

/-! ## What is left out -/

/-- What a document mentions, by the names of sections and of settings in them. -/
structure Extent where
  sections : String → Bool
  settings : String → String → Bool

/-- Settings of the analog section, and defaults for the rest. -/
def AnalogConfig.only (c : AnalogConfig) (keep : String → Bool) : AnalogConfig where
  sampleCount := if keep "sample_count" then c.sampleCount else ({} : AnalogConfig).sampleCount
  sampleIntervalMs := if keep "sample_interval_ms" then c.sampleIntervalMs else ({} : AnalogConfig).sampleIntervalMs
  updateIntervalMs := if keep "update_interval_ms" then c.updateIntervalMs else ({} : AnalogConfig).updateIntervalMs
  referenceVoltage := if keep "reference_voltage" then c.referenceVoltage else ({} : AnalogConfig).referenceVoltage
  maxRawValue := if keep "max_raw_value" then c.maxRawValue else ({} : AnalogConfig).maxRawValue

/-- Settings of a section about a bus, and these defaults for the rest. -/
def BusConfig.only (c initial : BusConfig) (keep : String → Bool) : BusConfig where
  defaultHz := if keep "default_frequency_hz" then c.defaultHz else initial.defaultHz
  supportedHz := if keep "supported_frequencies_hz" then c.supportedHz else initial.supportedHz

/-- Settings of a wireless adapter, and defaults for the rest. -/
def WirelessConfig.only (c : WirelessConfig) (keep : String → Bool) : WirelessConfig where
  autoConnect := if keep "auto_connect" then c.autoConnect else ({} : WirelessConfig).autoConnect
  autoReconnect := if keep "auto_reconnect" then c.autoReconnect else ({} : WirelessConfig).autoReconnect
  defaultSsid := if keep "default_ssid" then c.defaultSsid else ({} : WirelessConfig).defaultSsid
  maximumRetryCount :=
    if keep "maximum_retry_count" then c.maximumRetryCount else ({} : WirelessConfig).maximumRetryCount
  scanPeriodMs := if keep "scan_period_ms" then c.scanPeriodMs else ({} : WirelessConfig).scanPeriodMs
  connectPollIntervalMs :=
    if keep "connect_poll_interval_ms" then c.connectPollIntervalMs else ({} : WirelessConfig).connectPollIntervalMs
  macAddress := if keep "mac_address" then c.macAddress else ({} : WirelessConfig).macAddress
  softApMacAddress := if keep "soft_ap_mac_address" then c.softApMacAddress else ({} : WirelessConfig).softApMacAddress

namespace Config

/-- **The settings that are mentioned**, and defaults for the rest. -/
def only (c : Config) (e : Extent) : Config where
  analog := if e.sections "analog" then c.analog.only (e.settings "analog") else {}
  twoWire := if e.sections "i2c" then c.twoWire.only .twoWire (e.settings "i2c") else .twoWire
  fourWire := if e.sections "spi" then c.fourWire.only .fourWire (e.settings "spi") else .fourWire
  wireless := if e.sections "wifi" then c.wireless.only (e.settings "wifi") else {}

/-- **The documents that mention just these settings.** -/
def Excerpt (c : Config) (e : Extent) (o : Outline) : Prop :=
  c.value.Excerpt e.sections (fun part => part.2.Excerpt (e.settings part.1) fun setting => setting.2.Shown) o

/-! ## Settings -/

theorem readWord_shown {n : UInt32} {o : Outline} (h : (Value.natural n.toNat).Shown o) : readWord o = .ok n := by
  have hlimit : UInt32.size - 1 ≤ Numeral.maxSignificand := by decide
  rw [readWord, readNatural_shown hlimit (Nat.le_sub_one_of_lt n.toNat_lt) h]
  exact congrArg Except.ok (UInt32.ofNat_toNat)

theorem readLong_shown {n : UInt64} {o : Outline} (h : (Value.natural n.toNat).Shown o) : readLong o = .ok n := by
  have hlimit : UInt64.size - 1 ≤ Numeral.maxSignificand := Nat.le_refl _
  rw [readLong, readNatural_shown hlimit (Nat.le_sub_one_of_lt n.toNat_lt) h]
  exact congrArg Except.ok (UInt64.ofNat_toNat)

theorem readOptional_shown {text : Option String} {o : Outline} (h : (optionalText text).Shown o) :
    readOptional readText o = .ok text := by
  cases text with
  | none =>
      cases h
      rfl
  | some s =>
      have hread := readText_shown h
      cases h with
      | text _ => simp [readOptional, hread, Except.map]

theorem readSpeeds_shown {speeds : List UInt32} {o : Outline}
    (h : (Value.array (speeds.map fun hz => .natural hz.toNat)).Shown o) : readList readWord o = .ok speeds :=
  readList_shown (fun _ _ => readWord_shown) h

/-- What becomes of a setting is what its reader says; one that can be read goes where it belongs. -/
theorem store_field {α β : Type} (name : String) {read : Outline → Except Fault β} {put : α → β → α} {item : Outline}
    {result : Except Fault β} (h : read item = result) (acc : α) :
    (field name read put).store item acc = result.map (put acc) := by
  subst h
  rfl

theorem stores_field {α β : Type} {fields : List (Member α)} {only : (String → Bool) → α} {name : String}
    {read : Outline → Except Fault β} {put : α → β → α} {Fits : Outline → Prop} {b : β}
    (hfind : fields.find? (fun f => f.name == name) = some (field name read put))
    (hread : ∀ item, Fits item → item.skip = .ok () → read item = .ok b)
    (hput : ∀ keep, put (only keep) b = only fun n => n == name || keep n) : Stores fields only (name, Fits) := by
  refine ⟨_, hfind, fun item keep hitem hskip => ?_⟩
  rw [store_field name (hread item hitem hskip), ← hput keep]
  rfl

theorem analog_stores {c : AnalogConfig} {x : Float} {keep : String → Bool}
    (hreal : keep "reference_voltage" = true → reread c.referenceVoltage = .ok x) :
    ∀ m ∈ (analogValue c).members, keep m.1 = true →
      Stores analogFields { c with referenceVoltage := x }.only (m.1, m.2.Shown) := by
  simp only [analogValue, Value.members, List.forall_mem_cons]
  refine ⟨fun _ => ?_, fun _ => ?_, fun _ => ?_, fun hkeep => ?_, fun _ => ?_, List.forall_mem_nil _⟩
  · exact stores_field rfl (fun _ h _ => readLong_shown h) fun _ => by simp [AnalogConfig.only]
  · exact stores_field rfl (fun _ h _ => readLong_shown h) fun _ => by simp [AnalogConfig.only]
  · exact stores_field rfl (fun _ h _ => readLong_shown h) fun _ => by simp [AnalogConfig.only]
  · exact stores_field rfl (fun _ h _ => (readReal_shown h).trans (hreal hkeep)) fun _ => by simp [AnalogConfig.only]
  · exact stores_field rfl (fun _ h _ => readWord_shown h) fun _ => by simp [AnalogConfig.only]

theorem bus_stores {c initial : BusConfig} :
    ∀ m ∈ (busValue c).members, Stores busFields (c.only initial) (m.1, m.2.Shown) := by
  simp only [busValue, Value.members, List.forall_mem_cons]
  refine ⟨?_, ?_, List.forall_mem_nil _⟩
  · exact stores_field rfl (fun _ h _ => readWord_shown h) fun _ => by simp [BusConfig.only]
  · exact stores_field rfl (fun _ h _ => readSpeeds_shown h) fun _ => by simp [BusConfig.only]

theorem wireless_stores {c : WirelessConfig} :
    ∀ m ∈ (wirelessValue c).members, Stores wirelessFields c.only (m.1, m.2.Shown) := by
  simp only [wirelessValue, Value.members, List.forall_mem_cons]
  refine ⟨?_, ?_, ?_, ?_, ?_, ?_, ?_, ?_, List.forall_mem_nil _⟩
  · exact stores_field rfl (fun _ h _ => readBool_shown h) fun _ => by simp [WirelessConfig.only]
  · exact stores_field rfl (fun _ h _ => readBool_shown h) fun _ => by simp [WirelessConfig.only]
  · exact stores_field rfl (fun _ h _ => readOptional_shown h) fun _ => by simp [WirelessConfig.only]
  · exact stores_field rfl (fun _ h _ => readWord_shown h) fun _ => by simp [WirelessConfig.only]
  · exact stores_field rfl (fun _ h _ => readLong_shown h) fun _ => by simp [WirelessConfig.only]
  · exact stores_field rfl (fun _ h _ => readLong_shown h) fun _ => by simp [WirelessConfig.only]
  · exact stores_field rfl (fun _ h _ => readOptional_shown h) fun _ => by simp [WirelessConfig.only]
  · exact stores_field rfl (fun _ h _ => readOptional_shown h) fun _ => by simp [WirelessConfig.only]

/-! ## Sections -/

section

variable {keep : String → Bool} {o : Outline}

theorem readAnalog_excerpt {c : AnalogConfig} {x : Float}
    (hreal : keep "reference_voltage" = true → reread c.referenceVoltage = .ok x)
    (h : (analogValue c).Excerpt keep (fun setting => setting.2.Shown) o) (hskip : o.skip = .ok ()) :
    readRecord analogFields {} o = .ok ({ c with referenceVoltage := x }.only keep) := by
  refine readRecord_excerpt h hskip rfl (by simp [analogValue, Value.members]) rfl (analog_stores hreal) fun _ hsame => ?_
  simp only [analogValue, Value.members, List.map_cons, List.forall_mem_cons] at hsame
  simp [AnalogConfig.only, hsame]

theorem readBus_excerpt {c initial : BusConfig}
    (h : (busValue c).Excerpt keep (fun setting => setting.2.Shown) o) (hskip : o.skip = .ok ()) :
    readRecord busFields initial o = .ok (c.only initial keep) := by
  refine readRecord_excerpt h hskip rfl (by simp [busValue, Value.members]) rfl (fun m hm _ => bus_stores m hm)
    fun _ hsame => ?_
  simp only [busValue, Value.members, List.map_cons, List.forall_mem_cons] at hsame
  simp [BusConfig.only, hsame]

theorem readWireless_excerpt {c : WirelessConfig}
    (h : (wirelessValue c).Excerpt keep (fun setting => setting.2.Shown) o) (hskip : o.skip = .ok ()) :
    readRecord wirelessFields {} o = .ok (c.only keep) := by
  refine readRecord_excerpt h hskip rfl (by simp [wirelessValue, Value.members]) rfl
    (fun m hm _ => wireless_stores m hm) fun _ hsame => ?_
  simp only [wirelessValue, Value.members, List.map_cons, List.forall_mem_cons] at hsame
  simp [WirelessConfig.only, hsame]

end

/-! ## Documents -/

variable {c : Config} {e : Extent} {o : Outline} {text : String}

/-- These settings with another reference voltage. -/
def withVoltage (c : Config) (x : Float) : Config := { c with analog := { c.analog with referenceVoltage := x } }

/-- **The reference voltage comes back** as `x` from its own text, if it is mentioned. A number is not always read as
the double that is nearest to it, so that `x` may be another one. -/
def Rereads (c : Config) (e : Extent) (x : Float) : Prop :=
  e.sections "analog" = true → e.settings "analog" "reference_voltage" = true → reread c.analog.referenceVoltage = .ok x

theorem section_stores {x : Float} (hreal : c.Rereads e x) :
    ∀ m ∈ c.value.members, e.sections m.1 = true → Stores fields (fun keep => (c.withVoltage x).only ⟨keep, e.settings⟩)
      (m.1, m.2.Excerpt (e.settings m.1) fun setting => setting.2.Shown) := by
  simp only [value, Value.members, List.forall_mem_cons]
  refine ⟨fun hkeep => ?_, fun _ => ?_, fun _ => ?_, fun _ => ?_, List.forall_mem_nil _⟩
  · exact stores_field rfl (fun _ => readAnalog_excerpt (hreal hkeep)) fun _ => by simp [only, withVoltage]
  · exact stores_field rfl (fun _ => readBus_excerpt) fun _ => by simp [only, withVoltage]
  · exact stores_field rfl (fun _ => readBus_excerpt) fun _ => by simp [only, withVoltage]
  · exact stores_field rfl (fun _ => readWireless_excerpt) fun _ => by simp [only, withVoltage]

/-- **A document is read as the settings that it mentions**, with defaults for the rest. -/
theorem read_excerpt {x : Float} (hreal : c.Rereads e x) (h : c.Excerpt e o) (htext : o.IsText text) :
    read text = .ok ((c.withVoltage x).only e) := by
  rw [read, readDocument_of_isText htext]
  refine readRecord_excerpt h htext.skip rfl (by simp [value, Value.members]) rfl (section_stores hreal) fun _ hsame => ?_
  simp only [value, Value.members, List.map_cons, List.forall_mem_cons] at hsame
  simp [only, hsame]

/-- Settings that could be read are checked. -/
theorem parse_of_read (h : read text = .ok c) :
    parse text = match c.check with
      | .ok () => .ok c
      | .error defect => .error (.invalid defect) := by
  rw [parse, h]
  cases hcheck : c.check with
  | ok _ => simp [Except.mapError, bind, Except.bind, pure, Except.pure, hcheck]
  | error defect => simp [Except.mapError, bind, Except.bind, hcheck]

/-- **Documents that leave settings out.** A text of any excerpt of given settings, in whatever order its members come
and whatever other names stand between them, is parsed as these settings with defaults for whatever is left out; what
is checked is the result. The reference voltage has to come back from its text, if it is mentioned. -/
theorem parse_excerpt (hreal : c.Rereads e c.analog.referenceVoltage) (h : c.Excerpt e o) (htext : o.IsText text) :
    parse text = match (c.only e).check with
      | .ok () => .ok (c.only e)
      | .error defect => .error (.invalid defect) :=
  parse_of_read (read_excerpt hreal h htext)

/-! ## A document with two settings -/

/-- Settings that do not pass the check: no reading is above zero, and a text is no hardware address. -/
def sparse : Config where
  analog := { referenceVoltage := 2.5, maxRawValue := 0 }
  wireless := { scanPeriodMs := 10000, macAddress := some "none" }

/-- The reference voltage and the time between scans. -/
def sparseExtent : Extent where
  sections name := name == "analog" || name == "wifi"
  settings part name := part == "analog" && name == "reference_voltage" || part == "wifi" && name == "scan_period_ms"

/-- A document that mentions these, in another order and between other names. -/
def sparseText : String :=
  "\x7b \"wifi\": \x7b\"ssid\": null, \"scan_period_ms\": 10000\x7d, \"note\": [], " ++
    "\"analog\": \x7b\"reference_voltage\": 2.5\x7d\x7d"

/-- A name as it is spelt without escapes. -/
def plainKey (name : String) : Quoted := ⟨name.toList.map .char, none⟩

/-- Two and a half. -/
def sparseVoltage : Numeral := ⟨false, [2], [5], none, true⟩

/-- The outline of the document. -/
def sparseOutline : Outline :=
  .object
    [(plainKey "wifi", .object [(plainKey "ssid", .null), (plainKey "scan_period_ms", .number (.ofNat 10000))] none),
      (plainKey "note", .array [] none),
      (plainKey "analog", .object [(plainKey "reference_voltage", .number sparseVoltage)] none)] none

theorem spelt_plain (cs : List Char) (h : cs.all (fun c => c != '"' && c != '\\' && decide (32 ≤ c.toNat)) = true) :
    PiecesSpelt (cs.map .char) cs := by
  induction cs with
  | nil => exact .nil
  | cons c cs ih =>
      simp only [List.all_cons, Bool.and_eq_true, bne_iff_ne, decide_eq_true_iff] at h
      obtain ⟨⟨⟨hquote, hescape⟩, hcontrol⟩, hrest⟩ := h
      exact .cons (.plain hquote hescape hcontrol) (ih (by simpa using hrest))

theorem spelt_sparseVoltage : Spelt (.value (.number sparseVoltage)) "2.5".toList :=
  .number (.intro false (List.cons_ne_nil 2 []) nofun (by decide) (by decide) .none)

theorem pretty_sparseVoltage : (Value.real 2.5).pretty 0 = "2.5" := by
  have hshortest : Decimal.shortest? realLayout 2.5 = some "2.5" := by decide +kernel
  rw [Value.pretty, hshortest]
  rfl

theorem sparse_isText : sparseOutline.IsText sparseText := by
  have hwifi := spelt_plain "wifi".toList rfl
  have hssid := spelt_plain "ssid".toList rfl
  have hscan := spelt_plain "scan_period_ms".toList rfl
  have hnote := spelt_plain "note".toList rfl
  have hanalog := spelt_plain "analog".toList rfl
  have hvoltage := spelt_plain "reference_voltage".toList rfl
  have hwireless := Spelt.object (.members gaps_nil hssid gaps_nil gaps_blank .null gaps_nil
    (.member gaps_blank hscan gaps_nil gaps_blank (.number (Numeral.spelt_ofNat 10000)) gaps_nil))
  have hsampling := Spelt.object (.member gaps_nil hvoltage gaps_nil gaps_blank spelt_sparseVoltage gaps_nil)
  have hdocument := Spelt.object (.members gaps_blank hwifi gaps_nil gaps_blank hwireless gaps_nil
    (.members gaps_blank hnote gaps_nil gaps_blank (.noItems gaps_nil) gaps_nil
      (.member gaps_blank hanalog gaps_nil gaps_blank hsampling gaps_nil)))
  exact Spelt.isText hdocument

theorem sparse_excerpt : sparse.Excerpt sparseExtent sparseOutline := by
  have hwireless : (wirelessValue sparse.wireless).Excerpt (sparseExtent.settings "wifi") (fun setting => setting.2.Shown)
      (.object [(plainKey "ssid", .null), (plainKey "scan_period_ms", .number (.ofNat 10000))] none) :=
    ⟨_, rfl, .other rfl (by decide) (@Mixed.due _ [] [] _ _ _ _ _ rfl (.natural 10000) .done)⟩
  have hvoltage : (Value.real 2.5).Shown (.number sparseVoltage) :=
    .real (pretty_sparseVoltage ▸ spelt_sparseVoltage.isText)
  have hanalog : (analogValue sparse.analog).Excerpt (sparseExtent.settings "analog") (fun setting => setting.2.Shown)
      (.object [(plainKey "reference_voltage", .number sparseVoltage)] none) :=
    ⟨_, rfl, @Mixed.due _ [] [] _ _ _ _ _ rfl hvoltage .done⟩
  exact ⟨_, rfl, @Mixed.due _ [_] [] _ _ _ _ _ rfl hwireless
    (.other rfl (by decide) (@Mixed.due _ [] [] _ _ _ _ _ rfl hanalog .done))⟩

/-- What is wrong with the settings that are left out is nothing to the document. -/
theorem parse_excerpt_sparse :
    sparse.Rereads sparseExtent sparse.analog.referenceVoltage ∧ sparse.Excerpt sparseExtent sparseOutline ∧
      sparseOutline.IsText sparseText ∧
      parse sparseText = .ok { analog := { referenceVoltage := 2.5 }, wireless := { scanPeriodMs := 10000 } } := by
  have hreread : reread 2.5 = .ok 2.5 := by
    rw [reread, pretty_sparseVoltage]
    rfl
  have hreal : sparse.Rereads sparseExtent sparse.analog.referenceVoltage := fun _ _ => hreread
  exact ⟨hreal, sparse_excerpt, sparse_isText, parse_excerpt hreal sparse_excerpt sparse_isText⟩

end Config

end Peripherals
