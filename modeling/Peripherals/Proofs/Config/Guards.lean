import Peripherals.Proofs.Bus.Traffic
import Peripherals.Proofs.Call.Desk

/-!
# `Proofs.Config.Guards` — checked settings meet no guard again

The ranges of settings are checked once, when a board is made. Ports, buses and adapters have guards of their own
against the same faults: a port that would take no samples is refused, a converter never has a largest reading of zero,
a time between scans is judged again, a time between two looks is never zero, a retry count is raised, a text that is
no hardware address is passed over. None of these guards ever acts on settings that passed the check, except that the
retry count has no range of its own and may be raised.

* `Config.InRange`, `Config.check_eq_ok_iff` — what the check establishes;
* `Adapter.Addressed` — an adapter knows of its hardware addresses what is configured, whatever was done with it;
* `Device.Unhindered` — what a board makes of its settings;
* `Device.unhindered_of_check` — every board with checked settings.
-/

namespace Peripherals

open Hardware

/-! ## Adapters -/

namespace Coprocessor

/-- **The settings of an adapter are what they were**, and it has not been asked for its addresses in between. -/
structure Adapter.Keeps (a a' : Adapter) : Prop where
  config : a'.config = a.config
  station : a'.station = a.station
  softAp : a'.softAp = a.softAp

namespace Adapter

theorem Keeps.refl (a : Adapter) : a.Keeps a := ⟨rfl, rfl, rfl⟩

theorem Keeps.trans {a a₁ a₂ : Adapter} (h₀₁ : a.Keeps a₁) (h₁₂ : a₁.Keeps a₂) : a.Keeps a₂ :=
  ⟨h₁₂.config.trans h₀₁.config, h₁₂.station.trans h₀₁.station, h₁₂.softAp.trans h₀₁.softAp⟩

theorem keeps_publish (a : Adapter) (ns : List Notice) : a.Keeps (a.publish ns) := by
  rw [publish_eq]
  exact ⟨rfl, rfl, rfl⟩

theorem keeps_advance (a : Adapter) (t : Transition) : a.Keeps (a.advance t) := by
  have hsession : a.Keeps { a with session := t.session } := ⟨rfl, rfl, rfl⟩
  exact hsession.trans (keeps_publish _ t.notices)

theorem keeps_dispatch (a : Adapter) (e : Event) (wall : Nat) : a.Keeps (a.dispatch e wall).1 := by
  unfold dispatch
  split
  · exact keeps_advance a _
  · exact ⟨rfl, rfl, rfl⟩

end Adapter

/-- What a turn comes to leaves the settings of the adapter alone. -/
def Turn.Keeps (a : Adapter) : Turn → Prop
  | .wait => True
  | .goOn a' _ | .over a' _ _ => a.Keeps a'

namespace Call

variable {a : Adapter}

theorem keeps_start {now : Nat} {cancelled : Bool} {request : Request} {started : Started}
    (h : start a now cancelled request = .ok started) : a.Keeps started.adapter := by
  rcases start_cases h with ⟨_, _, _, s, -, -, hadapter, -⟩ | ⟨_, s, -, -, hadapter, -⟩ | ⟨hadapter, -, -⟩
  · exact hadapter ▸ ⟨rfl, rfl, rfl⟩
  · exact hadapter ▸ ⟨rfl, rfl, rfl⟩
  · exact hadapter ▸ .refl a

/-- **No turn touches the settings**: it is a transition of the session, the choice of an antenna, or nothing. -/
theorem keeps_turn (a : Adapter) (now : Nat) (cancelled : Bool) (reply : Option (Except Error Response)) (call : Call)
    (first : Wait) : (turn a now cancelled reply call first).Keeps a := by
  have houtcome := outcome_turn a now cancelled reply call first
  generalize turn a now cancelled reply call first = turn at houtcome
  cases houtcome with
  | wait => trivial
  | goOn _ => exact Adapter.Keeps.refl a
  | done t _ _ => exact a.keeps_advance t
  | chosen _ => exact ⟨rfl, rfl, rfl⟩

end Call

namespace Desk

theorem keeps_act (d : Desk) (m : Move) : d.adapter.Keeps (d.act m).adapter := by
  cases m with
  | ask request now cancelled =>
      simp only [act]
      split
      · exact .refl d.adapter
      · next h => exact Call.keeps_start h
  | turn n now cancelled reply first =>
      simp only [act]
      split
      · exact .refl d.adapter
      · next call _ =>
        have hturn := call.keeps_turn d.adapter now cancelled reply first
        generalize Call.turn d.adapter now cancelled reply call first = turn at hturn
        rcases turn with _ | ⟨a', _⟩ | ⟨a', _, _⟩
        · exact .refl d.adapter
        · exact hturn
        · exact hturn
  | event e wall => exact d.adapter.keeps_dispatch e wall

/-! ### Hardware addresses -/

/-- What can be done with an adapter: a move at its desk, a setting, or a question for an address. -/
inductive Doing where
  | move (m : Move)
  | setScanPeriod (period : Duration)
  | setRetryCount (count : UInt32)
  | askStation
  | askSoftAp

/-- **Does something with an adapter.** A setting that is refused does nothing. -/
def undergo (d : Desk) : Doing → Desk
  | .move m => d.act m
  | .setScanPeriod period =>
    match d.adapter.setScanPeriod period with
    | .ok adapter => { d with adapter }
    | .error _ => d
  | .setRetryCount count => { d with adapter := (d.adapter.setRetryCount count).1 }
  | .askStation => { d with adapter := d.adapter.stationMac.2.1 }
  | .askSoftAp => { d with adapter := d.adapter.softApMac.2.1 }

/-- An adapter after a history. -/
def after (d : Desk) (history : List Doing) : Desk := history.foldl undergo d

end Desk

namespace Adapter

/-- An address is the one that a text spells; there is none if there is no text. -/
def IsSpelt (mac : Option Mac) (text : Option String) : Prop := mac.map Except.ok = text.map Mac.parse

/-- **What an adapter knows of its addresses is what is configured.** -/
structure Addressed (c : WirelessConfig) (a : Adapter) : Prop where
  config : a.config = c
  station : ∀ mac, a.station = some mac → IsSpelt mac c.macAddress
  softAp : ∀ mac, a.softAp = some mac → IsSpelt mac c.softApMacAddress

variable {config : WirelessConfig} {a a' : Adapter} {text : Option String}

theorem Addressed.kept (h : Addressed config a) (hkeeps : a.Keeps a') : Addressed config a' :=
  ⟨hkeeps.config.trans h.config, hkeeps.station ▸ h.station, hkeeps.softAp ▸ h.softAp⟩

/-- A text that is a hardware address is not passed over. -/
theorem resolveMac_of_spells (label : String) (h : Config.SpellsMac text) :
    IsSpelt (resolveMac label text).1 text ∧ (resolveMac label text).2 = [] := by
  cases text with
  | none => exact ⟨rfl, rfl⟩
  | some s =>
      obtain ⟨mac, hmac⟩ := h s rfl
      have hresolved : resolveMac label (some s) = (some mac, []) := by simp only [resolveMac, hmac]
      rw [hresolved]
      exact ⟨congrArg some hmac.symm, rfl⟩

/-- The station has the address that is configured, and asking for it is nothing to warn of. -/
theorem Addressed.stationMac (h : Addressed config a) (hspells : Config.SpellsMac config.macAddress) :
    IsSpelt a.stationMac.1 config.macAddress ∧ a.stationMac.2.2 = [] ∧ Addressed config a.stationMac.2.1 := by
  obtain ⟨rfl, hstation, hsoftAp⟩ := h
  unfold Adapter.stationMac
  split
  · next mac hknown => exact ⟨hstation mac hknown, rfl, rfl, hstation, hsoftAp⟩
  · obtain ⟨hspelt, hlines⟩ := resolveMac_of_spells "station" hspells
    refine ⟨hspelt, hlines, rfl, fun mac hmac => ?_, hsoftAp⟩
    rw [← Option.some.inj hmac]
    exact hspelt

/-- The access point has the address that is configured, and asking for it is nothing to warn of. -/
theorem Addressed.softApMac (h : Addressed config a) (hspells : Config.SpellsMac config.softApMacAddress) :
    IsSpelt a.softApMac.1 config.softApMacAddress ∧ a.softApMac.2.2 = [] ∧ Addressed config a.softApMac.2.1 := by
  obtain ⟨rfl, hstation, hsoftAp⟩ := h
  unfold Adapter.softApMac
  split
  · next mac hknown => exact ⟨hsoftAp mac hknown, rfl, rfl, hstation, hsoftAp⟩
  · obtain ⟨hspelt, hlines⟩ := resolveMac_of_spells "soft AP" hspells
    refine ⟨hspelt, hlines, rfl, hstation, fun mac hmac => ?_⟩
    rw [← Option.some.inj hmac]
    exact hspelt

end Adapter

namespace Desk

open Adapter

variable {config : WirelessConfig} {d : Desk}

/-- **Whatever is done with an adapter**, it knows of its addresses what is configured. -/
theorem addressed_undergo (hstation : Config.SpellsMac config.macAddress)
    (hsoftAp : Config.SpellsMac config.softApMacAddress) (h : Addressed config d.adapter) (doing : Doing) :
    Addressed config (d.undergo doing).adapter := by
  cases doing with
  | move m => exact h.kept (d.keeps_act m)
  | setScanPeriod period =>
      simp only [undergo]
      split
      · next a hset =>
        unfold Adapter.setScanPeriod at hset
        split at hset
        · obtain rfl := Except.ok.inj hset
          exact h.kept ⟨rfl, rfl, rfl⟩
        · contradiction
      · exact h
  | setRetryCount count => exact h.kept ⟨rfl, rfl, rfl⟩
  | askStation => exact (h.stationMac hstation).2.2
  | askSoftAp => exact (h.softApMac hsoftAp).2.2

theorem addressed_after (hstation : Config.SpellsMac config.macAddress)
    (hsoftAp : Config.SpellsMac config.softApMacAddress) (h : Addressed config d.adapter) (history : List Doing) :
    Addressed config (d.after history).adapter := by
  induction history generalizing d with
  | nil => exact h
  | cons doing rest ih => exact ih (addressed_undergo hstation hsoftAp h doing)

end Desk

/-- **What an adapter makes of its settings**, as it is made and whatever is done with it from then on. -/
structure Adapter.Serves (c : WirelessConfig) (a : Adapter) : Prop where
  scanPeriod : a.scanPeriod = .ofMillis c.scanPeriodMs.toNat
  /-- The retry count has no range, so that it may have to be raised. -/
  retryCount : a.retryCount.toNat = max c.maximumRetryCount.toNat 3
  pollInterval : ∀ history, ((Desk.idle a).after history).adapter.pollInterval = c.connectPollIntervalMs.toNat
  station : ∀ history, Adapter.IsSpelt ((Desk.idle a).after history).adapter.stationMac.1 c.macAddress ∧
    ((Desk.idle a).after history).adapter.stationMac.2.2 = []
  softAp : ∀ history, Adapter.IsSpelt ((Desk.idle a).after history).adapter.softApMac.1 c.softApMacAddress ∧
    ((Desk.idle a).after history).adapter.softApMac.2.2 = []

/-- The guard of an adapter against a time between scans is the range of that time. -/
theorem Adapter.allowsScanPeriod_iff (ms : UInt64) :
    allowsScanPeriod (.ofMillis ms.toNat) = true ↔ 1000 ≤ ms ∧ ms ≤ 60000 := by
  have hnanos : (Duration.ofMillis ms.toNat).nanos = ms.toNat * 1000000 := rfl
  rw [allowsScanPeriod_eq_true, hnanos, UInt64.le_iff_toNat_le, UInt64.le_iff_toNat_le]
  simp only [UInt64.reduceToNat]
  omega

/-- **An adapter is never refused settings in their ranges**, and makes of them what they say. -/
theorem Adapter.create_of_inRange {c : Config} (h : c.InRange) (wall : Nat) :
    ∃ a, Adapter.create c.wireless true wall = .ok a ∧ a.Serves c.wireless := by
  have hallowed : allowsScanPeriod (Config.scanPeriod c.wireless) = true :=
    (Adapter.allowsScanPeriod_iff c.wireless.scanPeriodMs).mpr h.scanPeriod
  have hpoll : c.wireless.connectPollIntervalMs.toNat ≠ 0 := fun hzero =>
    h.connectPollInterval (UInt64.toNat_inj.mp hzero)
  have hcreate : ∃ a, Adapter.create c.wireless true wall = .ok a ∧ a.config = c.wireless ∧
      a.scanPeriod = Config.scanPeriod c.wireless ∧
      a.retryCount = max c.wireless.maximumRetryCount minRetryCount ∧ a.station = none ∧ a.softAp = none := by
    simp [create, hallowed]
  obtain ⟨a, ha, hconfig, hperiod, hretry, hstation, hsoftAp⟩ := hcreate
  have haddressed : Addressed c.wireless (Desk.idle a).adapter :=
    ⟨hconfig, fun mac hmac => absurd (hstation.symm.trans hmac) nofun,
      fun mac hmac => absurd (hsoftAp.symm.trans hmac) nofun⟩
  have hlater := Desk.addressed_after h.macAddress h.softApMacAddress haddressed
  refine ⟨a, ha, ?_⟩
  exact
    { scanPeriod := hperiod
      retryCount := by
        rw [hretry, UInt32.toNat_max]
        rfl
      pollInterval := fun history => by
        rw [pollInterval, (hlater history).config]
        omega
      station := fun history =>
        have hasked := (hlater history).stationMac h.macAddress
        ⟨hasked.1, hasked.2.1⟩
      softAp := fun history =>
        have hasked := (hlater history).softApMac h.softApMacAddress
        ⟨hasked.1, hasked.2.1⟩ }

end Coprocessor

/-! ## Boards -/

namespace AnalogPort

/-- A reading on demand never fails for want of samples. -/
theorem stepReading_ne_noSamples (p : AnalogPort) (reading : Reading) (now : Nat) (h : Hardware) :
    (p.stepReading reading now h).1 ≠ .finished (.error .noSamples) := by
  unfold stepReading
  split
  · exact nofun
  · rw [run_bind]
    cases (p.sample.run h).1 with
    | error e =>
        intro hsame
        cases hsame
    | ok v =>
        dsimp only
        split
        · exact nofun
        · -- With the sample just taken there is something to take the mean of.
          cases hmean : Voltage.mean? (reading.taken ++ [v]) with
          | some mean => exact nofun
          | none => exact absurd (Voltage.mean?_eq_none_iff.mp hmean) (by simp)

/-- An analog port that is to take samples is refused only if its pin is. -/
theorem create_cases {options : AnalogOptions} (hcount : options.count ≠ 0) (converter : Converter) (pin : Pin)
    (h : Hardware) :
    (∃ p h', (create converter pin options).run h = (.ok p, h') ∧ p.count = options.count) ∨
      ∃ cause h', (create converter pin options).run h = (.error (.reservation cause), h') := by
  obtain ⟨h₁, hclaim, -, -⟩ := Port.run_acquireBy pin (·.reserveChecked pin .analogInput) h
  rw [create, if_neg hcount]
  cases hresult : (h.arbiter.reserveChecked pin .analogInput).result with
  | ok token =>
      rw [hresult] at hclaim
      exact .inl ⟨_, h₁, attempt_ok hclaim, rfl⟩
  | error cause =>
      rw [hresult] at hclaim
      exact .inr ⟨cause, h₁, attempt_error hclaim⟩

end AnalogPort

/-- A two-wire bus on pins of one bus is made at whatever speed. -/
theorem TwoWireBus.create_of_number {clock data : Pin} {number : UInt8} (hnumber : number? clock data = .ok number)
    (requested : UInt32) (speeds : List UInt32) (h : Hardware) :
    ∃ b h', (create clock data requested speeds).run h = (.ok b, h') := by
  rw [create, hnumber]
  exact ⟨_, _, rfl⟩

/-- A four-wire bus on pins of one bus is made with whatever settings. -/
theorem FourWireBus.create_of_number {clock dataOut dataIn : Pin} {number : UInt8}
    (hnumber : number? clock dataOut dataIn = .ok number) (settings : ClockSettings) (speeds : List UInt32)
    (h : Hardware) : ∃ b h', (create clock dataOut dataIn settings speeds).run h = (.ok b, h') := by
  rw [create, hnumber]
  exact ⟨_, _, rfl⟩

namespace Device

/-- The named pins carry the channels of one bus. -/
def Suits (d : Device) : BusRequest → Prop
  | .twoWire clock data _ => ∃ clockPin dataPin number, d.pin clock = .ok clockPin ∧ d.pin data = .ok dataPin ∧
      TwoWireBus.number? clockPin dataPin = .ok number
  | .fourWire clock dataOut dataIn _ => ∃ clockPin outPin inPin number, d.pin clock = .ok clockPin ∧
      d.pin dataOut = .ok outPin ∧ d.pin dataIn = .ok inPin ∧
      FourWireBus.number? clockPin outPin inPin = .ok number

/-- **No guard of a board acts on its settings.** -/
structure Unhindered (c : Config) (d : Device) : Prop where
  /-- The largest reading of the converter is the one that is configured. -/
  maxRaw : d.converter.maxRaw = c.analog.maxRawValue
  /-- An analog port that samples as configured is refused only if there is no such pin or it cannot be claimed. -/
  analog_refused : ∀ name h e h', (d.analogPort name none).run h = (.error e, h') →
    e = .unknownPin name ∨ ∃ cause, e = .port (.reservation cause)
  /-- Its batches are as long as configured, and no reading on demand fails for want of samples. -/
  analog_made : ∀ name h p h', (d.analogPort name none).run h = (.ok p, h') →
    p.count = c.analog.sampleCount.toNat ∧ 0 < p.count ∧
      ∀ reading now found, (p.stepReading reading now found).1 ≠ .finished (.error .noSamples)
  /-- A bus on pins that suit it is never refused. -/
  bus_made : ∀ request, d.Suits request → ∀ h, ∃ b h', (d.bus request).run h = (.ok b, h')
  /-- A bus runs at a speed that is configured, whatever is asked for, now and later. -/
  bus_runs : ∀ request h b h', (d.bus request).run h = (.ok b, h') → ∀ history : List (Hardware × AnyBus.Use),
    (b.run history).engine.frequency ∈ request.speeds c
  /-- An adapter is never refused where tasks can run, and makes of its settings what they say. -/
  adapter : ∀ wall, ∃ a, Coprocessor.Adapter.create d.config.wireless true wall = .ok a ∧ a.Serves c.wireless

variable {d : Device}

theorem run_adapt {α ε ε' : Type} {x : Attempt ε α} {f : ε → ε'} {result : Except ε α} {h h' : Hardware}
    (hrun : x.run h = (result, h')) : (x.adapt f).run h = (result.mapError f, h') := by
  have hadapt : (x.adapt f).run h = ((x.run h).1.mapError f, (x.run h).2) := rfl
  rw [hadapt, hrun]

theorem analogPort_cases {options : AnalogOptions} (hoptions : Config.analogOptions d.config.analog = options)
    (hcount : options.count ≠ 0) (name : String) (h : Hardware) :
    (∃ p h', (d.analogPort name none).run h = (.ok p, h') ∧ p.count = options.count) ∨
      ∃ e h', (d.analogPort name none).run h = (.error e, h') ∧
        (e = .unknownPin name ∨ ∃ cause, e = .port (.reservation cause)) := by
  have hfind := run_findPin d name h
  unfold analogPort
  cases hpin : d.pin name with
  | error e =>
      rw [hpin] at hfind
      refine .inr ⟨e, h, attempt_error hfind, .inl ?_⟩
      unfold pin at hpin
      split at hpin
      · contradiction
      · exact (Except.error.inj hpin).symm
  | ok pin =>
      rw [hpin] at hfind
      rw [attempt_ok hfind, Option.getD_none, hoptions]
      rcases AnalogPort.create_cases hcount d.converter pin h with ⟨p, h', hrun, hp⟩ | ⟨cause, h', hrun⟩
      · exact .inl ⟨p, h', run_adapt hrun, hp⟩
      · exact .inr ⟨_, h', run_adapt hrun, .inr ⟨cause, rfl⟩⟩

/-- A bus is refused only for its pins, and never for its speed. -/
theorem bus_of_suits {request : BusRequest} (hsuits : d.Suits request) (h : Hardware) :
    ∃ b h', (d.bus request).run h = (.ok b, h') := by
  have hfind {name : String} {pin : Pin} (hpin : d.pin name = .ok pin) : (d.findPin name).run h = (.ok pin, h) := by
    rw [run_findPin, hpin]
  cases request with
  | twoWire clock data requested =>
      obtain ⟨clockPin, dataPin, number, hclock, hdata, hnumber⟩ := hsuits
      obtain ⟨b, h', hcreate⟩ := TwoWireBus.create_of_number hnumber
        (requested.getD d.config.twoWire.defaultHz) d.config.twoWire.supportedHz h
      have hbus : (d.twoWireBus clock data requested).run h = (.ok b, h') := by
        unfold twoWireBus
        rw [attempt_ok (hfind hclock), attempt_ok (hfind hdata)]
        exact run_adapt hcreate
      exact ⟨_, h', attempt_ok hbus⟩
  | fourWire clock dataOut dataIn requested =>
      obtain ⟨clockPin, outPin, inPin, number, hclock, hout, hin, hnumber⟩ := hsuits
      obtain ⟨b, h', hcreate⟩ := FourWireBus.create_of_number hnumber
        (requested.getD ⟨d.config.fourWire.defaultHz, .mode0⟩) d.config.fourWire.supportedHz h
      have hbus : (d.fourWireBus clock dataOut dataIn requested).run h = (.ok b, h') := by
        unfold fourWireBus
        rw [attempt_ok (hfind hclock), attempt_ok (hfind hout), attempt_ok (hfind hin)]
        exact run_adapt hcreate
      exact ⟨_, h', attempt_ok hbus⟩

/-- **Checked settings meet no guard again.** Settings that pass the check make a board, and no guard of the board, of
its ports, of its buses or of an adapter ever acts on them. -/
theorem unhindered_of_check {c : Config} (pins : List Pin) (h : c.check = .ok ()) :
    ∃ d lines, create pins c = .ok (d, lines) ∧ d.pins = pins ∧ d.config = c ∧ d.Unhindered c := by
  have hrange := Config.check_eq_ok_iff.mp h
  have hcount : (Config.analogOptions c.analog).count ≠ 0 := fun hzero =>
    hrange.sampleCount (UInt64.toNat_inj.mp hzero)
  have hcreate : create pins c = .ok (⟨pins, c, .new c.analog.maxRawValue⟩,
      [⟨.info, s!"Device ready with {pins.length} pins"⟩]) := by
    rw [create, h]
    rfl
  refine ⟨_, _, hcreate, rfl, rfl, ?_⟩
  have hport := analogPort_cases (d := ⟨pins, c, .new c.analog.maxRawValue⟩) rfl hcount
  exact
    { maxRaw := if_neg hrange.maxRawValue
      analog_refused := fun name found e h' hrun => by
        rcases hport name found with ⟨p, _, hmade, -⟩ | ⟨e', _, hrefused, he'⟩
        · exact nomatch hrun.symm.trans hmade
        · obtain rfl : e = e' := Except.error.inj (Prod.mk.inj (hrun.symm.trans hrefused)).1
          exact he'
      analog_made := fun name found p h' hrun => by
        rcases hport name found with ⟨p', _, hmade, hp'⟩ | ⟨_, _, hrefused, -⟩
        · obtain rfl : p = p' := Except.ok.inj (Prod.mk.inj (hrun.symm.trans hmade)).1
          exact ⟨hp', hp' ▸ Nat.pos_of_ne_zero hcount, p.stepReading_ne_noSamples⟩
        · exact nomatch hrun.symm.trans hrefused
      bus_made := fun request hsuits => bus_of_suits hsuits
      bus_runs := fun request found b h' hrun history => by
        have hspeeds : request.speeds c ≠ [] := by
          cases request with
          | twoWire _ _ _ => exact hrange.twoWire
          | fourWire _ _ _ _ => exact hrange.fourWire
        obtain ⟨number, -, hsettled⟩ := settled_bus hspeeds hrun
        exact (AnyBus.settled_run hsettled history).engine.frequency
      adapter := Coprocessor.Adapter.create_of_inRange hrange }

/-! ## Settings at the edges of their ranges -/

/-- One sample, one look a millisecond, the longest time between scans, no retries, and an address for the access
point only. -/
def edgeConfig : Config where
  analog := { Config.standard.analog with sampleCount := 1, maxRawValue := 1 }
  twoWire := { Config.standard.twoWire with supportedHz := [0] }
  fourWire := { Config.standard.fourWire with supportedHz := [4294967295, 1] }
  wireless :=
    { Config.standard.wireless with
      scanPeriodMs := 60000
      connectPollIntervalMs := 1
      maximumRetryCount := 0
      macAddress := none
      softApMacAddress := some "02:00:00:00:00:FF" }

/-- The address of the access point. -/
def edgeMac : Mac := ⟨[2, 0, 0, 0, 0, 255], rfl⟩

/-- A board with these settings: the retry count is raised, and nothing else is touched. -/
theorem unhindered_of_check_edge :
    edgeConfig.check = .ok () ∧ ∃ d lines, create AnyBus.wiredPins edgeConfig = .ok (d, lines) ∧
      d.converter.maxRaw = 1 ∧
      (∃ b h', (d.bus AnyBus.wiredRequest).run .empty = (.ok b, h') ∧ b.engine.frequency ∈ [4294967295, 1]) ∧
      ∃ a, Coprocessor.Adapter.create d.config.wireless true 0 = .ok a ∧ a.scanPeriod = .ofMillis 60000 ∧
        a.retryCount.toNat = 3 ∧ a.pollInterval = 1 ∧ a.stationMac.1 = none ∧ a.softApMac.1 = some edgeMac := by
  have hcheck : edgeConfig.check = .ok () := rfl
  have hmac : Mac.parse "02:00:00:00:00:FF" = .ok edgeMac := rfl
  obtain ⟨d, lines, hd, hpins, hconfig, hunhindered⟩ := unhindered_of_check AnyBus.wiredPins hcheck
  have hsuits : d.Suits AnyBus.wiredRequest := by
    simp only [Suits, AnyBus.wiredRequest, Device.pin, hpins]
    exact ⟨_, _, _, 2, rfl, rfl, rfl, rfl⟩
  obtain ⟨b, h', hbus⟩ := hunhindered.bus_made _ hsuits .empty
  obtain ⟨a, ha, hserves⟩ := hunhindered.adapter 0
  have hstation : a.stationMac.1.map Except.ok = none := (hserves.station []).1
  have hsoftAp : a.softApMac.1.map Except.ok = some (.ok edgeMac) :=
    (hserves.softAp []).1.trans (congrArg some hmac)
  obtain ⟨mac, hknown, hsame⟩ := Option.map_eq_some_iff.mp hsoftAp
  exact ⟨hcheck, d, lines, hd, hunhindered.maxRaw, ⟨b, h', hbus, hunhindered.bus_runs _ _ _ _ hbus []⟩, a, ha,
    hserves.scanPeriod, hserves.retryCount, hserves.pollInterval [], Option.map_eq_none_iff.mp hstation,
    hknown.trans (congrArg some (Except.ok.inj hsame))⟩

end Device

end Peripherals
