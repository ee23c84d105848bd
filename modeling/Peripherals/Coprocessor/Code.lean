/-!
# `Peripherals.Coprocessor.Code` — the numbers that name things on the link

Each kind of number has a type for its meaning, `ofWord` / `ofByte` to read it and `toWord` / `toByte` to write
it, and a `name` for diagnostics.

* `Interface` — the subsystem a command is for;
* `Function` — what a command asks for, or what an event reports;
* `Status` — how a command or an event went;
* `Authentication` — the security of a network;
* `Antenna` — which antenna feeds the radio.
-/

namespace Peripherals.Coprocessor

/-! ## Subsystems -/

/-- The subsystem a command is addressed to. -/
inductive Interface where
  | system
  | wireless
  deriving DecidableEq, Repr

/-- The byte of a subsystem. -/
def Interface.toByte : Interface → UInt8
  | .system => 0
  | .wireless => 1

/-- The subsystem with this byte. -/
def Interface.ofByte? : UInt8 → Option Interface
  | 0 => some .system
  | 1 => some .wireless
  | _ => none

/-- Every subsystem has a byte of its own. -/
theorem Interface.ofByte?_eq_some {b : UInt8} {i : Interface} : ofByte? b = some i ↔ b = i.toByte := by
  constructor
  · intro h
    unfold ofByte? at h
    split at h
    · cases h
      rfl
    · cases h
      rfl
    · contradiction
  · rintro rfl
    cases i <;> rfl

/-- The name of a subsystem. -/
def Interface.name : Interface → String
  | .system => "System"
  | .wireless => "WiFi"

/-! ## Functions -/

/-- The wireless commands, and the events that report on them. -/
inductive Function where
  | startInterface
  | stopInterface
  | listAccessPoints
  | connect
  | disconnect
  | setAntenna
  | connected
  | disconnected
  | interfaceStarted
  | interfaceStopped
  | timeUpdated
  deriving DecidableEq, Repr

/-- The number of a function. -/
def Function.toWord : Function → UInt32
  | .startInterface => 1
  | .stopInterface => 2
  | .listAccessPoints => 3
  | .connect => 4
  | .disconnect => 5
  | .setAntenna => 6
  | .connected => 0x101
  | .disconnected => 0x102
  | .interfaceStarted => 0x103
  | .interfaceStopped => 0x104
  | .timeUpdated => 0x105

/-- Every function, commands first. -/
def Function.all : List Function :=
  [.startInterface, .stopInterface, .listAccessPoints, .connect, .disconnect, .setAntenna, .connected,
    .disconnected, .interfaceStarted, .interfaceStopped, .timeUpdated]

/-- The function with this number. -/
def Function.ofWord? (w : UInt32) : Option Function :=
  Function.all.find? fun f => f.toWord == w

theorem Function.mem_all (f : Function) : f ∈ all := by
  cases f <;> decide

theorem Function.toWord_inj {f g : Function} (h : f.toWord = g.toWord) : f = g := by
  cases f <;> cases g <;> first | rfl | exact absurd h (by decide)

/-- Every function has a number of its own. -/
theorem Function.ofWord?_eq_some {w : UInt32} {f : Function} : ofWord? w = some f ↔ w = f.toWord := by
  unfold ofWord?
  constructor
  · intro h
    have hw := List.find?_some h
    exact (eq_of_beq hw).symm
  · rintro rfl
    cases h : all.find? fun g => g.toWord == f.toWord with
    | none => exact absurd (List.find?_eq_none.mp h f f.mem_all) (by simp)
    | some g =>
      have hg := List.find?_some h
      rw [toWord_inj (eq_of_beq hg)]

/-- Whether a function is an event: its number has bit 8 set. -/
def Function.isEvent (f : Function) : Bool := f.toWord &&& 0x100 != 0

/-- The name of a function. -/
def Function.name : Function → String
  | .startInterface => "StartWiFiInterface"
  | .stopInterface => "StopWiFiInterface"
  | .listAccessPoints => "GetAccessPoints"
  | .connect => "ConnectToAccessPoint"
  | .disconnect => "DisconnectFromAccessPoint"
  | .setAntenna => "SetAntenna"
  | .connected => "ConnectToAccessPointEvent"
  | .disconnected => "DisconnectFromAccessPointEvent"
  | .interfaceStarted => "StartWiFiInterfaceEvent"
  | .interfaceStopped => "StopWiFiInterfaceEvent"
  | .timeUpdated => "NtpUpdateEvent"

/-! ## Outcomes -/

/-- How a command or an event went. -/
inductive Status where
  | completed
  | failure
  | invalidInterface
  | invalidFunction
  | notResponding
  | notStarted
  | accessPointNotFound
  | authenticationFailed
  | timeout
  /-- A number without a meaning of its own. -/
  | other (code : UInt32)
  deriving DecidableEq, Repr

/-- The outcome with this number. -/
def Status.ofWord : UInt32 → Status
  | 0 => .completed
  | 1 => .failure
  | 2 => .invalidInterface
  | 3 => .invalidFunction
  | 4 => .notResponding
  | 5 => .notStarted
  | 6 => .accessPointNotFound
  | 7 => .authenticationFailed
  | 8 => .timeout
  | code => .other code

/-- The number of an outcome. -/
def Status.toWord : Status → UInt32
  | .completed => 0
  | .failure => 1
  | .invalidInterface => 2
  | .invalidFunction => 3
  | .notResponding => 4
  | .notStarted => 5
  | .accessPointNotFound => 6
  | .authenticationFailed => 7
  | .timeout => 8
  | .other code => code

/-- The one outcome that is a success. -/
def Status.isOk (s : Status) : Bool := s == .completed

/-- The name of an outcome. -/
def Status.name : Status → String
  | .completed => "CompletedOk"
  | .failure => "Failure"
  | .invalidInterface => "InvalidInterface"
  | .invalidFunction => "InvalidFunction"
  | .notResponding => "CoprocessorNotResponding"
  | .notStarted => "EspWiFiNotStarted"
  | .accessPointNotFound => "AccessPointNotFound"
  | .authenticationFailed => "AuthenticationFailed"
  | .timeout => "Timeout"
  | .other code => s!"status {code}"

/-- **Canonical outcomes** are those that a number stands for: a known meaning is never spelt as a bare number. -/
def Status.IsCanonical (s : Status) : Prop := ∀ code, s = .other code → 8 < code

theorem Status.ofWord_toWord {s : Status} (h : s.IsCanonical) : ofWord s.toWord = s := by
  cases s with
  | other code =>
    have hc := h code rfl
    unfold ofWord toWord
    split <;> first | rfl | (subst_vars; exact absurd hc (by decide))
  | _ => rfl

theorem Status.toWord_ofWord (w : UInt32) : (ofWord w).toWord = w := by
  unfold ofWord
  split <;> rfl

/-- What a number stands for is canonical: the numbers up to eight all have a meaning. -/
theorem Status.isCanonical_ofWord (w : UInt32) : (ofWord w).IsCanonical := by
  have hknown : ∀ n < 9, ofWord (UInt32.ofNat n) ≠ .other (UInt32.ofNat n) := by decide
  intro code h
  have hw : w = code := by rw [← toWord_ofWord w, h]; rfl
  subst hw
  refine UInt32.lt_iff_toNat_lt.mpr (Nat.lt_of_not_le fun hle => ?_)
  have hne := hknown w.toNat (Nat.lt_succ_of_le hle)
  rw [UInt32.ofNat_toNat] at hne
  exact hne h

/-! ## Network security -/

/-- The security that an access point asks for. -/
inductive Authentication where
  | openNetwork
  | wep
  | wpaPsk
  | wpa2Psk
  | wpaWpa2Psk
  | wpa2Enterprise
  | wpa3Psk
  | wpa2Wpa3Psk
  /-- A byte without a meaning of its own. -/
  | unknown (code : UInt8)
  deriving DecidableEq, Repr

/-- The security with this byte. -/
def Authentication.ofByte : UInt8 → Authentication
  | 0 => .openNetwork
  | 1 => .wep
  | 2 => .wpaPsk
  | 3 => .wpa2Psk
  | 4 => .wpaWpa2Psk
  | 5 => .wpa2Enterprise
  | 6 => .wpa3Psk
  | 7 => .wpa2Wpa3Psk
  | code => .unknown code

/-- The byte of a kind of security. -/
def Authentication.toByte : Authentication → UInt8
  | .openNetwork => 0
  | .wep => 1
  | .wpaPsk => 2
  | .wpa2Psk => 3
  | .wpaWpa2Psk => 4
  | .wpa2Enterprise => 5
  | .wpa3Psk => 6
  | .wpa2Wpa3Psk => 7
  | .unknown code => code

/-- The name of a kind of security. -/
def Authentication.name : Authentication → String
  | .openNetwork => "Open"
  | .wep => "Wep"
  | .wpaPsk => "WpaPsk"
  | .wpa2Psk => "Wpa2Psk"
  | .wpaWpa2Psk => "WpaWpa2Psk"
  | .wpa2Enterprise => "Wpa2Enterprise"
  | .wpa3Psk => "Wpa3Psk"
  | .wpa2Wpa3Psk => "Wpa2Wpa3Psk"
  | .unknown code => s!"Unknown({code})"

/-- **Canonical security** is what a byte stands for: a known meaning is never spelt as a bare byte. -/
def Authentication.IsCanonical (a : Authentication) : Prop := ∀ code, a = .unknown code → 7 < code

theorem Authentication.ofByte_toByte {a : Authentication} (h : a.IsCanonical) : ofByte a.toByte = a := by
  cases a with
  | unknown code =>
    have hc := h code rfl
    unfold ofByte toByte
    split <;> first | rfl | (subst_vars; exact absurd hc (by decide))
  | _ => rfl

theorem Authentication.toByte_ofByte (b : UInt8) : (ofByte b).toByte = b := by
  unfold ofByte
  split <;> rfl

/-- What a byte stands for is canonical: the bytes up to seven all have a meaning. -/
theorem Authentication.isCanonical_ofByte (b : UInt8) : (ofByte b).IsCanonical := by
  have hknown : ∀ n < 8, ofByte (UInt8.ofNat n) ≠ .unknown (UInt8.ofNat n) := by decide
  intro code h
  have hb : b = code := by rw [← toByte_ofByte b, h]; rfl
  subst hb
  refine UInt8.lt_iff_toNat_lt.mpr (Nat.lt_of_not_le fun hle => ?_)
  have hne := hknown b.toNat (Nat.lt_succ_of_le hle)
  rw [UInt8.ofNat_toNat] at hne
  exact hne h

/-! ## Antennas -/

/-- The antenna that feeds the radio. -/
inductive Antenna where
  | unknown
  | onBoard
  | external
  deriving DecidableEq, Repr

/-- The name of an antenna. -/
def Antenna.name : Antenna → String
  | .unknown => "NotKnown"
  | .onBoard => "OnBoard"
  | .external => "External"

end Peripherals.Coprocessor
