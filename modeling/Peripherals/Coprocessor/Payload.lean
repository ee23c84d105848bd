import Peripherals.Coprocessor.Code
import Peripherals.Coprocessor.DecodeError
import Peripherals.Mac

/-!
# `Peripherals.Coprocessor.Payload` — what commands and events carry

* `Credentials` — the network to join and its password;
* `Details` — the network that was joined;
* `AccessPoint` — one network found by a scan, and lists of them;
* `disconnectRequest`, `antennaRequest?` — the payloads of two plain commands.
-/

namespace Peripherals.Coprocessor

/-- Six octets as a hardware address. -/
def readMac : Wire.Reader Mac := fun bs =>
  match Mac.ofBytes? (bs.take 6) with
  | some mac => .ok (mac, bs.drop 6)
  | none => .error .short

/-! ## Credentials -/

/-- The name and the password of a network. -/
structure Credentials where
  ssid : String
  password : String
  deriving DecidableEq

namespace Credentials

/-- Both texts, each after the number of its bytes. -/
def encode (c : Credentials) : Bytes := Wire.putText c.ssid ++ Wire.putText c.password

/-- The two texts. -/
def fields : Wire.Reader Credentials := do
  let ssid ← Wire.text
  let password ← Wire.text
  pure ⟨ssid, password⟩

/-- Reads credentials. -/
def decode (payload : Bytes) : Except DecodeError Credentials :=
  (readPart .credentials fields payload).map (·.1)

/-- **Credentials as diagnostics show them.** The password is never told. -/
def describe (c : Credentials) : String :=
  s!"WiFiCredentials \x7b ssid: {Text.quoted c.ssid}, password: \"<redacted>\" \x7d"

end Credentials

/-! ## Plain requests -/

/-- The payload of a disconnect command: whether the interface is switched off as well. -/
def disconnectRequest (turnOff : Bool) : Bytes := [if turnOff then 1 else 0]

/-- The payload of an antenna command. An unknown antenna cannot be asked for. -/
def antennaRequest? (antenna : Antenna) (persist : Bool) : Option Bytes :=
  match antenna with
  | .unknown => none
  | .onBoard => some [0, if persist then 1 else 0]
  | .external => some [1, if persist then 1 else 0]

/-! ## Connection details -/

/-- The network that an interface has joined. -/
structure Details where
  ssid : String
  bssid : Mac
  channel : UInt8
  authentication : Authentication
  deriving DecidableEq

namespace Details

/-- The counted name, the address, the channel and the security. -/
def encode (d : Details) : Bytes :=
  Wire.putText d.ssid ++ d.bssid.octets ++ [d.channel, d.authentication.toByte]

/-- The four fields. -/
def fields : Wire.Reader Details := do
  let ssid ← Wire.text
  let bssid ← readMac
  let channel ← Wire.byte
  let authentication ← Wire.byte
  pure ⟨ssid, bssid, channel, .ofByte authentication⟩

/-- Reads connection details. -/
def decode (payload : Bytes) : Except DecodeError Details :=
  (readPart .connectionDetails fields payload).map (·.1)

end Details

/-! ## Access points -/

/-- One network found by a scan. -/
structure AccessPoint where
  ssid : String
  bssid : Mac
  primaryChannel : UInt8
  secondaryChannel : UInt8
  /-- The strength of the signal in dBm. -/
  rssi : Int8
  authentication : Authentication
  /-- The radio protocols, one bit each. -/
  protocols : UInt8
  deriving DecidableEq

namespace AccessPoint

/-- The number of bytes of a record besides its name. -/
def fixedSize : Nat := 15

/-- The number of bytes of a record. -/
def encodedSize (a : AccessPoint) : Nat := fixedSize + (Bytes.ofText a.ssid).length

/-- One record. -/
def encode (a : AccessPoint) : Bytes :=
  Wire.putText a.ssid ++ a.bssid.octets ++
    [a.primaryChannel, a.secondaryChannel, a.rssi.toUInt8, a.authentication.toByte, a.protocols]

/-- The seven fields of a record. -/
def fields : Wire.Reader AccessPoint := do
  let ssid ← Wire.text
  let bssid ← readMac
  let primaryChannel ← Wire.byte
  let secondaryChannel ← Wire.byte
  let rssi ← Wire.byte
  let authentication ← Wire.byte
  let protocols ← Wire.byte
  pure ⟨ssid, bssid, primaryChannel, secondaryChannel, rssi.toInt8, .ofByte authentication, protocols⟩

/-- The number of bytes of several records. -/
def totalSize (points : List AccessPoint) : Nat := points.foldr (fun a size => a.encodedSize + size) 0

/-- The result of a scan: how many records, how many bytes, and the records. -/
def encodeList (points : List AccessPoint) : Bytes :=
  Bytes.ofWord32 (UInt32.ofNat points.length) ++
    Bytes.ofWord32 (UInt32.ofNat (totalSize points)) ++ points.flatMap encode

/-- The number of records and the bytes that hold them. -/
def listHeader : Wire.Reader (UInt32 × Bytes) := do
  let count ← Wire.word
  let blob ← Wire.counted
  pure (count, blob)

/-- Reads `count` records of a blob, the first one at `offset`. The size of the record that was read tells where the
next one begins. -/
def records (blob : Bytes) : Nat → Nat → Except DecodeError (List AccessPoint)
  | 0, _ => .ok []
  | count + 1, offset =>
    match readPart .accessPoint fields (blob.drop (min offset blob.length)) with
    | .error e => .error e
    | .ok (point, _) => (records blob count (offset + point.encodedSize)).map (point :: ·)

/-- Reads the result of a scan. What is left in the blob, or after it, is ignored. -/
def decodeList (payload : Bytes) : Except DecodeError (List AccessPoint) :=
  match readPart .accessPointList listHeader payload with
  | .error e => .error e
  | .ok ((count, blob), _) => records blob count.toNat 0

end AccessPoint

end Peripherals.Coprocessor
