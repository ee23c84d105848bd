import Peripherals.Broadcast
import Peripherals.Config.Basic
import Peripherals.Coprocessor.Session
import Peripherals.Network.Event
import Peripherals.Throttle

/-!
# `Peripherals.Coprocessor.Adapter` — the wireless adapter of a board

An adapter holds the session, the channels on which its changes are told, and the radio settings.

* `Adapter.create` — an adapter with settings in range;
* `Adapter.enter`, `Adapter.post` — a transition of the session, and one message on one channel;
* `Adapter.publish`, `Adapter.advance` — all messages for notices, and a transition with its notices;
* `Adapter.dispatch` — an event of the coprocessor;
* `Adapter.setScanPeriod`, `Adapter.setRetryCount`, `Adapter.stationMac`, `Adapter.softApMac` — settings.
-/

namespace Peripherals.Coprocessor

/-- The change of connectivity that a notice tells of, if it tells of one. -/
def Notice.connectivity? : Notice → Option Network.Event
  | .connected _ => some .connected
  | .disconnected => some .disconnected
  | .failed status => some (.error status.name)
  | _ => none

/-- One message on one of the two channels of an adapter. -/
inductive Parcel where
  | connectivity (e : Network.Event)
  | notice (n : Notice)
  deriving DecidableEq

/-- The messages for a notice: the change of connectivity goes first, if there is one. -/
def Notice.parcels (n : Notice) : List Parcel := (n.connectivity?.map .connectivity).toList ++ [.notice n]

/-- A wireless adapter. -/
structure Adapter where
  config : WirelessConfig
  session : Session
  notices : Broadcast Notice
  connectivity : Broadcast Network.Event
  scanPeriod : Duration
  retryCount : UInt32
  /-- The antenna that was asked for last with success. -/
  antenna : Antenna
  /-- The address of the station, once it has been asked for. -/
  station : Option (Option Mac)
  /-- The address of the access point, once it has been asked for. -/
  softAp : Option (Option Mac)
  /-- What limits warnings about events that cannot be used. -/
  throttle : Throttle

namespace Adapter

/-- The name of every adapter of this kind. -/
def name : String := "esp32-wifi"

/-- The smallest retry count. -/
def minRetryCount : UInt32 := 3

/-- Whether a time between scans is allowed. -/
def allowsScanPeriod (period : Duration) : Bool :=
  decide (Config.minScanPeriod ≤ period) && decide (period ≤ Config.maxScanPeriod)

/-- An adapter under these settings. It needs something to run its tasks. -/
def create (config : WirelessConfig) (runtime : Bool) (wall : Nat) : Except Error Adapter :=
  let period := Config.scanPeriod config
  if !runtime then .error .noRuntime
  else if !allowsScanPeriod period then .error (.invalidArgument (.scanPeriod period))
  else .ok
    { config
      session := .initial
      notices := .ofNotices
      connectivity := .ofNotices
      scanPeriod := period
      retryCount := max config.maximumRetryCount minRetryCount
      antenna := .unknown
      station := none
      softAp := none
      throttle := .ofLoop wall }

/-- The time between two looks at the session while connecting, in milliseconds. It is never zero. -/
def pollInterval (a : Adapter) : Nat := max a.config.connectPollIntervalMs.toNat 1

/-- Whether the adapter is connected. -/
def isConnected (a : Adapter) : Bool := a.session.state == .connected

/-! ## The session -/

/-- Goes over to the session of a transition. This much is done while the session is locked. -/
def enter (a : Adapter) (t : Transition) : Adapter := { a with session := t.session }

/-- Sends one message. -/
def post (a : Adapter) : Parcel → Adapter
  | .connectivity e => { a with connectivity := a.connectivity.send e }
  | .notice n => { a with notices := a.notices.send n }

/-- Sends the messages for notices in order. -/
def publish (a : Adapter) (ns : List Notice) : Adapter := (ns.flatMap Notice.parcels).foldl post a

/-- Goes over to the session of a transition, then publishes its notices. -/
def advance (a : Adapter) (t : Transition) : Adapter := (a.enter t).publish t.notices

/-- **Handles an event of the coprocessor.** One that cannot be used changes nothing but is worth a warning. -/
def dispatch (a : Adapter) (e : Event) (wall : Nat) : Adapter × List Log.Line :=
  match a.session.apply e with
  | .ok t => (a.advance t, Session.remark e)
  | .error cause =>
    let (throttle, lines) :=
      a.throttle.warn wall s!"Dropping coprocessor event {e.function.name}: {cause.message}"
    ({ a with throttle }, Session.remark e ++ lines)

/-! ## Settings -/

/-- Changes the time between scans, if it is allowed. -/
def setScanPeriod (a : Adapter) (period : Duration) : Except Error Adapter :=
  if allowsScanPeriod period then .ok { a with scanPeriod := period }
  else .error (.invalidArgument (.scanPeriod period))

/-- Changes the retry count. One that is too small is raised. -/
def setRetryCount (a : Adapter) (count : UInt32) : Adapter × List Log.Line :=
  let effective := max count minRetryCount
  ({ a with retryCount := effective },
    if effective = count then [] else [⟨.warn, s!"Retry count {count} raised to {effective}"⟩])

/-- The address that a text spells. One that spells none is ignored, with a warning. -/
def resolveMac (label : String) : Option String → Option Mac × List Log.Line
  | none => (none, [])
  | some text =>
    match Mac.parse text with
    | .ok mac => (some mac, [])
    | .error e => (none, [⟨.warn, s!"Ignoring {label} MAC address {Text.quoted text}: {e.message}"⟩])

/-- The address of the station. Its text is looked at once. -/
def stationMac (a : Adapter) : Option Mac × Adapter × List Log.Line :=
  match a.station with
  | some mac => (mac, a, [])
  | none =>
    let (mac, lines) := resolveMac "station" a.config.macAddress
    (mac, { a with station := some mac }, lines)

/-- The address of the access point. Its text is looked at once. -/
def softApMac (a : Adapter) : Option Mac × Adapter × List Log.Line :=
  match a.softAp with
  | some mac => (mac, a, [])
  | none =>
    let (mac, lines) := resolveMac "soft AP" a.config.softApMacAddress
    (mac, { a with softAp := some mac }, lines)

end Adapter

end Peripherals.Coprocessor
