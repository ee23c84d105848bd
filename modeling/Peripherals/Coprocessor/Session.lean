import Peripherals.Coprocessor.Error
import Peripherals.Coprocessor.Frame
import Peripherals.Coprocessor.Payload
import Peripherals.Log

/-!
# `Peripherals.Coprocessor.Session` — the connection as the host knows it

A session is the state of the connection, the network joined, and the last failure. It changes in two ways: an
operation of the host begins or ends, or an event arrives. Each change is a function from session to session,
together with the notices that it gives rise to.

* `Session.beginConnect`, `Session.abortConnect` — an attempt to connect;
* `Session.beginDisconnect`, `Session.completeDisconnect` — an attempt to disconnect;
* `Session.recordFailure` — a failure reported by the coprocessor;
* `Session.apply` — an event.
-/

namespace Peripherals.Coprocessor

/-- What subscribers of an adapter are told. -/
inductive Notice where
  | connected (details : Details)
  | disconnected
  | failed (status : Status)
  | interfaceStarted (status : Status)
  | interfaceStopped (status : Status)
  | timeChanged
  deriving DecidableEq

/-- The connection as the host knows it. -/
structure Session where
  state : State
  details : Option Details
  lastStatus : Option Status
  deriving DecidableEq

/-- A new session and the notices to publish for it. -/
structure Transition where
  session : Session
  notices : List Notice
  deriving DecidableEq

namespace Session

/-- The session before anything is known. -/
def initial : Session := ⟨.unknown, none, none⟩

instance : Inhabited Session := ⟨initial⟩

/-- A session without notices. -/
def quietly (s : Session) : Transition := ⟨s, []⟩

/-! ## Operations of the host -/

/-- Begins an attempt to connect: what was known of the network is forgotten. -/
def beginConnect (s : Session) : Except Error Session :=
  match s.state with
  | .connecting | .disconnecting => .error (.stateConflict s.state)
  | _ => .ok ⟨.connecting, none, none⟩

/-- Takes an attempt to connect back that never reached the coprocessor. -/
def abortConnect (s : Session) : Session :=
  if s.state = .connecting then { s with state := .disconnected } else s

/-- Begins an attempt to disconnect. -/
def beginDisconnect (s : Session) : Except Error Session :=
  match s.state with
  | .disconnecting => .error (.stateConflict s.state)
  | _ => .ok { s with state := .disconnecting }

/-- Ends an attempt to disconnect that began in state `prior`. What an event has decided meanwhile stands. -/
def completeDisconnect (s : Session) (prior : State) (status : Status) : Transition :=
  if s.state ≠ .disconnecting then s.quietly
  else if !status.isOk then quietly { s with state := prior }
  else
    ⟨⟨.disconnected, none, s.lastStatus⟩, if prior = .connected then [.disconnected] else []⟩

/-- Records a failure. Only the first of several in a row is told. -/
def recordFailure (s : Session) (status : Status) : Transition :=
  ⟨⟨.error, s.details, some status⟩, if s.state ≠ .error then [.failed status] else []⟩

/-! ## Events -/

/-- **Applies an event.** A status other than success is a failure whatever the event. An event that cannot be
read changes nothing. -/
def apply (s : Session) (e : Event) : Except DecodeError Transition :=
  if !e.status.isOk then .ok (s.recordFailure e.status)
  else match e.function with
    | .connected =>
      match Details.decode e.payload with
      | .error cause => .error cause
      | .ok d =>
        .ok ⟨⟨.connected, some d, s.lastStatus⟩, if s.state ≠ .connected then [.connected d] else []⟩
    | .disconnected =>
      .ok ⟨⟨.disconnected, none, s.lastStatus⟩, if s.state ≠ .disconnected then [.disconnected] else []⟩
    | .interfaceStarted => .ok ⟨s, [.interfaceStarted e.status]⟩
    | .interfaceStopped => .ok ⟨s, [.interfaceStopped e.status]⟩
    | .timeUpdated => .ok ⟨s, [.timeChanged]⟩
    | f => .error (.unknownEvent f.toWord)

/-- What the log says of an event that reports a failure. -/
def remark (e : Event) : List Log.Line :=
  if e.status.isOk then [] else [⟨.debug, s!"WiFi function {e.function.name} returned {e.status.name}"⟩]

end Session

/-- How a request to disconnect went. -/
inductive DisconnectOutcome where
  | success
  | unspecifiedFailure
  | notStarted
  deriving DecidableEq, Repr

/-- The outcome that a status stands for. -/
def DisconnectOutcome.ofStatus : Status → DisconnectOutcome
  | .completed => .success
  | .notStarted => .notStarted
  | _ => .unspecifiedFailure

/-- The name of an outcome. -/
def DisconnectOutcome.name : DisconnectOutcome → String
  | .success => "Success"
  | .unspecifiedFailure => "UnspecifiedFailure"
  | .notStarted => "WiFiNotStarted"

end Peripherals.Coprocessor
