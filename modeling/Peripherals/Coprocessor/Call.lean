import Peripherals.Coprocessor.Adapter
import Peripherals.Coprocessor.Frame
import Peripherals.Coprocessor.Payload

/-!
# `Peripherals.Coprocessor.Call` — what a host asks of an adapter

A request becomes a call: it sends one command and waits for the answer. A call is a place in that wait. It takes
turns; a turn sees the adapter, the time, whether the caller has cancelled, and the answer if there is one.

Connecting goes on after the answer: the session is looked at every poll interval until an event has moved it out
of `connecting`, the deadline passes or the caller cancels. An attempt that is given up that way leaves the
session as it is, so that a late event still completes it.

More than one of the things that a call waits for can have come by the time it takes a turn. Then any of them may
decide: a turn says which it looks at first.

* `Call.start` — the checks and the command of a request;
* `Wait.decides`, `Call.select` — which of several waits decides, and what comes of it;
* `Call.turn` — one turn.
-/

namespace Peripherals.Coprocessor

/-- What a host can ask. A timeout of zero is none. -/
inductive Request where
  | connect (ssid password : String) (timeout : Duration)
  | disconnect (turnOff : Bool)
  | scan (timeout : Duration)
  | startInterface
  | stopInterface
  | setAntenna (antenna : Antenna) (persist : Bool)
  deriving DecidableEq

/-- What a successful call answers. -/
inductive Success where
  | done
  | disconnected (outcome : DisconnectOutcome)
  | found (points : List AccessPoint)
  deriving DecidableEq

/-- A limit on a wait, and when it passes. -/
structure Deadline where
  timeout : Duration
  /-- In milliseconds; there may be none. -/
  due : Option Nat
  deriving DecidableEq

namespace Deadline

/-- The deadline of a wait that begins now. It may be later than the clock can tell (`Deadline.fits`). -/
def start (timeout : Duration) (now : Nat) : Deadline :=
  ⟨timeout, if timeout.nanos = 0 then none else some (now + timeout.ceilMillis)⟩

/-- **Whether a clock that goes on to `horizon` can tell a deadline.** A caller that sets one which it cannot tell
panics. -/
def fits (d : Deadline) (horizon : Nat) : Bool := d.due.all (· ≤ horizon)

/-- Whether a deadline has passed. -/
def passed (d : Deadline) (now : Nat) : Bool := d.due.any (· ≤ now)

end Deadline

/-- What a call waits for. -/
inductive Wait where
  /-- The caller cancels. -/
  | token
  /-- The deadline passes. -/
  | deadline
  /-- The answer comes, or the time of the next look. -/
  | news
  deriving DecidableEq

namespace Wait

/-- Whether a wait is over. -/
def isOver (cancelled passed come : Bool) : Wait → Bool
  | .token => cancelled
  | .deadline => passed
  | .news => come

/-- **The wait that decides a turn.** Of several that are over, that is the one looked at first, if it is over, or the
first in the order of the constructors. -/
def decides (first : Wait) (cancelled passed come : Bool) : Option Wait :=
  [first, .token, .deadline, .news].find? (isOver cancelled passed come)

variable {first w : Wait} {cancelled passed come : Bool}

/-- The wait that decides is over. -/
theorem isOver_of_decides (h : first.decides cancelled passed come = some w) :
    isOver cancelled passed come w = true := List.find?_some h

/-- None decides if none is over. -/
theorem decides_eq_none :
    first.decides cancelled passed come = none ↔ cancelled = false ∧ passed = false ∧ come = false := by
  cases first with
  | token => simp [decides, isOver]
  | deadline => simp [decides, isOver, and_left_comm]
  | news => simp [decides, isOver]

/-- The news decide before the others only in a turn that looks at them first. -/
theorem of_decides_news (h : first.decides cancelled passed come = some .news) (hfirst : first ≠ .news) :
    cancelled = false ∧ passed = false := by
  cases first with
  | token => cases cancelled <;> cases passed <;> simp_all [decides, isOver]
  | deadline => cases cancelled <;> cases passed <;> simp_all [decides, isOver]
  | news => contradiction

/-- A turn that looks at the token first ends at the deadline only if the caller has not cancelled. -/
theorem of_decides_deadline (h : decides .token cancelled passed come = some .deadline) : cancelled = false := by
  cases cancelled <;> simp_all [decides, isOver]

/-- The token is looked at before the deadline, and that before anything else, unless a turn says otherwise. -/
theorem decides_token (cancelled passed come : Bool) :
    decides .token cancelled passed come =
      if cancelled then some .token else if passed then some .deadline else if come then some .news else none := by
  cases cancelled <;> cases passed <;> cases come <;> rfl

end Wait

/-- A call in progress. -/
inductive Call where
  /-- The credentials are on their way. -/
  | joining (ssid : String) (deadline : Deadline)
  /-- The session will be looked at again at the time `wake`. -/
  | watching (ssid : String) (deadline : Deadline) (wake : Nat)
  /-- A disconnect that began in state `prior`. -/
  | leaving (prior : State)
  | scanning (deadline : Deadline)
  /-- A command whose answer is looked at only for success. -/
  | asking (operation : Operation)
  | choosing (antenna : Antenna) (persist : Bool)
  deriving DecidableEq

/-- A call that has started: the adapter after it, the command to send, and what there is to tell. -/
structure Started where
  adapter : Adapter
  call : Call
  command : Command
  lines : List Log.Line

/-- What a turn comes to. -/
inductive Turn where
  /-- Nothing has happened. -/
  | wait
  /-- The call goes on. -/
  | goOn (adapter : Adapter) (call : Call)
  /-- The call is over. -/
  | over (adapter : Adapter) (result : Except Error Success) (lines : List Log.Line)

namespace Call

/-! ## Starting -/

/-- **The checks and the command of a request.** A request that is refused has no effect. -/
def start (a : Adapter) (now : Nat) (cancelled : Bool) : Request → Except Error Started
  | .connect ssid password timeout =>
    if ssid.isEmpty then .error (.invalidArgument .ssid)
    else if cancelled then .error .cancelled
    else match a.session.beginConnect with
      | .error e => .error e
      | .ok session => .ok
        ⟨{ a with session }, .joining ssid (.start timeout now),
          .wireless .connect (Credentials.encode ⟨ssid, password⟩), [⟨.info, s!"Connecting to {ssid}"⟩]⟩
  | .disconnect turnOff =>
    match a.session.beginDisconnect with
    | .error e => .error e
    | .ok session => .ok
      ⟨{ a with session }, .leaving a.session.state, .wireless .disconnect (disconnectRequest turnOff), []⟩
  | .scan timeout =>
    if cancelled then .error .cancelled
    else .ok ⟨a, .scanning (.start timeout now), .wireless .listAccessPoints [], []⟩
  | .startInterface => .ok ⟨a, .asking .startInterface, .wireless .startInterface [], []⟩
  | .stopInterface => .ok ⟨a, .asking .stopInterface, .wireless .stopInterface [], []⟩
  | .setAntenna antenna persist =>
    match antennaRequest? antenna persist with
    | none => .error .invalidAntenna
    | some payload => .ok ⟨a, .choosing antenna persist, .wireless .setAntenna payload, []⟩

/-! ## Turns -/

/-- The end of a call that the caller has cancelled. -/
def giveUp (a : Adapter) (text : String) : Turn := .over a (.error .cancelled) [⟨.debug, text⟩]

/-- The end of a call whose deadline has passed. -/
def runOut (a : Adapter) (d : Deadline) (what : String) : Turn :=
  .over a (.error (.timeout d.timeout)) [⟨.warn, s!"{what} timed out after {d.timeout.text}"⟩]

/-- Looks at the session of an adapter that is connecting. -/
def observe (a : Adapter) (ssid : String) (d : Deadline) (now : Nat) : Turn :=
  match a.session.state with
  | .connecting => .goOn a (.watching ssid d (now + a.pollInterval))
  | .connected => .over a (.ok .done) [⟨.info, s!"Connected to {ssid}"⟩]
  | .error => .over a (.error (.connectionFailed (a.session.lastStatus.getD .failure))) []
  | state => .over a (.error (.notConnected state)) []

/-- The answer to the credentials. -/
def joined (a : Adapter) (ssid : String) (d : Deadline) (now : Nat) : Except Error Response → Turn
  | .error e => .over { a with session := a.session.abortConnect } (.error e) []
  | .ok response =>
    if response.status.isOk then observe a ssid d now
    else .over (a.advance (a.session.recordFailure response.status)) (.error (.connectionFailed response.status)) []

/-- The answer to a disconnect. -/
def left (a : Adapter) (prior : State) : Except Error Response → Turn
  | .error e => .over (a.advance (a.session.completeDisconnect prior .failure)) (.error e) []
  | .ok response =>
    .over (a.advance (a.session.completeDisconnect prior response.status))
      (.ok (.disconnected (.ofStatus response.status))) []

/-- The answer to a scan. -/
def scanned (a : Adapter) : Except Error Response → Turn
  | .error e => .over a (.error e) []
  | .ok response =>
    if response.status.isOk then
      match AccessPoint.decodeList response.payload with
      | .error e => .over a (.error (.decode e)) []
      | .ok points => .over a (.ok (.found points)) [⟨.debug, s!"Scan found {points.length} access points"⟩]
    else .over a (.error (.refused .accessPointScan response.status))
      [⟨.warn, s!"Error getting access points: {response.status.name}"⟩]

/-- The answer to a command, looked at only for success. -/
def asked (a : Adapter) (operation : Operation) : Except Error Response → Turn
  | .error e => .over a (.error e) []
  | .ok response =>
    if response.status.isOk then .over a (.ok .done) []
    else .over a (.error (.refused operation response.status)) []

/-- The answer to a choice of antenna. The antenna counts as chosen once the coprocessor has agreed. -/
def chosen (a : Adapter) (antenna : Antenna) (persist : Bool) : Except Error Response → Turn
  | .error e => .over a (.error e) []
  | .ok response =>
    if response.status.isOk then
      .over { a with antenna } (.ok .done) [⟨.info, s!"Antenna set to {antenna.name} (persist: {persist})"⟩]
    else .over a (.error (.refused .antennaChange response.status)) []

/-- Waits for an answer. -/
def await (reply : Option (Except Error Response)) (next : Except Error Response → Turn) : Turn :=
  match reply with
  | none => .wait
  | some reply => next reply

/-- Waits for the caller, the deadline and something else at once. -/
def select (a : Adapter) (d : Deadline) (now : Nat) (cancelled : Bool) (first : Wait) (ends what : String)
    (news : Option Turn) : Turn :=
  match first.decides cancelled (d.passed now) news.isSome with
  | some .token => giveUp a ends
  | some .deadline => runOut a d what
  | some .news | none => news.getD .wait

/-- **One turn of a call.** It looks at the wait `first` before the others. -/
def turn (a : Adapter) (now : Nat) (cancelled : Bool) (reply : Option (Except Error Response)) (call : Call)
    (first : Wait := .token) : Turn :=
  match call with
  | .joining ssid d =>
    select a d now cancelled first s!"Connection to {ssid} cancelled while sending" s!"Connection to {ssid}"
      (reply.map (joined a ssid d now))
  | .watching ssid d wake =>
    select a d now cancelled first s!"Connection to {ssid} cancelled" s!"Connection to {ssid}"
      (if wake ≤ now then some (observe a ssid d now) else none)
  | .scanning d =>
    select a d now cancelled first "Access point scan cancelled" "Access point scan" (reply.map (scanned a))
  | .leaving prior => await reply (left a prior)
  | .asking operation => await reply (asked a operation)
  | .choosing antenna persist => await reply (chosen a antenna persist)

/-- The deadline of a call. -/
def deadline? : Call → Option Deadline
  | .joining _ d | .watching _ d _ | .scanning d => some d
  | _ => none

/-- The earliest time at which a call wants a turn whatever happens. -/
def wake? : Call → Option Nat
  | .joining _ d | .scanning d => d.due
  | .watching _ d wake => some (d.due.elim wake (min wake))
  | _ => none

end Call

end Peripherals.Coprocessor
