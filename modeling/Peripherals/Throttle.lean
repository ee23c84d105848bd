import Peripherals.Duration
import Peripherals.Log

/-!
# `Peripherals.Throttle` — rate-limited log messages

A loop that fails on every round would flood the log. A throttle lets a number of messages through in a window
of time and counts the others. The window starts anew with the first message that comes more than its length
after its start, in whole milliseconds.
-/

namespace Peripherals

/-- A limit on messages, with what has been seen of the current window. Instants are in nanoseconds. -/
structure Throttle where
  /-- The length of a window, in milliseconds. -/
  window : Nat
  /-- The number of messages let through in a window. -/
  cap : UInt32
  /-- When the current window started. -/
  start : Nat
  /-- The messages seen in the current window, on a 32-bit counter. -/
  count : UInt32
  /-- The messages held back in the current window. -/
  suppressed : Nat
  deriving DecidableEq, Repr

namespace Throttle

/-- A throttle whose first window starts now. -/
def new (window : Nat) (cap : UInt32) (now : Nat) : Throttle := ⟨window, cap, now, 0, 0⟩

/-- The throttle of the library's own loops: three messages in ten seconds. -/
def ofLoop (now : Nat) : Throttle := new 10000 3 now

/-- Starts a new window. -/
def reset (t : Throttle) (now : Nat) : Throttle := { t with start := now, count := 0, suppressed := 0 }

/-- How long the current window has been open. -/
def age (t : Throttle) (now : Nat) : Duration := ⟨now - t.start⟩

/-- Whether the current window is over. A begun millisecond does not count. -/
def expired (t : Throttle) (now : Nat) : Bool := t.window < (t.age now).millis

/-- The throttle that judges the next message: a window that is over gives way to a new one. -/
def refresh (t : Throttle) (now : Nat) : Throttle := if t.expired now then t.reset now else t

/-- What is told when a window gives way: how many of its messages were held back, if any were. -/
def farewell (t : Throttle) (now : Nat) : List Log.Line :=
  if t.expired now && 0 < t.suppressed then [⟨.debug, s!"{t.suppressed} log messages suppressed"⟩] else []

/-- Counts one message against the current window. -/
def tally (t : Throttle) : Bool × Throttle :=
  let count := t.count + 1
  if count ≤ t.cap then (true, { t with count })
  else (false, { t with count, suppressed := t.suppressed + 1 })

/-- **Judges one message**: whether it may pass, the throttle after it, and what there is to tell. -/
def allow (t : Throttle) (now : Nat) : Bool × Throttle × List Log.Line :=
  let (allowed, next) := (t.refresh now).tally
  (allowed, next, t.farewell now)

/-- Passes a warning through the throttle. -/
def warn (t : Throttle) (now : Nat) (text : String) : Throttle × List Log.Line :=
  let (allowed, next, lines) := t.allow now
  (next, if allowed then lines ++ [⟨.warn, text⟩] else lines)

end Throttle

end Peripherals
