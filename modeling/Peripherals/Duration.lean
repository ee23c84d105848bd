/-!
# `Peripherals.Duration` — spans of time

A span is a whole number of nanoseconds. Diagnostics write it in the largest unit that leaves a whole part, with
as many places as it needs.
-/

namespace Peripherals

/-- A span of time. -/
structure Duration where
  nanos : Nat
  deriving DecidableEq, Repr, Inhabited

namespace Duration

/-- A whole number of milliseconds. -/
def ofMillis (ms : Nat) : Duration := ⟨ms * 1000000⟩

/-- A whole number of microseconds. -/
def ofMicros (us : Nat) : Duration := ⟨us * 1000⟩

/-- The whole milliseconds of a span. -/
def millis (d : Duration) : Nat := d.nanos / 1000000

/-- The whole microseconds of a span. -/
def micros (d : Duration) : Nat := d.nanos / 1000

/-- The milliseconds of a span, a begun one counted as whole. -/
def ceilMillis (d : Duration) : Nat := (d.nanos + 999999) / 1000000

/-- The empty span. -/
def zero : Duration := ⟨0⟩

instance : LE Duration := ⟨fun a b => a.nanos ≤ b.nanos⟩

instance (a b : Duration) : Decidable (a ≤ b) := inferInstanceAs (Decidable (a.nanos ≤ b.nanos))

@[simp] theorem millis_ofMillis (ms : Nat) : (ofMillis ms).millis = ms := by
  simp [millis, ofMillis]

/-! ## Text -/

/-- The digits of `n` as `places` decimal places, without zeros at the end. -/
def placeDigits (places n : Nat) : String :=
  let digits := Nat.toDigits 10 n
  let padded := List.replicate (places - digits.length) '0' ++ digits
  String.ofList (padded.reverse.dropWhile (· == '0')).reverse

/-- `nanos` in a unit of `10 ^ places` nanoseconds. -/
def inUnit (nanos places : Nat) (unit : String) : String :=
  let fraction := nanos % Nat.pow 10 places
  if fraction = 0 then s!"{nanos / Nat.pow 10 places}{unit}"
  else s!"{nanos / Nat.pow 10 places}.{placeDigits places fraction}{unit}"

/-- A span as diagnostics write it. -/
def text (d : Duration) : String :=
  if 1000000000 ≤ d.nanos then inUnit d.nanos 9 "s"
  else if 1000000 ≤ d.nanos then inUnit d.nanos 6 "ms"
  else if 1000 ≤ d.nanos then inUnit d.nanos 3 "µs"
  else inUnit d.nanos 0 "ns"

end Duration

end Peripherals
