import Peripherals.Decimal.Binary
import Peripherals.Text.Pad

/-!
# `Peripherals.Decimal.Fixed` — a double with a set number of places

The exact value is rounded to the nearest number with that many places; of two equally near ones the even one is
taken.
-/

namespace Peripherals.Decimal

/-- The natural number nearest to `num / den`, the even one of two. -/
def roundDiv (num den : Nat) : Nat :=
  let quotient := num / den
  let rest := 2 * (num % den)
  if den < rest then quotient + 1
  else if rest = den ∧ quotient % 2 = 1 then quotient + 1
  else quotient

/-- `mantissa · 2 ^ exponent` in units of `10 ^ (-places)`, rounded. -/
def scaled (places mantissa : Nat) (exponent : Int) : Nat :=
  if 0 ≤ exponent then mantissa * Nat.pow 10 places * Nat.pow 2 exponent.toNat
  else roundDiv (mantissa * Nat.pow 10 places) (Nat.pow 2 (-exponent).toNat)

/-- A natural number of units of `10 ^ (-places)` as text. -/
def placed (places units : Nat) : String :=
  toString (units / Nat.pow 10 places) ++ "." ++ Text.padLeft places '0' (toString (units % Nat.pow 10 places))

/-- A double with `places` decimal places. -/
def fixed (places : Nat) (x : Float) : String :=
  match Binary.ofFloat x with
  | .nan => "NaN"
  | .infinite negative => if negative then "-inf" else "inf"
  | .finite negative mantissa exponent _ =>
    (if negative then "-" else "") ++ placed places (scaled places mantissa exponent)

end Peripherals.Decimal
