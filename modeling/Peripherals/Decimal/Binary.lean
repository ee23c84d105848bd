/-!
# `Peripherals.Decimal.Binary` — the exact value of a floating-point number

A finite double is `± mantissa · 2 ^ exponent` with natural `mantissa`. Decimal text is worked out from these
integers, never from arithmetic on doubles.
-/

namespace Peripherals.Decimal

/-- A double taken apart. -/
inductive Binary where
  | nan
  | infinite (negative : Bool)
  /-- `mantissa · 2 ^ exponent`; `narrow` tells that the doubles below lie closer than those above. -/
  | finite (negative : Bool) (mantissa : Nat) (exponent : Int) (narrow : Bool)
  deriving DecidableEq, Repr

/-- Takes a double apart. -/
def Binary.ofFloat (x : Float) : Binary :=
  let bits := x.toBits.toNat
  let negative : Bool := Nat.pow 2 63 ≤ bits
  let biased : Nat := bits / Nat.pow 2 52 % Nat.pow 2 11
  let field : Nat := bits % Nat.pow 2 52
  if biased = 2047 then
    if field = 0 then .infinite negative else .nan
  else if biased = 0 then .finite negative field (-1074) false
  else .finite negative (Nat.pow 2 52 + field) ((biased : Int) - 1075) (field == 0 && 1 < biased)

end Peripherals.Decimal
