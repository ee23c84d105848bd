import Peripherals.Json.Outline

/-!
# `Peripherals.Json.Number` — what a spelt number is worth

A number without point and exponent that fits 64 bits is an integer; any other one is a double. A double is made
from a significand of at most 64 bits and a power of ten by one multiplication or division, so further digits are
dropped, and the last bit need not be that of the nearest double.

* `Number` — an integer or a double;
* `Numeral.read` — the worth of a spelt number.
-/

namespace Peripherals.Json

/-- What a number is worth. -/
inductive Number where
  | natural (n : Nat)
  /-- An integer below zero, by its distance from zero. -/
  | negative (n : Nat)
  | real (x : Float)

namespace Numeral

/-- The largest significand. -/
def maxSignificand : Nat := UInt64.size - 1

/-- Takes digits into a significand while it fits. The second part tells how many digits were left out. -/
def takeWhole (significand : Nat) : List Nat → Nat × Nat
  | [] => (significand, 0)
  | d :: ds =>
    if maxSignificand < significand * 10 + d then (significand, ds.length + 1)
    else takeWhole (significand * 10 + d) ds

/-- Takes decimal places into a significand while it fits. The second part tells how many were taken. -/
def takeFraction (significand : Nat) : List Nat → Nat × Nat
  | [] => (significand, 0)
  | d :: ds =>
    if maxSignificand < significand * 10 + d then (significand, 0)
    else
      let (s, count) := takeFraction (significand * 10 + d) ds
      (s, count + 1)

/-- The largest power of ten that an exponent may name. -/
def maxExponent : Nat := 2147483647

/-- The number that digits stand for, unless it is too large for an exponent. -/
def takeExponent (acc : Nat) : List Nat → Option Nat
  | [] => some acc
  | d :: ds => if maxExponent < acc * 10 + d then none else takeExponent (acc * 10 + d) ds

/-- A power of ten as a double. -/
def powerOfTen (k : Nat) : Float := Float.ofScientific 1 false k

/-- `x · 10 ^ exponent`, in at most two steps of 308 places and one more. A result that is too large is an error,
and one that is too small is zero. -/
def scale : Nat → Float → Int → Except Fault Float
  | 0, _, _ => .ok 0.0
  | fuel + 1, x, exponent =>
    if exponent.natAbs ≤ 308 then
      if 0 ≤ exponent then
        let y := x * powerOfTen exponent.natAbs
        if y.isInf then .error .malformed else .ok y
      else .ok (x / powerOfTen exponent.natAbs)
    else if x == 0.0 then .ok x
    else if 0 ≤ exponent then .error .malformed
    else scale fuel (x / powerOfTen 308) (exponent + 308)

/-- A natural number below `2 ^ 64` as the nearest double. -/
def toReal (n : Nat) : Float := (UInt64.ofNat n).toFloat

/-- A double with its sign. -/
def signed (negative : Bool) (x : Float) : Float := if negative then -x else x

/-- The double that a number stands for. -/
def real (n : Numeral) : Except Fault Float :=
  let (significand, dropped) := takeWhole 0 n.whole
  let (significand, places) := takeFraction significand n.fraction
  let shift : Int := dropped - places
  match n.exponent with
  | none => (scale 4 (toReal significand) shift).map (signed n.negative)
  | some (down, digits) =>
    match takeExponent 0 digits with
    | some e => (scale 4 (toReal significand) (if down then shift - e else shift + e)).map (signed n.negative)
    | none => if significand ≠ 0 ∧ !down then .error .malformed else .ok (signed n.negative 0.0)

/-- **The worth of a spelt number.** A negative zero is a double. -/
def read (n : Numeral) : Except Fault Number :=
  let (significand, dropped) := takeWhole 0 n.whole
  if n.fractional ∨ dropped ≠ 0 then n.real.map .real
  else if !n.negative then .ok (.natural significand)
  else if 0 < significand ∧ significand ≤ UInt64.size / 2 then .ok (.negative significand)
  else .ok (.real (-(toReal significand)))

end Numeral

end Peripherals.Json
