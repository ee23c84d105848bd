import Peripherals.Decimal.Binary

/-!
# `Peripherals.Decimal.Shortest` — the fewest digits that identify a double

The reals that round to a given double form an interval. Among the grids of multiples of a power of ten the
coarsest that has a point in this interval gives the fewest digits; of its two points next to the double the
nearer one in the interval is taken. Where both are equally near, the format decides.

* `Interval` — the reals that round to a double, over a common denominator;
* `Interval.digits?` — the digits and the power of ten of their last place;
* `Layout` — which of two equally near points is taken, where positional writing ends and how an exponent looks.
-/

namespace Peripherals.Decimal

/-- Which of two points that are equally near to a double is taken. -/
inductive Tie where
  /-- The one with an even last digit. -/
  | even
  /-- The greater one. -/
  | up
  deriving DecidableEq, Repr

/-- The reals that round to a double, and the double itself, over a common denominator. -/
structure Interval where
  low : Nat
  value : Nat
  high : Nat
  denominator : Nat
  /-- Whether the ends themselves round to the double. -/
  closed : Bool

namespace Interval

/-- The interval of `mantissa · 2 ^ exponent`: halfway to each neighbour. -/
def around (mantissa : Nat) (exponent : Int) (narrow : Bool) : Interval :=
  let up := Nat.pow 2 (exponent - 2).toNat
  { low := (4 * mantissa - (if narrow then 1 else 2)) * up
    value := 4 * mantissa * up
    high := (4 * mantissa + 2) * up
    denominator := Nat.pow 2 (2 - exponent).toNat
    closed := mantissa % 2 == 0 }

/-- Whether `c · 10 ^ g` lies in the interval. -/
def contains (i : Interval) (c : Nat) (g : Int) : Bool :=
  let point := c * Nat.pow 10 g.toNat * i.denominator
  let low := i.low * Nat.pow 10 (-g).toNat
  let high := i.high * Nat.pow 10 (-g).toNat
  if i.closed then low ≤ point && point ≤ high else low < point && point < high

/-- The multiples of `10 ^ g` next to the double: the one that is not above it. -/
def below (i : Interval) (g : Int) : Nat :=
  i.value * Nat.pow 10 (-g).toNat / (i.denominator * Nat.pow 10 g.toNat)

/-- Where the double lies between `c · 10 ^ g` and `(c + 1) · 10 ^ g`: below, at or above the middle. -/
def comparedToMiddle (i : Interval) (c : Nat) (g : Int) : Ordering :=
  compare (2 * i.value * Nat.pow 10 (-g).toNat) ((2 * c + 1) * Nat.pow 10 g.toNat * i.denominator)

/-- The nearer of `c` and `c + 1`, as multiples of `10 ^ g`. -/
def nearer (i : Interval) (tie : Tie) (c : Nat) (g : Int) : Nat :=
  match i.comparedToMiddle c g, tie with
  | .lt, _ => c
  | .gt, _ => c + 1
  | .eq, .even => if c % 2 = 0 then c else c + 1
  | .eq, .up => c + 1

/-- The point of the grid of multiples of `10 ^ g` that stands for the double, if the grid has one. -/
def point? (i : Interval) (tie : Tie) (g : Int) : Option Nat :=
  let c := i.below g
  match i.contains c g, i.contains (c + 1) g with
  | true, true => some (i.nearer tie c g)
  | true, false => some c
  | false, true => some (c + 1)
  | false, false => none

/-- The first grid with a point, from `10 ^ g` on through `count` ever finer ones. -/
def search (i : Interval) (tie : Tie) : Nat → Int → Option (Nat × Int)
  | 0, _ => none
  | count + 1, g =>
    match i.point? tie g with
    | some c => some (c, g)
    | none => i.search tie count (g - 1)

/-- The digits of the double and the power of ten of the last one. Doubles lie between `10 ^ (-324)` and
`10 ^ 309`, and at most seventeen digits are needed. -/
def digits? (i : Interval) (tie : Tie) : Option (Nat × Int) := i.search tie 660 309

end Interval

/-- How digits and a power of ten are written. -/
structure Layout where
  tie : Tie
  /-- The smallest power of ten of a first digit that is written positionally. -/
  least : Int
  /-- The largest power of ten of a first digit that is written positionally. -/
  greatest : Int
  /-- Whether an exponent that is not negative has a plus sign. -/
  plus : Bool

namespace Layout

/-- Writes the digits of `c`, the last of which counts `10 ^ g`. -/
def render (layout : Layout) (c : Nat) (g : Int) : String :=
  let digits := Nat.toDigits 10 c
  let lead := g + digits.length - 1
  if layout.least ≤ lead ∧ lead ≤ layout.greatest then
    if 0 ≤ g then String.ofList (digits ++ List.replicate g.toNat '0') ++ ".0"
    else if 0 ≤ lead then
      let whole := lead.toNat + 1
      String.ofList (digits.take whole) ++ "." ++ String.ofList (digits.drop whole)
    else "0." ++ String.ofList (List.replicate (-lead - 1).toNat '0' ++ digits)
  else
    let fraction := digits.drop 1
    String.ofList (digits.take 1) ++ (if fraction.isEmpty then "" else "." ++ String.ofList fraction) ++
      (if 0 ≤ lead ∧ layout.plus then s!"e+{lead}" else s!"e{lead}")

end Layout

/-- **The shortest text of a finite double** in a given layout. A number that is not finite has none. -/
def shortest? (layout : Layout) (x : Float) : Option String :=
  match Binary.ofFloat x with
  | .finite negative mantissa exponent narrow =>
    let sign := if negative then "-" else ""
    if mantissa = 0 then some (sign ++ "0.0")
    else ((Interval.around mantissa exponent narrow).digits? layout.tie).map fun d => sign ++ layout.render d.1 d.2
  | _ => none

end Peripherals.Decimal
