/-!
# `Peripherals.Json.Outline` — a JSON text, read as far as it makes sense

A document is judged in reading order: the first thing wrong decides, whether it is the shape of the text or the
kind of a value. So a text is first turned into an outline that also shows where its shape breaks off, and a value
is then read off the outline from the front.

* `Fault` — the three ways in which a document is refused;
* `Numeral`, `Quoted` — numbers and strings as they are spelt;
* `Outline` — values, with the place where the text breaks off.
-/

namespace Peripherals.Json

/-- Why a document is refused. -/
inductive Fault where
  /-- The text ends too early. -/
  | ended
  /-- The text is not JSON. -/
  | malformed
  /-- A value is not what belongs there. -/
  | mismatch
  deriving DecidableEq, Repr

/-- A number as it is spelt. Digits are values from zero to nine. -/
structure Numeral where
  negative : Bool
  whole : List Nat
  fraction : List Nat
  /-- The sign and the digits of an exponent. -/
  exponent : Option (Bool × List Nat)
  /-- Whether a point or an exponent is written. -/
  fractional : Bool
  deriving DecidableEq, Repr

/-- A piece of a string. -/
inductive Piece where
  | char (c : Char)
  /-- Sixteen bits written as four hexadecimal digits. -/
  | unit (bits : Nat)
  deriving DecidableEq, Repr

/-- A string as it is spelt. -/
structure Quoted where
  pieces : List Piece
  /-- What is wrong after the last piece; nothing if the string is closed. -/
  flaw : Option Fault
  deriving DecidableEq, Repr

/-- A value as far as it makes sense. -/
inductive Outline where
  /-- No value: the text breaks off here. -/
  | broken (flaw : Fault)
  | null
  | bool (b : Bool)
  | number (n : Numeral)
  /-- A number that the text ends in the middle of. -/
  | cutNumber
  | string (s : Quoted)
  /-- The items, and what is wrong after them. -/
  | array (items : List Outline) (flaw : Option Fault)
  /-- The members, and what is wrong after them. -/
  | object (members : List (Quoted × Outline)) (flaw : Option Fault)

end Peripherals.Json
