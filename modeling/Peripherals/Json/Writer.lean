import Peripherals.Decimal.Shortest
import Peripherals.Text.Hex

/-!
# `Peripherals.Json.Writer` — values and their text

Documents are written over several lines, two blanks a level.

* `Value` — a value to be written;
* `Value.pretty` — its text.
-/

namespace Peripherals.Json

/-- A value to be written. -/
inductive Value where
  | null
  | bool (b : Bool)
  | natural (n : Nat)
  | real (x : Float)
  | text (s : String)
  | array (items : List Value)
  | object (members : List (String × Value))

/-- Doubles are written positionally from `10 ^ (-5)` up to below `10 ^ 16`; exponents always have a sign. Of two
equally near texts the one with an even last digit is taken. -/
def realLayout : Decimal.Layout := ⟨.even, -5, 15, true⟩

/-- A character of a string. Controls are escaped, by a letter where there is one. -/
def writeChar (c : Char) : String :=
  if c = '"' then "\\\""
  else if c = '\\' then "\\\\"
  else if c = '\n' then "\\n"
  else if c = '\r' then "\\r"
  else if c = '\t' then "\\t"
  else if c = Char.ofNat 8 then "\\b"
  else if c = Char.ofNat 12 then "\\f"
  else if c.toNat < 32 then "\\u" ++ Hex.ofNat .lower 4 c.toNat
  else String.singleton c

/-- A string with its quotes. -/
def writeText (s : String) : String := "\"" ++ String.join (s.toList.map writeChar) ++ "\""

/-- The start of a line at a level. -/
def newLine (level : Nat) : String := "\n" ++ String.ofList (List.replicate (2 * level) ' ')

mutual

/-- The text of a value whose first line stands at a level. A double that is not finite is written as `null`. -/
def Value.pretty (level : Nat) : Value → String
  | .null => "null"
  | .bool b => if b then "true" else "false"
  | .natural n => toString n
  | .real x => (Decimal.shortest? realLayout x).getD "null"
  | .text s => writeText s
  | .array [] => "[]"
  | .array (item :: rest) =>
    "[" ++ newLine (level + 1) ++ item.pretty (level + 1) ++ prettyItems (level + 1) rest ++ newLine level ++ "]"
  | .object [] => "\x7b\x7d"
  | .object ((key, item) :: rest) =>
    "\x7b" ++ newLine (level + 1) ++ writeText key ++ ": " ++ item.pretty (level + 1) ++
      prettyMembers (level + 1) rest ++ newLine level ++ "\x7d"

/-- Further items at a level. -/
def prettyItems (level : Nat) : List Value → String
  | [] => ""
  | item :: rest => "," ++ newLine level ++ item.pretty level ++ prettyItems level rest

/-- Further members at a level. -/
def prettyMembers (level : Nat) : List (String × Value) → String
  | [] => ""
  | (key, item) :: rest =>
    "," ++ newLine level ++ writeText key ++ ": " ++ item.pretty level ++ prettyMembers level rest

end

end Peripherals.Json
