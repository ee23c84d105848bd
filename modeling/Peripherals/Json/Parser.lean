import Peripherals.Json.Outline

/-!
# `Peripherals.Json.Parser` — outlines of texts

A recursive-descent reader over the characters of a text. It never fails: where the text stops making sense, the
outline ends with the flaw. Each nested call has one unit of fuel less, and every level of nesting takes a
character, so the length of the text is always enough.
-/

namespace Peripherals.Json.Parser

/-! ## Blanks and words -/

/-- Whether a character may stand between the parts of a document. -/
def isGap (c : Char) : Bool := c == ' ' || c == '\n' || c == '\t' || c == '\r'

/-- The text from its first character that is no gap. -/
def skipGaps (cs : List Char) : List Char := cs.dropWhile isGap

/-- The value that a word stands for, after its first letter. -/
def word (value : Outline) : List Char → List Char → Outline × List Char
  | [], rest => (value, rest)
  | _ :: _, [] => (.broken .ended, [])
  | e :: expected, c :: rest => if c = e then word value expected rest else (.broken .malformed, c :: rest)

/-! ## Numbers -/

/-- The value of a decimal digit. -/
def digit? (c : Char) : Option Nat := if '0' ≤ c ∧ c ≤ '9' then some (c.toNat - 48) else none

/-- The digits at the front of a text. -/
def digits : List Char → List Nat × List Char
  | [] => ([], [])
  | c :: rest =>
    match digit? c with
    | some d =>
      let (ds, rest) := digits rest
      (d :: ds, rest)
    | none => ([], c :: rest)

/-- What is amiss where a digit has to stand. -/
def noDigit : List Char → Outline × List Char
  | [] => (.cutNumber, [])
  | cs => (.broken .malformed, cs)

/-- The exponent of a number, after its letter. -/
def exponent (n : Numeral) (cs : List Char) : Outline × List Char :=
  let (negative, cs) := match cs with
    | '+' :: rest => (false, rest)
    | '-' :: rest => (true, rest)
    | rest => (false, rest)
  match digits cs with
  | ([], rest) => noDigit rest
  | (ds, rest) => (.number { n with exponent := some (negative, ds), fractional := true }, rest)

/-- The end of a number: an exponent, or nothing. -/
def tail (n : Numeral) : List Char → Outline × List Char
  | 'e' :: rest => exponent n rest
  | 'E' :: rest => exponent n rest
  | rest => (.number n, rest)

/-- What follows the whole part of a number. -/
def afterWhole (n : Numeral) : List Char → Outline × List Char
  | '.' :: rest =>
    match digits rest with
    | ([], rest) => noDigit rest
    | (ds, rest) => tail { n with fraction := ds, fractional := true } rest
  | rest => tail n rest

/-- A number after its sign. A zero stands alone before the point. -/
def number (negative : Bool) (cs : List Char) : Outline × List Char :=
  match digits cs with
  | ([], rest) => noDigit rest
  | (0 :: _ :: _, rest) => (.broken .malformed, rest)
  | (ds, rest) => afterWhole ⟨negative, ds, [], none, false⟩ rest

/-! ## Strings -/

/-- The value of a hexadecimal digit. -/
def hexDigit? (c : Char) : Option Nat :=
  if '0' ≤ c ∧ c ≤ '9' then some (c.toNat - 48)
  else if 'a' ≤ c ∧ c ≤ 'f' then some (c.toNat - 87)
  else if 'A' ≤ c ∧ c ≤ 'F' then some (c.toNat - 55)
  else none

/-- The character that a letter stands for after a backslash. -/
def escape? : Char → Option Char
  | '"' => some '"'
  | '\\' => some '\\'
  | '/' => some '/'
  | 'b' => some (Char.ofNat 8)
  | 'f' => some (Char.ofNat 12)
  | 'n' => some '\n'
  | 'r' => some '\r'
  | 't' => some '\t'
  | _ => none

/-- The bytes that a text takes in UTF-8. -/
def byteSize (cs : List Char) : Nat := cs.foldr (fun c size => c.utf8Size + size) 0

/-- What is amiss where four hexadecimal digits have to stand: fewer than four bytes are left, or other ones. -/
def noUnit (cs : List Char) : Fault := if byteSize cs < 4 then .ended else .malformed

/-- A string after its opening quote. -/
def string : List Char → Quoted × List Char
  | [] => (⟨[], some .ended⟩, [])
  | '"' :: rest => (⟨[], none⟩, rest)
  | '\\' :: 'u' :: a :: b :: c :: d :: rest =>
    match hexDigit? a, hexDigit? b, hexDigit? c, hexDigit? d with
    | some a, some b, some c, some d =>
      let (q, rest) := string rest
      ({ q with pieces := .unit (((a * 16 + b) * 16 + c) * 16 + d) :: q.pieces }, rest)
    | _, _, _, _ => (⟨[], some .malformed⟩, rest)
  | '\\' :: 'u' :: rest => (⟨[], some (noUnit rest)⟩, [])
  | '\\' :: e :: rest =>
    match escape? e with
    | some c =>
      let (q, rest) := string rest
      ({ q with pieces := .char c :: q.pieces }, rest)
    | none => (⟨[], some .malformed⟩, rest)
  | ['\\'] => (⟨[], some .ended⟩, [])
  | c :: rest =>
    if c.toNat < 32 then (⟨[], some .malformed⟩, rest)
    else
      let (q, rest) := string rest
      ({ q with pieces := .char c :: q.pieces }, rest)

/-! ## Values -/

/-- Whether a value breaks the text off, so that nothing after it is looked at. -/
def breaksOff : Outline → Bool
  | .broken _ => true
  | .cutNumber => true
  | .string s => s.flaw.isSome
  | .array _ flaw => flaw.isSome
  | .object _ flaw => flaw.isSome
  | _ => false

mutual

/-- The value at the front of a text, gaps aside. -/
def value : Nat → List Char → Outline × List Char
  | 0, cs => (.broken .malformed, cs)
  | fuel + 1, cs =>
    match skipGaps cs with
    | [] => (.broken .ended, [])
    | 'n' :: rest => word .null ['u', 'l', 'l'] rest
    | 't' :: rest => word (.bool true) ['r', 'u', 'e'] rest
    | 'f' :: rest => word (.bool false) ['a', 'l', 's', 'e'] rest
    | '-' :: rest => number true rest
    | '"' :: rest =>
      let (s, rest) := string rest
      (.string s, rest)
    | '[' :: rest =>
      match skipGaps rest with
      | ']' :: rest => (.array [] none, rest)
      | [] => (.array [] (some .ended), [])
      | rest => items fuel rest
    | '{' :: rest =>
      match skipGaps rest with
      | '}' :: rest => (.object [] none, rest)
      | rest => members fuel rest
    | c :: rest => if (digit? c).isSome then number false (c :: rest) else (.broken .malformed, c :: rest)

/-- The items of an array from the next one on. -/
def items : Nat → List Char → Outline × List Char
  | 0, cs => (.array [] (some .malformed), cs)
  | fuel + 1, cs =>
    match value fuel cs with
    | (item, rest) =>
      if breaksOff item then (.array [item] (some .malformed), rest)
      else match skipGaps rest with
        | ']' :: rest => (.array [item] none, rest)
        | ',' :: rest =>
          match items fuel rest with
          | (.array more flaw, rest) => (.array (item :: more) flaw, rest)
          | (_, rest) => (.array [item] (some .malformed), rest)
        | [] => (.array [item] (some .ended), [])
        | rest => (.array [item] (some .malformed), rest)

/-- The members of an object from the next one on. -/
def members : Nat → List Char → Outline × List Char
  | 0, cs => (.object [] (some .malformed), cs)
  | fuel + 1, cs =>
    match skipGaps cs with
    | [] => (.object [] (some .ended), [])
    | '"' :: rest =>
      let (key, rest) := string rest
      if key.flaw.isSome then (.object [(key, .broken .malformed)] (some .malformed), rest)
      else
        match skipGaps rest with
        | [] => (.object [(key, .broken .ended)] (some .ended), [])
        | ':' :: rest =>
          match value fuel rest with
          | (item, rest) =>
            if breaksOff item then (.object [(key, item)] (some .malformed), rest)
            else match skipGaps rest with
              | '}' :: rest => (.object [(key, item)] none, rest)
              | ',' :: rest =>
                match members fuel rest with
                | (.object more flaw, rest) => (.object ((key, item) :: more) flaw, rest)
                | (_, rest) => (.object [(key, item)] (some .malformed), rest)
              | [] => (.object [(key, item)] (some .ended), [])
              | rest => (.object [(key, item)] (some .malformed), rest)
        | rest => (.object [(key, .broken .malformed)] (some .malformed), rest)
    | rest => (.object [] (some .malformed), rest)

end

/-- A document: the outline of its value, and what is wrong after it. -/
structure Document where
  root : Outline
  flaw : Option Fault

/-- The outline of a whole text. Only gaps may follow the value. -/
def document (text : String) : Document :=
  let cs := text.toList
  match value (2 * cs.length + 2) cs with
  | (root, rest) => ⟨root, if (skipGaps rest).isEmpty then none else some .malformed⟩

end Peripherals.Json.Parser
