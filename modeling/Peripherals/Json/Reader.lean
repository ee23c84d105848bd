import Peripherals.Json.Number
import Peripherals.Json.Parser

/-!
# `Peripherals.Json.Reader` — values read off an outline

A reader goes through an outline from the front and stops at the first fault.

* `Outline.skip` — a value that nobody asked for; only its shape matters;
* `readBool`, `readNatural`, `readReal`, `readText`, `readOptional`, `readList` — plain values;
* `Member`, `readRecord` — objects with known members, all of them optional.
-/

namespace Peripherals.Json

/-! ## Strings -/

/-- The text that pieces spell. Two units that form a pair are one character; a unit of a pair that stands alone
spells nothing. `flaw` is what is wrong after the pieces. -/
def spell (flaw : Option Fault) : List Piece → Except Fault (List Char)
  | [] =>
    match flaw with
    | none => .ok []
    | some f => .error f
  | .char c :: rest => (spell flaw rest).map (c :: ·)
  | .unit high :: rest =>
    -- The second half of a pair cannot come first.
    if 0xDC00 ≤ high ∧ high ≤ 0xDFFF then .error .malformed
    else if high < 0xD800 ∨ 0xDFFF < high then (spell flaw rest).map (Char.ofNat high :: ·)
    else match rest with
      | .unit low :: rest =>
        if 0xDC00 ≤ low ∧ low ≤ 0xDFFF then
          (spell flaw rest).map (Char.ofNat (0x10000 + (high - 0xD800) * 0x400 + (low - 0xDC00)) :: ·)
        else .error .malformed
      | .char _ :: _ => .error .malformed
      -- The second half is due where the pieces end.
      | [] => .error (flaw.getD .malformed)

/-- The text of a string. -/
def Quoted.read (s : Quoted) : Except Fault String := (spell s.flaw s.pieces).map String.ofList

/-- A flaw as an outcome. -/
def settle (flaw : Option Fault) : Except Fault Unit :=
  match flaw with
  | none => .ok ()
  | some f => .error f

/-! ## Skipping -/

mutual

/-- Passes over a value. Its numbers need not be worth anything and its strings need not spell anything. -/
def Outline.skip : Outline → Except Fault Unit
  | .broken f => .error f
  | .null | .bool _ | .number _ => .ok ()
  | .cutNumber => .error .malformed
  | .string s => settle s.flaw
  | .array items flaw => do
    skipItems items
    settle flaw
  | .object members flaw => do
    skipMembers members
    settle flaw

/-- Passes over items. -/
def skipItems : List Outline → Except Fault Unit
  | [] => .ok ()
  | item :: rest => do
    item.skip
    skipItems rest

/-- Passes over members. -/
def skipMembers : List (Quoted × Outline) → Except Fault Unit
  | [] => .ok ()
  | (key, item) :: rest => do
    settle key.flaw
    item.skip
    skipMembers rest

end

/-! ## Plain values -/

/-- What is wrong with a value where another kind of value belongs. A number or a string is read first, so that
what is wrong with itself wins. -/
def Outline.refuse : Outline → Fault
  | .broken f => f
  | .cutNumber => .ended
  | .number n =>
    match n.read with
    | .error f => f
    | .ok _ => .mismatch
  | .string s =>
    match s.read with
    | .error f => f
    | .ok _ => .mismatch
  | .null | .bool _ | .array .. | .object .. => .mismatch

/-- A truth value. -/
def readBool : Outline → Except Fault Bool
  | .bool b => .ok b
  | o => .error o.refuse

/-- A natural number up to `limit`. -/
def readNatural (limit : Nat) : Outline → Except Fault Nat
  | .number n =>
    match n.read with
    | .ok (.natural k) => if k ≤ limit then .ok k else .error .mismatch
    | .ok _ => .error .mismatch
    | .error f => .error f
  | o => .error o.refuse

/-- A double; integers will do. -/
def readReal : Outline → Except Fault Float
  | .number n =>
    match n.read with
    | .ok (.natural k) => .ok (Numeral.toReal k)
    | .ok (.negative k) => .ok (-(Numeral.toReal k))
    | .ok (.real x) => .ok x
    | .error f => .error f
  | o => .error o.refuse

/-- A text. -/
def readText : Outline → Except Fault String
  | .string s => s.read
  | o => .error o.refuse

/-- A value, or `null` for none. -/
def readOptional {α : Type} (read : Outline → Except Fault α) : Outline → Except Fault (Option α)
  | .null => .ok none
  | o => (read o).map some

/-- A list. -/
def readList {α : Type} (read : Outline → Except Fault α) : Outline → Except Fault (List α)
  | .array items flaw => do
    let as ← items.mapM read
    settle flaw
    pure as
  | o => .error o.refuse

/-! ## Records -/

/-- A member that a record knows. -/
structure Member (α : Type) where
  name : String
  /-- Puts the value of the member into a record. -/
  store : Outline → α → Except Fault α

/-- Members in any order. A known one may come once; others are passed over. -/
def readMembers {α : Type} (fields : List (Member α)) (flaw : Option Fault) (seen : List String) (acc : α) :
    List (Quoted × Outline) → Except Fault α
  | [] => (settle flaw).map fun () => acc
  | (key, item) :: rest => do
    let name ← key.read
    match fields.find? fun f => f.name == name with
    | none =>
      item.skip
      readMembers fields flaw seen acc rest
    | some field =>
      -- A repetition is refused before its value is looked at.
      if name ∈ seen then throw .mismatch
      let acc ← field.store item acc
      readMembers fields flaw (name :: seen) acc rest

/-- The values of members in their order, without names. The last ones may be left out. -/
def readRow {α : Type} (flaw : Option Fault) (acc : α) : List (Member α) → List Outline → Except Fault α
  -- A value too many is a fault of the text, not of the value.
  | [], _ :: _ => .error .malformed
  | _, [] => (settle flaw).map fun () => acc
  | field :: fields, item :: rest => do
    let acc ← field.store item acc
    readRow flaw acc fields rest

/-- **A record**: an object, or an array of its values in order. What is missing stays as in `initial`. -/
def readRecord {α : Type} (fields : List (Member α)) (initial : α) : Outline → Except Fault α
  | .object members flaw => readMembers fields flaw [] initial members
  | .array items flaw => readRow flaw initial fields items
  | o => .error o.refuse

/-- Reads a whole text. -/
def readDocument {α : Type} (read : Outline → Except Fault α) (text : String) : Except Fault α := do
  let document := Parser.document text
  let a ← read document.root
  settle document.flaw
  pure a

end Peripherals.Json
