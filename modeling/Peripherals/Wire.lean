import Peripherals.Bytes

/-!
# `Peripherals.Wire` — reading fields off a byte sequence

A `Reader` takes a field off the front of a byte sequence and leaves the rest. Reading fails in two ways only:
the bytes end too early, or a counted text is not UTF-8. Each field has its written form beside it.

* fixed fields: `byte`, `word`, `octets`;
* counted fields: a 32-bit length and that many bytes (`counted`), or a text of that many bytes (`text`).
-/

namespace Peripherals.Wire

/-- Why a field cannot be read. -/
inductive Fault where
  /-- The bytes end before the field does. -/
  | short
  /-- The bytes of a text are not UTF-8. -/
  | badText
  deriving DecidableEq, Repr

/-- Takes a field off the front of a byte sequence. -/
abbrev Reader := StateT Bytes (Except Fault)

/-! ## Fixed fields -/

/-- One byte. -/
def byte : Reader UInt8 := fun bs =>
  match bs with
  | b :: rest => .ok (b, rest)
  | [] => .error .short

/-- A 32-bit word. -/
def word : Reader UInt32 := fun bs =>
  match Bytes.takeWord32? bs with
  | some field => .ok field
  | none => .error .short

/-- The next `n` bytes. -/
def octets (n : Nat) : Reader Bytes := fun bs =>
  if n ≤ bs.length then .ok (bs.take n, bs.drop n) else .error .short

/-! ## Counted fields -/

/-- A length and that many bytes. -/
def counted : Reader Bytes := do
  let length ← word
  octets length.toNat

/-- Bytes after their number. -/
def putCounted (bs : Bytes) : Bytes := Bytes.ofWord32 (UInt32.ofNat bs.length) ++ bs

/-- A text after the number of its bytes. The bytes are taken before they are looked at. -/
def text : Reader String := do
  let bs ← counted
  match Bytes.text? bs with
  | some s => pure s
  | none => throw .badText

/-- The UTF-8 bytes of a text after their number. -/
def putText (s : String) : Bytes := putCounted (Bytes.ofText s)

end Peripherals.Wire
