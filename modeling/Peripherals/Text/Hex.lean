import Peripherals.Bytes
import Peripherals.Text.Blank
import Peripherals.Text.Pad
import Peripherals.Text.Quoted

/-!
# `Peripherals.Text.Hex` — bytes as hexadecimal text

* `Hex.encode`, `Hex.spaced` — two lower-case digits a byte, run together or set apart by blanks;
* `Hex.decode` — the bytes of a text in either case, blanks skipped;
* `Hex.Error` — why a text is not hexadecimal.
-/

namespace Peripherals.Hex

/-! ## Digits -/

/-- The letters used for the digits above nine. -/
inductive Case where
  | lower
  | upper
  deriving DecidableEq, Repr

/-- The digit of a number below sixteen. -/
def digit (letters : Case) (n : Nat) : Char :=
  if n < 10 then Char.ofNat (48 + n)
  else match letters with
    | .lower => Char.ofNat (87 + n)
    | .upper => Char.ofNat (55 + n)

/-- The number that a digit stands for, whatever its case, from its ASCII code. -/
def digitValue? (b : UInt8) : Option Nat :=
  if 48 ≤ b ∧ b ≤ 57 then some (b.toNat - 48)
  else if 97 ≤ b ∧ b ≤ 102 then some (b.toNat - 87)
  else if 65 ≤ b ∧ b ≤ 70 then some (b.toNat - 55)
  else none

/-- The two digits of a byte. -/
def ofByte (letters : Case) (b : UInt8) : List Char :=
  [digit letters (b.toNat / 16), digit letters (b.toNat % 16)]

/-- A number in hexadecimal, with leading zeros up to `width` digits. -/
def ofNat (letters : Case) (width : Nat) (n : Nat) : String :=
  let digits := Nat.toDigits 16 n
  Text.padLeft width '0' (String.ofList (match letters with
    | .lower => digits
    | .upper => digits.map Char.toUpper))

/-! ## Writing -/

/-- Two lower-case digits a byte. -/
def encode (bs : Bytes) : String := String.ofList (bs.flatMap (ofByte .lower))

/-- Two digits a byte, the bytes set apart by `separator`. -/
def separated (letters : Case) (separator : String) (bs : Bytes) : String :=
  separator.intercalate (bs.map fun b => String.ofList (ofByte letters b))

/-- Two lower-case digits a byte, the bytes set apart by blanks. -/
def spaced (bs : Bytes) : String := separated .lower " " bs

/-! ## Reading -/

/-- Why a text does not stand for bytes. -/
inductive Error where
  /-- An odd number of digits, counted in UTF-8 bytes. -/
  | oddLength (count : Nat)
  /-- Nothing but blanks. -/
  | empty
  /-- A byte that is no digit, with its position among the bytes that are left. -/
  | badDigit (byte : UInt8) (position : Nat)
  /-- A hardware address of the wrong length. -/
  | macLength (count : Nat)
  deriving DecidableEq, Repr

/-- The wording of an error. -/
def Error.message : Error → String
  | .oddLength count => s!"Odd number of hex characters: {count}"
  | .empty => "Empty hex string"
  | .badDigit byte position =>
    s!"Hex decoding error: Invalid character {Text.quotedChar (Char.ofNat byte.toNat)} at position {position}"
  | .macLength count => s!"MAC address must be 6 bytes, got {count}"

/-- The bytes of a sequence of digit pairs that starts at `position`. -/
def decodePairs (position : Nat) : Bytes → Except Error Bytes
  | high :: low :: rest =>
    match digitValue? high, digitValue? low with
    | some h, some l => (decodePairs (position + 2) rest).map (UInt8.ofNat (16 * h + l) :: ·)
    | none, _ => .error (.badDigit high position)
    | some _, none => .error (.badDigit low (position + 1))
  | _ => .ok []

/-- The bytes of a text that is left once blanks are gone. -/
def decode (text : String) : Except Error Bytes :=
  let digits := Bytes.ofText (Text.withoutBlanks text)
  if digits.isEmpty then .error .empty
  else if digits.length % 2 = 1 then .error (.oddLength digits.length)
  else decodePairs 0 digits

end Peripherals.Hex
