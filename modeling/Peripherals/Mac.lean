import Peripherals.Text.Hex

/-!
# `Peripherals.Mac` — hardware addresses of network interfaces

Six octets, read from text with colons, hyphens, blanks or nothing between the digits, and written in upper case
with colons.
-/

namespace Peripherals

/-- A hardware address. -/
structure Mac where
  /-- The octets, in the order in which they are written. -/
  octets : Bytes
  length_octets : octets.length = 6
  deriving DecidableEq

namespace Mac

/-- The address with these octets, if there are six. -/
def ofBytes? (bs : Bytes) : Option Mac :=
  if h : bs.length = 6 then some ⟨bs, h⟩ else none

/-- The address of six zeros. -/
def zero : Mac := ⟨Bytes.zeros 6, rfl⟩

instance : Inhabited Mac := ⟨zero⟩

/-- Whether a character may stand between the digits. -/
def isSeparator (c : Char) : Bool := c == ':' || c == '-' || c == ' '

/-- Reads an address; separators are skipped wherever they stand. -/
def parse (text : String) : Except Hex.Error Mac :=
  match Hex.decode (String.ofList (text.toList.filter fun c => !isSeparator c)) with
  | .error e => .error e
  | .ok bs => if h : bs.length = 6 then .ok ⟨bs, h⟩ else .error (.macLength bs.length)

/-- Writes an address in upper case, with a colon between octets. -/
def render (m : Mac) : String := Hex.separated .upper ":" m.octets

end Mac

end Peripherals
