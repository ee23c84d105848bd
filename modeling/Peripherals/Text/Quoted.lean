import Peripherals.Text.Printable

/-!
# `Peripherals.Text.Quoted` — text and characters in quotes

Diagnostics show text between quotes. A backslash escapes the quote itself, the backslash, and the common
controls; any other character that shows no glyph is written by its code point.
-/

namespace Peripherals.Text

/-- The code point of a character in braces, in lower-case hexadecimal. -/
def escapedCodePoint (c : Char) : String :=
  "\\u\x7b" ++ String.ofList (Nat.toDigits 16 c.toNat) ++ "\x7d"

/-- A character as it stands between two quotes of the kind `quote`. -/
def escapedChar (quote : Char) (c : Char) : String :=
  if c = Char.ofNat 0 then "\\0"
  else if c = '\t' then "\\t"
  else if c = '\r' then "\\r"
  else if c = '\n' then "\\n"
  else if c = '\\' then "\\\\"
  else if c = quote then "\\" ++ String.singleton c
  else if isPrintable c then String.singleton c
  else escapedCodePoint c

/-- A text between double quotes. -/
def quoted (s : String) : String :=
  "\"" ++ String.join (s.toList.map (escapedChar '"')) ++ "\""

/-- A character between single quotes. -/
def quotedChar (c : Char) : String := "'" ++ escapedChar '\'' c ++ "'"

end Peripherals.Text
