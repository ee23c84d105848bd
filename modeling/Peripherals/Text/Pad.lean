/-!
# `Peripherals.Text.Pad` — numbers and names in columns
-/

namespace Peripherals.Text

/-- `s` filled up on the left with `fill` to at least `width` characters. -/
def padLeft (width : Nat) (fill : Char) (s : String) : String :=
  String.ofList (List.replicate (width - s.length) fill) ++ s

/-- `s` filled up on the right with spaces to at least `width` characters. -/
def padRight (width : Nat) (s : String) : String :=
  s ++ String.ofList (List.replicate (width - s.length) ' ')

end Peripherals.Text
