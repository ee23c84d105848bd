import Peripherals.Pin.Channel

/-!
# `Peripherals.Pin.Basic` — pins

A pin has a name, the key that the native driver knows it by, and the channels that can be routed to it. Two views
of what it can do stand side by side: the union of its channels' capabilities (`capabilities`, `supports`), and
the first channel of a shape (`digitalChannel?` and its like).
-/

namespace Peripherals

/-- A physical pin. -/
structure Pin where
  name : String
  /-- The key of the pin in the native driver. -/
  key : UInt16
  channels : List Channel
  deriving DecidableEq, Repr

namespace Pin

/-- Everything that some channel of the pin can do. -/
def capabilities (p : Pin) : Capabilities :=
  p.channels.foldl (fun seen c => seen.union c.capabilities) .none

/-- Whether the pin fits a use. -/
def supports (p : Pin) (use : PinUse) : Bool := p.capabilities.intersects use.required

/-- The short names of the channels, for messages. -/
def describeChannels (p : Pin) : String := ",".intercalate (p.channels.map Channel.name)

/-- The first digital channel. -/
def digitalChannel? (p : Pin) : Option Channel :=
  p.channels.find? fun
    | .digital .. => true
    | _ => false

/-- The first analog channel that can be read. -/
def analogChannel? (p : Pin) : Option Channel :=
  p.channels.find? fun
    | .analog _ input _ => input
    | _ => false

/-- The bus number and the role of the first two-wire channel. -/
def twoWireChannel? (p : Pin) : Option (UInt8 × TwoWireRole) :=
  p.channels.findSome? fun
    | .twoWire bus role => some (bus, role)
    | _ => none

/-- The bus number and the role of the first four-wire channel. -/
def fourWireChannel? (p : Pin) : Option (UInt8 × FourWireRole) :=
  p.channels.findSome? fun
    | .fourWire bus role => some (bus, role)
    | _ => none

/-- The first pin of that name in a table of pins. -/
def find? (pins : List Pin) (name : String) : Option Pin := pins.find? fun p => p.name == name

end Pin

end Peripherals
