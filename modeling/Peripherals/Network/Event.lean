/-!
# `Peripherals.Network.Event` — changes of connectivity
-/

namespace Peripherals.Network

/-- A change of connectivity, whatever the medium of the adapter. -/
inductive Event where
  | connected
  | disconnected
  /-- The adapter failed; the text says how. -/
  | error (text : String)
  deriving DecidableEq, Repr

/-- Why an adapter cannot be registered. -/
inductive Error where
  /-- Nothing can run tasks in the background. -/
  | noRuntime
  deriving DecidableEq, Repr

/-- The wording of an error. -/
def Error.message : Error → String
  | .noRuntime => "No async runtime available to forward adapter events"

end Peripherals.Network
