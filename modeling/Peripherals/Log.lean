import Peripherals.Text.Hex

/-!
# `Peripherals.Log` — what is told to the log

A log is a list of lines, each with the level it was raised at. Nothing depends on what has been logged; whoever
shows a log chooses the level down to which it is shown.
-/

namespace Peripherals.Log

/-- How urgent a line is, the most urgent first. -/
inductive Level where
  | error
  | warn
  | info
  | debug
  | trace
  deriving DecidableEq, Repr

/-- The rank of a level; the most urgent ranks lowest. -/
def Level.rank : Level → Nat
  | .error => 0
  | .warn => 1
  | .info => 2
  | .debug => 3
  | .trace => 4

/-- The name of a level. -/
def Level.name : Level → String
  | .error => "ERROR"
  | .warn => "WARN"
  | .info => "INFO"
  | .debug => "DEBUG"
  | .trace => "TRACE"

/-- One line of a log. -/
structure Line where
  level : Level
  text : String
  deriving DecidableEq, Repr

/-- The lines that are at least as urgent as `lowest`, in order. -/
def shown (lowest : Level) (lines : List Line) : List Line :=
  lines.filter fun line => line.level.rank ≤ lowest.rank

/-- The largest number of bytes that a frame dump shows. -/
def dumpLimit : Nat := 64

/-- **A frame as the log shows it**: its first bytes, and how many there are if some are left out. -/
def frameDump (label : String) (data : Bytes) : Line :=
  let rest := if dumpLimit < data.length then s!" ... ({data.length} bytes total)" else ""
  ⟨.debug, s!"{label}: {Hex.spaced (data.take dumpLimit)}{rest}"⟩

/-- The line that a second attempt to set up the log leaves. -/
def alreadySetUp : Line := ⟨.debug, "Logger already initialized"⟩

end Peripherals.Log
