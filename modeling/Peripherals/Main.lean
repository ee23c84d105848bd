import Peripherals.Cli.Run

/-!
# `Peripherals.Main` — the command line

Reads the file of settings that the command line names, if any, and shows what became of the command. Messages to
the log go to the error stream.
-/

open Peripherals

/-- The content of a file, if it can be read. -/
def readFile? (path : String) : IO (Option Bytes) := do
  try
    pure (some (← IO.FS.readBinFile path).data.toList)
  catch _ => pure none

/-- The file that a command line names. -/
def namedFile? (line : List String) : Option String :=
  match Cli.Request.ofWords line with
  | .ok (.run config _) => config
  | _ => none

def main (line : List String) : IO UInt32 := do
  let content ← match namedFile? line with
    | some path => readFile? path
    | none => pure none
  let outcome := Cli.run (fun _ => content) line
  match outcome with
  | .error e => IO.eprintln e.message
  | .ok result =>
    for message in result.told do
      IO.eprintln message
    IO.print result.printed
    if let some failure := result.failure then IO.eprintln failure.text
  return Cli.exitCode outcome
