/-
  Ultralight.Main
  ───────────────
  **The program.**

  Reads its command line.  The library brings no access to reader hardware,
  so a command line without fault ends with the error of a missing reader.
-/
import Ultralight.CommandLine.Run

namespace Ultralight

open CommandLine

/-- The exit code of a command line fault; asking for help is none. -/
def exitCode : ArgumentFault → UInt32
  | .help | .version => 0
  | _ => 2

/-- What a run without a reader says. -/
def openingFailed : String :=
  "Error: error opening NFC device\n\nCaused by:\n    " ++ Error.deviceNotFound.message

end Ultralight

/-- Read the command line and report. -/
def main (line : List String) : IO UInt32 := do
  match Ultralight.CommandLine.Arguments.parse line with
  | .error fault =>
      if Ultralight.exitCode fault = 0 then IO.println fault.message
      else IO.eprintln fault.message
      pure (Ultralight.exitCode fault)
  | .ok _ =>
      IO.eprintln Ultralight.openingFailed
      pure 1
