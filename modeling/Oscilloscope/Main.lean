/- The program: carries out its arguments against transfers given on standard input. -/

import Oscilloscope.CommandLine.Run

set_option autoImplicit false
set_option relaxedAutoImplicit false

namespace Oscilloscope

/-- The lines up to the end of the input, without their line ends. -/
partial def readLines (input : IO.FS.Stream) (before : Array String) : IO (Array String) := do
  let line ← input.getLine
  if line.isEmpty then return before
  readLines input (before.push line.trimAscii.toString)

end Oscilloscope

open Oscilloscope CommandLine in
def main (arguments : List String) : IO UInt32 := do
  match Invocation.parse arguments with
  | .error fault =>
    IO.eprintln fault.message
    return 2
  | .ok invocation =>
    let lines ← readLines (← IO.getStdin) #[]
    match invocation.run {} (Script.ofLines lines.toList) with
    | .ok _ terminal =>
      terminal.printed.forM fun line => IO.println line
      return 0
    | .error failed terminal =>
      terminal.printed.forM fun line => IO.println line
      failed.messages.forM fun message => IO.eprintln message
      return 1
