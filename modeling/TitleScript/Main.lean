import TitleScript.CommandLine

/-!
# The entry point

The files that the arguments name are read first, and the program is then a function of what was
read.
-/

namespace TitleScript

namespace CommandLine

/-- The contents of a file, if it can be read. -/
def readFile? (path : String) : IO (Option ByteArray) :=
  try return some (← IO.FS.readBinFile path) catch _ => return none

/-- Read the files that the program will look at. -/
def readFiles (paths : List String) : IO Files := do
  let contents ← paths.mapM fun path => return (path, ← readFile? path)
  return fun path => (contents.lookup path).getD none

end CommandLine

end TitleScript

open TitleScript

/-- Run the program, print what it has to say and end with its code. -/
def main (args : List String) : IO UInt32 := do
  let separator ← IO.getEnv "TITLEFMT_SEPARATOR"
  let exit := CommandLine.run args separator
    (← CommandLine.readFiles (CommandLine.neededFiles args))
  IO.print exit.output
  return exit.code.toUInt32
