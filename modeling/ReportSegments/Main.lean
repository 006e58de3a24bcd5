import ReportSegments.Program.Run

/-!
This module contains the command line program.
-/

namespace ReportSegments

/--
What the system does for the program.
-/
def Host.system : Host IO where
  read? path := do
    try
      return some (← IO.FS.readBinFile path)
    catch _ =>
      return none
  write path content := do
    try
      IO.FS.writeBinFile path content
      return true
    catch _ =>
      return false
  print := IO.print
  printError := IO.eprint
  isTerminal := do (← IO.getStdout).isTty

end ReportSegments

open ReportSegments

def main (args : List String) : IO UInt32 := do
  let exitCode ← runCommandLine .system (← IO.getEnv "SEGMENT_FILTER_CONFIG") args
  return exitCode.toUInt32
