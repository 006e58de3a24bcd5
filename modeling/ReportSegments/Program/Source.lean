import ReportSegments.Config.Reader
import ReportSegments.Display.Recompose
import ReportSegments.Report.Reader

/-!
This module contains the errors of a run and the loading of the files that a run reads.
-/

namespace ReportSegments

inductive RunError where
  | config
  | report (path : String)
  | rowPath (row : String)
  | noRow (row : String)
  | unknownRow (error : Display.UnknownRow)
  | expression (text : String)
  | noSegment
  | output (path : String)
deriving DecidableEq, Repr

def RunError.message : RunError → String
  | config => "Failed to load config"
  | report path => s!"Failed to load report '{path}'"
  | rowPath row => s!"Invalid row path '{row}', expected e.g. 0/2/1"
  | noRow row => s!"No row at path '{row}'"
  | unknownRow error => error.message
  | expression text => s!"Cannot describe '{text}'"
  | noSegment => "Row action is not available: the report has no segment"
  | output path => s!"Failed to write output file '{path}'"

def require (value : Option α) (error : RunError) : Except RunError α :=
  match value with
  | some value => .ok value
  | none => .error error

def readText? (read? : String → Option ByteArray) (path : String) : Option String :=
  (read? path).bind String.fromUTF8?

def loadReport (read? : String → Option ByteArray) (path : String) : Except RunError Document :=
  require ((readText? read? path).bind Document.parse?) (.report path)

/--
The configuration at a path, or the default one if there is no path.
-/
def loadConfig (read? : String → Option ByteArray) : Option String → Except RunError Config
  | none => .ok {}
  | some path => require ((readText? read? path).bind Config.parse?) .config

/--
The display names of an expression, with those of the report at a path if there is one.
-/
def loadRegistry (read? : String → Option ByteArray) (config : Config) :
    Option String → Except RunError Registry
  | none => .ok config.segments
  | some path => do return config.registryFor (← loadReport read? path).dimension

end ReportSegments
