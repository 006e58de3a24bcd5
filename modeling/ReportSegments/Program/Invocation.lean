/-!
This module contains what a run of the program is asked to do.
-/

namespace ReportSegments

inductive OutputFormat where
  | text
  | json
deriving DecidableEq, Repr

namespace OutputFormat

def ofName? (s : String) : Option OutputFormat :=
  if s = "text" then some text else if s = "json" then some json else none

end OutputFormat

inductive ColorMode where
  /-- Where the output goes to a terminal. -/
  | auto
  | always
  | never
deriving DecidableEq, Repr

namespace ColorMode

def ofName? (s : String) : Option ColorMode :=
  if s = "auto" then some auto
  else if s = "always" then some always
  else if s = "never" then some never
  else none

def coloured (terminal : Bool) : ColorMode → Bool
  | auto => terminal
  | always => true
  | never => false

end ColorMode

/--
A task of the program. Reports are given by the paths of their documents.
-/
inductive Command where
  /-- Runs the configured passes over a report. -/
  | annotate (report : String)
  /-- Puts the full label of a row together. -/
  | recompose (report row : String)
  /-- Explains an expression, with the display names of a report if one is given. -/
  | describe (expression : String) (report : Option String)
  /-- Builds the row action for a label, by default for the report's own API method. -/
  | rowAction (report label : String) (apiMethod : Option String)
deriving DecidableEq, Repr

def Command.report? : Command → Option String
  | annotate report => some report
  | recompose report _ => some report
  | describe _ report => report
  | rowAction report _ _ => some report

/--
What a run of the program is asked to do.
-/
structure Invocation where
  command : Command
  /-- The path of the configuration. -/
  config : Option String := none
  format : OutputFormat := .text
  color : ColorMode := .auto
  /-- The path of a file that receives the output as well. -/
  output : Option String := none
deriving DecidableEq, Repr

namespace Invocation

def sources (invocation : Invocation) : List String :=
  invocation.config.toList ++ invocation.command.report?.toList

end Invocation
end ReportSegments
