import ReportSegments.Program.Invocation

/-!
This module contains the settings that can be given on the command line, each at most once.
-/

namespace ReportSegments

inductive Setting where
  | config
  | format
  | color
  | output
  | report
  | row
  | expression
  | label
  | apiMethod
deriving DecidableEq, Repr

inductive Switch where
  | verbose
  | quiet
  | help
  | version
deriving DecidableEq, Repr

/--
The name of a command, without its settings.
-/
inductive CommandName where
  | annotate
  | recompose
  | describe
  | rowAction
deriving DecidableEq, Repr

namespace CommandName

def ofText? (s : String) : Option CommandName :=
  if s = "annotate" then some annotate
  else if s = "recompose" then some recompose
  else if s = "describe" then some describe
  else if s = "row-action" then some rowAction
  else none

end CommandName

namespace Setting

def ofLong? (s : String) : Option Setting :=
  if s = "config" then some config
  else if s = "format" then some format
  else if s = "color" then some color
  else if s = "output" then some output
  else if s = "report" then some report
  else if s = "row" then some row
  else if s = "expression" then some expression
  else if s = "label" then some label
  else if s = "api-method" then some apiMethod
  else none

def ofShort? (c : Char) : Option Setting :=
  if c = 'o' then some output
  else if c = 'r' then some report
  else if c = 'e' then some expression
  else if c = 'l' then some label
  else none

/--
Whether a setting may be given in front of all commands (`none`) or behind a command.
-/
def isAllowed : Option CommandName → Setting → Bool
  | _, config | _, format | _, color | _, output => true
  | none, _ => false
  | some command, report => command ∈ [.annotate, .recompose, .describe, .rowAction]
  | some command, row => command = .recompose
  | some command, expression => command = .describe
  | some command, label | some command, apiMethod => command = .rowAction

end Setting

namespace Switch

def ofLong? (s : String) : Option Switch :=
  if s = "verbose" then some verbose
  else if s = "quiet" then some quiet
  else if s = "help" then some help
  else if s = "version" then some version
  else none

def ofShort? (c : Char) : Option Switch :=
  if c = 'v' then some verbose
  else if c = 'q' then some quiet
  else if c = 'h' then some help
  else if c = 'V' then some version
  else none

/--
Whether a switch may be given in front of all commands (`none`) or behind a command.
-/
def isAllowed : Option CommandName → Switch → Bool
  | some _, version => false
  | _, _ => true

end Switch

/--
The settings given in front of all commands, or behind a command.
-/
structure Settings where
  config : Option String := none
  format : Option OutputFormat := none
  color : Option ColorMode := none
  output : Option String := none
  report : Option String := none
  row : Option String := none
  expression : Option String := none
  label : Option String := none
  apiMethod : Option String := none
  quiet : Bool := false
deriving DecidableEq, Repr

namespace Settings

/--
The value of a setting that is given for the first time.
-/
def once? (old : Option α) (value : Option α) : Option (Option α) :=
  match old, value with
  | none, some value => some (some value)
  | _, _ => none

def path? (s : String) : Option String :=
  if s.isEmpty then none else some s

def set? (settings : Settings) (setting : Setting) (value : String) : Option Settings :=
  match setting with
  | .config => (once? settings.config (path? value)).map ({ settings with config := · })
  | .format =>
    (once? settings.format (OutputFormat.ofName? value)).map ({ settings with format := · })
  | .color => (once? settings.color (ColorMode.ofName? value)).map ({ settings with color := · })
  | .output => (once? settings.output (path? value)).map ({ settings with output := · })
  | .report => (once? settings.report (path? value)).map ({ settings with report := · })
  | .row => (once? settings.row value).map ({ settings with row := · })
  | .expression => (once? settings.expression value).map ({ settings with expression := · })
  | .label => (once? settings.label value).map ({ settings with label := · })
  | .apiMethod => (once? settings.apiMethod value).map ({ settings with apiMethod := · })

/--
The command with its settings. Most of them must be given.
-/
def command? (settings : Settings) : CommandName → Option Command
  | .annotate => settings.report.map .annotate
  | .recompose => do return .recompose (← settings.report) (← settings.row)
  | .describe => settings.expression.map (.describe · settings.report)
  | .rowAction => do return .rowAction (← settings.report) (← settings.label) settings.apiMethod

/--
The command of `inner`, with the common settings of `inner` before those of `outer`. The
configuration may also come from the environment, where an empty path is an error unless it is
given at both places.
-/
def invocation? (environment : Option String) (outer : Settings) (name : CommandName)
    (inner : Settings) : Option Invocation := do
  let command ← inner.command? name
  let given := inner.config <|> outer.config
  if environment = some "" && !(inner.config.isSome && outer.config.isSome) then none
  return {
    command
    config := given <|> environment
    format := (inner.format <|> outer.format).getD .text
    color := (inner.color <|> outer.color).getD .auto
    output := inner.output <|> outer.output
  }

end Settings
end ReportSegments
