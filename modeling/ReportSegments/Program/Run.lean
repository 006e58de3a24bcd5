import ReportSegments.Program.Arguments
import ReportSegments.Program.Host
import ReportSegments.Program.Recomposed
import ReportSegments.Program.VisitsLink
import ReportSegments.Render.Annotated
import ReportSegments.Render.Conditions

/-!
This module contains the runs of the program. `Invocation.render` computes the output of a command
from the files it reads; only when there is an output is anything printed or written.
-/

namespace ReportSegments

/--
What is shown in a format, of a text and a JSON value with the same content.
-/
def OutputFormat.shown (text : String) (json : Json) : OutputFormat → String
  | .text => text
  | .json => json.pretty

namespace Invocation

def render (read? : String → Option ByteArray) (terminal : Bool) (invocation : Invocation) :
    Except RunError String := do
  let config ← loadConfig read? invocation.config
  match invocation.command with
  | .annotate report =>
    let document ← loadReport read? report
    let annotated := Annotated.ofRun (config.passes document.segment?) document
    let text := annotated.text (invocation.color.coloured terminal)
    return invocation.format.shown text annotated.json
  | .recompose report row =>
    let recomposed ← Recomposed.ofRow config.layout (← loadReport read? report) row
    return invocation.format.shown recomposed.text recomposed.json
  | .describe text report =>
    let registry ← loadRegistry read? config report
    match Expression.parse text with
    | .error _ => .error (.expression text)
    | .ok expression =>
      return invocation.format.shown (expression.text registry) (expression.json registry)
  | .rowAction report label apiMethod =>
    let link ← VisitsLink.ofLabel config (← loadReport read? report) label apiMethod
    return invocation.format.shown link.text link.json

/--
Runs the program, and gives its exit code. The output is printed, and then written to a file if one
is named.
-/
def run [Monad m] (host : Host m) (invocation : Invocation) : m Nat := do
  let contents ← invocation.sources.mapM fun path => do return (path, ← host.read? path)
  let terminal ← host.isTerminal
  match invocation.render (fun path => (contents.lookup path).join) terminal with
  | .error error =>
    host.printError ("Error: " ++ error.message ++ "\n")
    return 1
  | .ok text =>
    host.print text
    match invocation.output with
    | none => return 0
    | some path =>
      if ← host.write path text.toUTF8 then
        return 0
      else
        host.printError ("Error: " ++ (RunError.output path).message ++ "\n")
        return 1

end Invocation

def runCommandLine [Monad m] (host : Host m) (environment : Option String) (args : List String) :
    m Nat := do
  match Invocation.parse environment args with
  | .error stop =>
    host.print stop.text
    if stop = .usage then
      host.printError "Usage: segment-filter [OPTIONS] <COMMAND>\n"
    return stop.exitCode
  | .ok invocation => invocation.run host

end ReportSegments
