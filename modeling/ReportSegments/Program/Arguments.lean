import ReportSegments.Program.Settings
import ReportSegments.Text.Pieces

/-!
This module contains the reading of the command line: common settings, the name of a command, and
the settings of the command. They are taken from left to right, and the first one that cannot be
taken, or that only asks for information, ends the reading.
-/

namespace ReportSegments

inductive Stop where
  | usage
  | help
  | version
deriving DecidableEq, Repr

namespace Stop

def exitCode : Stop → Nat
  | usage => 2
  | help | version => 0

def text : Stop → String
  | usage => ""
  | help =>
    "Derive segment expressions for report rows and explain existing ones\n\n" ++
      "Usage: segment-filter [OPTIONS] <COMMAND>\n\n" ++
      "Commands:\n" ++
      "  annotate    Run the configured passes over a report and show the derived filters\n" ++
      "  recompose   Rebuild the full label of a nested row\n" ++
      "  describe    Explain a segment expression\n" ++
      "  row-action  Build the visitor log row action for a label\n"
  | version => "segment-filter 0.1.0\n"

end Stop

structure Reading where
  /-- The command that has been named. -/
  command : Option CommandName := none
  /-- The settings in front of the command. -/
  outer : Settings := {}
  /-- The settings that are being read. -/
  current : Settings := {}
  /-- A setting that waits for its value. -/
  waiting : Option Setting := none
deriving DecidableEq, Repr

namespace Reading

def takeSwitch (reading : Reading) (switch : Switch) : Except Stop Reading :=
  if switch.isAllowed reading.command then
    match switch with
    | .verbose => .ok reading
    | .quiet =>
      if reading.current.quiet then
        .error .usage
      else
        .ok { reading with current := { reading.current with quiet := true } }
    | .help => .error .help
    | .version => .error .version
  else
    .error .usage

def takeValue (reading : Reading) (setting : Setting) (value : String) : Except Stop Reading :=
  match reading.current.set? setting value with
  | some current => .ok { reading with current, waiting := none }
  | none => .error .usage

def takeSetting (reading : Reading) (setting : Setting) : Except Stop Reading :=
  .ok { reading with waiting := some setting }

/--
The setting that is written like this, if it is allowed here.
-/
def allowed? (reading : Reading) (setting : Option Setting) : Option Setting :=
  setting.filter (Setting.isAllowed reading.command)

/--
Takes a long argument, behind its two dashes: a name, or a name and a value with `=` between them.
-/
def takeLong (reading : Reading) (cs : List Char) : Except Stop Reading :=
  match Text.cutFirst? ['='] cs with
  | some (name, value) =>
    match reading.allowed? (Setting.ofLong? (String.ofList name)) with
    | some setting => reading.takeValue setting (String.ofList value)
    | none => .error .usage
  | none =>
    match reading.allowed? (Setting.ofLong? (String.ofList cs)),
      Switch.ofLong? (String.ofList cs) with
    | some setting, _ => reading.takeSetting setting
    | none, some switch => reading.takeSwitch switch
    | none, none => .error .usage

/--
Takes a short argument, behind its dash: switches and then possibly a setting. What follows the
setting is its value, with or without `=`.
-/
def takeShort (reading : Reading) : List Char → Except Stop Reading
  | [] => .ok reading
  | c :: cs =>
    match reading.allowed? (Setting.ofShort? c), Switch.ofShort? c with
    | some setting, _ =>
      match cs with
      | [] => reading.takeSetting setting
      | '=' :: value => reading.takeValue setting (String.ofList value)
      | value => reading.takeValue setting (String.ofList value)
    | none, some switch => do (← reading.takeSwitch switch).takeShort cs
    | none, none => .error .usage

def takeCommand (reading : Reading) (name : String) : Except Stop Reading :=
  match reading.command, CommandName.ofText? name with
  | none, some command =>
    .ok { command := some command, outer := reading.current }
  | _, _ => .error .usage

/--
Asks for help: on all commands, or on one of them.
-/
def takeHelp : List String → Stop
  | [] => .help
  | [name] => if name = "help" || (CommandName.ofText? name).isSome then .help else .usage
  | _ => .usage

/--
Takes all arguments. Behind `--` there could only be plain arguments, of which there are none.
-/
def take (reading : Reading) : List String → Except Stop Reading
  | [] => if reading.waiting.isSome then .error .usage else .ok reading
  | arg :: args =>
    match reading.waiting, arg.toList with
    | some _, '-' :: _ :: _ => .error .usage
    | some setting, _ => do (← reading.takeValue setting arg).take args
    | none, ['-', '-'] => if args.isEmpty then .ok reading else .error .usage
    | none, '-' :: '-' :: cs => do (← reading.takeLong cs).take args
    | none, '-' :: c :: cs => do (← reading.takeShort (c :: cs)).take args
    | none, _ =>
      if reading.command.isNone && arg = "help" then
        .error (takeHelp args)
      else do
        (← reading.takeCommand arg).take args

end Reading

/--
Reads a command line, where the environment may hold the path of a configuration.
-/
def Invocation.parse (environment : Option String) (args : List String) :
    Except Stop Invocation := do
  let reading ← Reading.take {} args
  match reading.command.bind fun name =>
    Settings.invocation? environment reading.outer name reading.current with
  | some invocation => return invocation
  | none => throw .usage

end ReportSegments
