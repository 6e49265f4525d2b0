import LineShell.Cli.Call
import LineShell.Cli.Shell

/-!
A whole call of the program: its words are read, the settings are loaded, and the task is carried
out. The result is all that can be seen of the call from outside.
-/

namespace LineShell.Cli

inductive Fault
  | settings (failure : SettingsFailure)
  | raised (e : Exception)

structure Report where
  exitCode : Nat
  written : List Written
  fault : Option Fault
  log : List String

namespace Report

def output (r : Report) : String :=
  String.join (r.written.map fun
    | .output text => text
    | .trouble _ => "")

def trouble (r : Report) : String :=
  String.join (r.written.map fun
    | .output _ => ""
    | .trouble text => text)

def early : EarlyEnd → Report
  | .told text => ⟨0, [.output (Text.dropEscapes (text ++ "\n"))], none, []⟩
  | .misused complaint => ⟨2, [.trouble (Text.dropEscapes (complaint ++ "\n"))], none, []⟩

def unsettled (f : SettingsFailure) : Report :=
  match f with
  | .badFile .. =>
    ⟨1, [.trouble (Text.dropEscapes ("Error: " ++ f.message ++ "\n"))], none, []⟩
  | f => ⟨1, [], some (.settings f), []⟩

def done (outcome : Except Failure Nat × App) : Report :=
  match outcome with
  | (.ok code, a) => ⟨code, a.written, none, a.log⟩
  | (.error (.exit code), a) => ⟨code, a.written, none, a.log⟩
  | (.error (.exception e), a) => ⟨1, a.written, some (.raised e), a.log⟩

end Report

inductive Progress
  | ended (r : Report)
  | looping (app : App) (stopOnError : Bool)

def carryOut (app : App) (step : Step Bool) : Report :=
  .done (((fun ok => if ok then 0 else 1) <$> step).run.run app)

def begin (app : App) : Task → Progress
  | .shell stopOnError => .looping app stopOnError
  | .run line => .ended (carryOut app (App.execute line))
  | .list => .ended (carryOut app (App.present Interpreter.listCommands))
  | .types => .ended (carryOut app (App.present Interpreter.listTypes))

/-- Starts a call with some words. The settings are loaded before the words of the command are
read; a call without a command is told how to call the program. -/
def start (s : Surroundings) (words : List String) : Progress :=
  match Call.read words with
  | .error e => .ended (.early e)
  | .ok call =>
    match Settings.load s.files s.environment call.config? none call.flags with
    | .error f => .ended (.unsettled f)
    | .ok settings =>
      match call.command with
      | none => .ended (.early (.told Call.page.text))
      | some (c, rest) =>
        match c.task rest with
        | .error e => .ended (.early e)
        | .ok task => begin (App.start s settings) task

def run (s : Surroundings) (words : List String) (input : String) : Report :=
  match start s words with
  | .ended r => r
  | .looping app stopOnError =>
    .done ((Shell.loop stopOnError 0 (Shell.lines input)).run.run app)

end LineShell.Cli
