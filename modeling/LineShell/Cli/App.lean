import LineShell.Interpreter
import LineShell.Render
import LineShell.Settings.Sources
import LineShell.Text.Escape

namespace LineShell.Cli

structure Surroundings where
  files : FileTree
  environment : Environment
  time : Nat → Float
  interactive : Bool

inductive Written
  | output (text : String)
  | trouble (text : String)
  deriving DecidableEq, Repr

structure App where
  settings : Settings
  files : FileTree
  time : Nat → Float
  interactive : Bool
  interpreter : Option Interpreter
  written : List Written
  log : List String

def outputForm (s : Settings) : OutputSettings :=
  ⟨s.jsonOutput, s.quiet, s.verbose⟩

/-- A step of a call. It fails where a line has no outcome, or an outcome cannot be rendered. -/
abbrev Step := ExceptT Failure (StateM App)

namespace App

def start (s : Surroundings) (settings : Settings) : App :=
  ⟨settings, s.files, s.time, s.interactive, none, [], []⟩

def liftExcept {α : Type} : Except Failure α → Step α
  | .ok a => pure a
  | .error f => throw f

def write (w : Written) : Step Unit :=
  modify fun a => { a with written := a.written ++ [w] }

def say (text : String) : Step Unit :=
  write (.output (Text.dropEscapes (text ++ "\n")))

def warn (text : String) : Step Unit :=
  write (.trouble (Text.dropEscapes (text ++ "\n")))

def obtainInterpreter : Step Interpreter := do
  let a ← get
  match a.interpreter with
  | some i => return i
  | none =>
    let (i, log) := Interpreter.build (some a.settings) none a.files a.log
    let i := (i.setClock a.time).setTelemetry a.settings.verbose
    set { a with interpreter := some i, log }
    return i

def render (o : Outcome) : Step Bool := do
  let form := outputForm (← get).settings
  let text ← liftExcept (o.format form)
  if o.ok then
    say text
    unless form.jsonOutput do
      for w in o.warnings do warn ("WARNING: " ++ w)
  else warn text
  return o.ok

def present (tell : Interpreter → Outcome) : Step Bool := do
  render (tell (← obtainInterpreter))

def execute (line : String) : Step Bool := do
  let (result, i) := (← obtainInterpreter).execute line
  modify fun a => { a with interpreter := some i }
  render (← liftExcept result)

end App

end LineShell.Cli
