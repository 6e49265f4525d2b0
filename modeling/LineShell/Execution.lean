import LineShell.Registry
import LineShell.Scan
import LineShell.Span

/-!
Running lines. A line is dispatched to the command it names; its groups are executed as lines of
their own, the tokens are bound, and the action's script is run. What has happened so far stays
when a step fails.

A run has a budget: the number of executed lines that may be under way at once.
-/

namespace LineShell

open LineShell.Text

inductive Event
  | noted (label : String) (content : Datum)
  | asked (text : String)
  | acted (command : String) (parameters : BoundParameters)
  | consulted (command : String) (error : ParameterError)
  | observed (plugin line : String) (ok : Bool) (output : Option String)

/-- The state that lines are run in. The journal has the latest event first. -/
structure Session where
  registry : Registry
  defaults : TypeTable
  telemetry : Telemetry
  journal : List Event

namespace Session

def start (registry : Registry) : Session :=
  ⟨registry, .builtin, .off, []⟩

def record (s : Session) (e : Event) : Session :=
  { s with journal := e :: s.journal }

/-- The types of a command's parameters, as they are registered by now. -/
def typesOf (s : Session) (c : Command) : TypeTable :=
  match c.types with
  | .default => s.defaults
  | .registry => s.registry.types
  | .own types => types

end Session

abbrev Run := ExceptT Failure (StateM Session)

namespace Run

def refuse {α : Type} (e : CommandError) : Run α :=
  throw (.command e)

def ofExcept {α : Type} : Except CommandError α → Run α
  | .ok a => pure a
  | .error e => refuse e

def record (e : Event) : Run Unit :=
  modify (·.record e)

def registry : Run Registry := do
  return (← get).registry

def setRegistry (r : Registry) : Run Unit :=
  modify fun s => { s with registry := r }

def create (d : Definition Script) : Run Command := do
  let (c, r) ← ofExcept ((← registry).create d)
  setRegistry r
  return c

def declare (d : Definition Script) : Run Unit := do
  let _ ← create d

def remove (name : String) : Run Unit := do
  setRegistry (← ofExcept ((← registry).remove name))

def typesOf (c : Command) : Run TypeTable := do
  return (← get).typesOf c

def handled {α : Type} : Except Failure α → Except Failure (Except Exception α)
  | .ok a => .ok (.ok a)
  | .error (.exception e) => .ok (.error e)
  | .error (.exit code) => .error (.exit code)

/-- Turns an exception into a result. What was done before it stays done. -/
def caught {α : Type} (x : Run α) : Run (Except Exception α) :=
  fun s =>
    let (outcome, s) := x s
    (handled outcome, s)

def inSpan {α : Type} (name : String) (annotations : List (String × Datum)) (body : Run α) :
    Run α :=
  fun s =>
    match s.telemetry.enter? name with
    | none => body s
    | some t =>
      let t := annotations.foldl (fun t a => t.annotate a.1 a.2) t
      let (outcome, s) := body { s with telemetry := t }
      (outcome, { s with telemetry := s.telemetry.leave })

end Run

def Script.run (call : String → Run String) : Script → Run String
  | .done result => pure result
  | .fail f => throw f
  | .execute line rest => do (rest (← call line)).run call
  | .attempt line rest => do (rest (← Run.caught (call line))).run call
  | .create d rest => do (rest (← Run.caught (Run.declare d))).run call
  | .remove name rest => do (rest (← Run.caught (Run.remove name))).run call
  | .survey rest => do
    let r ← Run.registry
    (rest (r.commands.map fun e => e.2.signature)).run call
  | .note label content rest => do
    Run.record (.noted label content)
    rest.run call

namespace Command

def literal (text : String) : String :=
  "\x7b" ++ text ++ "\x7d"

def resolveNested (call : String → Run String) (c : Command) (text : String) : Run String := do
  match c.delegate with
  | .none => return literal text
  | .registry => orLiteral (call text)
  | .outside resolve => orLiteral do
    Run.record (.asked text)
    (resolve text).run call
where
  orLiteral (answer : Run String) : Run String :=
    fun s =>
      match answer s with
      | (.error (.command (.notFound _)), s) => (.ok (literal text), s)
      | outcome => outcome

/-- Runs a line that names this command: scans the parameter text, binds the tokens with the types
of the command as they are by then, and runs the action. -/
def run (call : String → Run String) (c : Command) (line : String) : Run String := do
  if isBlankText line then Run.refuse .emptyLine
  unless c.answersTo line do Run.refuse (.wrongName c.name (leadingWord line))
  let rawLine := parameterText line
  match ← scan c.maxDepth (c.resolveNested call) rawLine with
  | .error reached => Run.refuse (.nestingLimit reached.limit)
  | .ok tokens =>
    match bind (← Run.typesOf c) c.parameters tokens rawLine with
    | .error e =>
      Run.record (.consulted c.name e)
      (c.onParameterError e).run call
    | .ok parameters =>
      Run.record (.acted c.name parameters)
      (c.action parameters).run call

end Command

/-- Executes a line with a budget of lines under way at once, inside a span of its own. The command
that runs is a copy of the one that is registered when the line is dispatched. -/
def execute (budget : Nat) (line : String) : Run String := do
  let c ← Run.ofExcept ((← Run.registry).dispatch line)
  match budget with
  | 0 => throw .tooDeep
  | n + 1 =>
    Run.inSpan ("execute:" ++ leadingWord line) [("line", .string line)]
      (c.clone.run (execute n) line)

def defaultBudget : Nat := 325

end LineShell
