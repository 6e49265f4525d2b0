import LineShell.Outcome
import LineShell.Plugin.Core
import LineShell.Plugin.Request
import LineShell.Settings.Model

/-!
The interpreter: a registry with its plugins. Every operation gives an outcome; exceptions of
commands, actions and observers do not leave it.
-/

namespace LineShell

structure Interpreter where
  session : Session
  plugins : PluginManager
  budget : Nat

/-- Runs a computation inside a root span of its own while telemetry is on, and hands the span to
its result. The spans that were open before are open again afterwards, unless the program is to
end: then the root span stays open. -/
def traced {α : Type} (name : String) (attach : Datum → α → α) (body : Run α) : Run α :=
  fun s =>
    if s.telemetry.enabled then
      let before := s.telemetry.active
      match body { s with telemetry := s.telemetry.enterRoot name } with
      | (.error (.exit code), s) => (.error (.exit code), s)
      | (result, s) =>
        let (span, t) := s.telemetry.leaveRoot before
        (result.map fun a => span.elim a fun span => attach (span.toDatum t.time) a,
          { s with telemetry := t })
    else body s

namespace Interpreter

/-- The interpreter of some settings where plugins are installed. The core plugin comes first unless
a plugin of its name is there; then plugins are discovered, and types and commands are loaded. -/
def buildAmong (installed : Installed) (settings : Option Settings) (plugins : Option PluginManager)
    (files : FileTree) : Logged Interpreter := do
  let disabled := settings.elim [] (·.plugins.disabled)
  let m :=
    match plugins with
    | none => PluginManager.empty disabled
    | some m => disabled.foldl PluginManager.block m
  let m :=
    match m.register CorePlugin.plugin (some CorePlugin.name) with
    | .ok (_, m) => m
    | .error _ => m
  let m ←
    match settings with
    | some s => if s.plugins.discover then discover s.localPluginDir m else pure m
    | none => pure m
  let config := settings.elim .default (·.interpreter)
  let (_, types) ← m.loadTypes .builtin
  let (_, r) ← m.loadCommands (.empty types config.maxDepth config.nested)
  pure ⟨.start r, m, defaultBudget⟩
where
  discover (dir : Path) (m : PluginManager) : Logged PluginManager := do
    let (m, complete) ← m.discoverAmong installed files (some dir)
    unless complete do Logged.warn "Plugin discovery failed"
    pure m

def build : Option Settings → Option PluginManager → FileTree → Logged Interpreter :=
  buildAmong []

def observerWarning : String := "post_execute hook failed"

def postExecute (plugins : PluginManager) (line : String) (ok : Bool) (output : Option String) :
    Run (List String) := do
  match ← plugins.notify line ok output with
  | none => return []
  | some (.exception _) => return [observerWarning]
  | some (.exit code) => throw (.exit code)

def outcomeOf (line : String) : Except Exception String → Except Exception Outcome
  | .ok output =>
    .ok (.success "execute" [("command", .string (leadingWord line)), ("line", .string line),
      ("output", .string output)])
  | .error e => (OutcomeError.ofException (leadingWord line) e).map (.failure "execute")

def perform (budget : Nat) (plugins : PluginManager) (line : String) : Run Outcome := do
  modify fun s =>
    { s with telemetry := s.telemetry.annotate "command" (.string (leadingWord line)) }
  let result ← Run.caught (LineShell.execute budget line)
  let warnings ← postExecute plugins line result.isOk result.toOption
  match outcomeOf line result with
  | .ok outcome => return { outcome with warnings }
  | .error e => throw (.exception e)

def execute (i : Interpreter) (line : String) : Except Failure Outcome × Interpreter :=
  let (result, session) :=
    traced "Interpreter.execute" (fun span o => o.withSpan span) (perform i.budget i.plugins line)
      i.session
  (result, { i with session })

def describe (s : Signature) : Datum :=
  .object [("name", .string s.name), ("description", .string s.description),
    ("usage", .string s.usage), ("parameters", .array (s.parameters.map ParameterSpec.toDatum))]

def listing (op : String) (items : List Datum) : Outcome :=
  .success op [("count", .nat items.length), ("items", .array items)]

def listCommands (i : Interpreter) : Outcome :=
  listing "list_commands" (i.session.registry.list.map fun c => describe c.signature)

def listTypes (i : Interpreter) : Outcome :=
  listing "list_types"
    (i.session.registry.types.names.map fun name => .object [("name", .string name)])

def setTelemetry (i : Interpreter) (on : Bool) : Interpreter :=
  { i with session := { i.session with telemetry := { i.session.telemetry with enabled := on } } }

def setClock (i : Interpreter) (time : Nat → Float) : Interpreter :=
  { i with session := { i.session with telemetry := { i.session.telemetry with time } } }

end Interpreter

end LineShell
