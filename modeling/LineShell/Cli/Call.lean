import LineShell.Cli.Page
import LineShell.Datum.Basic

/-!
The calls of the program: its options, its commands with theirs, and what a call with some words
asks for. A call that only wants to be told something, or that is wrong, ends with a text.
-/

namespace LineShell.Cli

def programName : String := "linecmd"

def version : String := "0.1.0"

inductive EarlyEnd
  | told (text : String)
  | misused (complaint : String)
  deriving DecidableEq, Repr

inductive ProgramOption
  | version
  | jsonOutput
  | quiet
  | verbose
  | logJson
  | config (path : String)
  | help
  deriving DecidableEq, Repr

inductive Subcommand
  | list
  | run
  | shell
  | types
  deriving DecidableEq, Repr

inductive CommandOption
  | stopOnError
  | examples
  | help
  deriving DecidableEq, Repr

inductive Task
  | list
  | types
  | run (line : String)
  | shell (stopOnError : Bool)
  deriving DecidableEq, Repr

structure Call where
  options : List ProgramOption
  command : Option (Subcommand × List String)

namespace Subcommand

def all : List Subcommand := [list, run, shell, types]

def name : Subcommand → String
  | list => "list"
  | run => "run"
  | shell => "shell"
  | types => "types"

def summary : Subcommand → String
  | list => "List registered commands with their usage."
  | run => "Execute LINE (arguments are joined with single spaces)."
  | shell => "Execute lines from stdin until EOF or an exit word."
  | types => "List registered parameter types."

def ofName? (name : String) : Option Subcommand :=
  all.find? fun c => c.name = name

def path (c : Subcommand) : String :=
  programName ++ " " ++ c.name

def examples : Subcommand → List String
  | list => ["linecmd list", "linecmd -v list", "linecmd --json list"]
  | run =>
    ["linecmd run 'add 3 4'", "linecmd run 'echo \"hello world\" again'",
      "linecmd run 'upper \x7becho nested call\x7d'",
      "linecmd --json run 'mul 2.5 \x7badd 1 1\x7d'"]
  | shell =>
    ["linecmd shell", "printf 'add 1 2\\necho \x7badd 3 4\x7d\\n' | linecmd shell",
      "linecmd --json shell --stop-on-error < script.txt"]
  | types => ["linecmd types", "linecmd -q types"]

def examplesText (c : Subcommand) : String :=
  "\n".intercalate (("Examples for '" ++ c.path ++ "':") :: "" :: c.examples.map ("  " ++ ·))

def operand? : Subcommand → Option String
  | run => some "LINE..."
  | _ => none

def grammar (c : Subcommand) : Grammar CommandOption where
  options :=
    (if c = shell then
      [⟨["--stop-on-error"], .flag .stopOnError, "Exit with code 1 at the first failing line."⟩]
     else [])
      ++ [⟨["--examples"], .flag .examples, "Show usage examples."⟩,
        ⟨["--help"], .flag .help, "Show this message and exit."⟩]
  interspersed := true
  lenient := c = run

def page (c : Subcommand) : Page where
  path := c.path
  operands := c.operand?.toList
  summary := c.summary
  options := c.grammar.options.map Opt.entry
  commands := []

def told? (c : Subcommand) : CommandOption → Option String
  | .examples => some c.examplesText
  | .help => some c.page.text
  | .stopOnError => none

def task (c : Subcommand) (words : List String) : Except EarlyEnd Task := do
  let misused {α : Type} (fault : UsageFault) : Except EarlyEnd α :=
    .error (.misused (c.page.complaint fault))
  match c.grammar.read words with
  | .error fault => misused fault
  | .ok w =>
    if let some text := w.options.findSome? c.told? then throw (.told text)
    match c, w.operands with
    | run, [] => misused (.missingOperand "LINE...")
    | run, operands => pure (.run (" ".intercalate operands))
    | list, [] => pure .list
    | types, [] => pure .types
    | shell, [] => pure (.shell (w.options.contains .stopOnError))
    | _, operands => misused (.extraOperands operands)

end Subcommand

namespace Call

def grammar : Grammar ProgramOption where
  options :=
    [⟨["--version"], .flag .version, "Show the version and exit."⟩,
      ⟨["--json"], .flag .jsonOutput, "Structured JSON output."⟩,
      ⟨["-q", "--quiet"], .flag .quiet, "Minimal output."⟩,
      ⟨["-v", "--verbose"], .flag .verbose, "Detailed output with telemetry."⟩,
      ⟨["--log-json"], .flag .logJson, "Structured JSON log output to stderr."⟩,
      ⟨["-c", "--config"], .withValue "TEXT" .config, "Override config file path."⟩,
      ⟨["--help"], .flag .help, "Show this message and exit."⟩]
  interspersed := false
  lenient := false

def page : Page where
  path := programName
  operands := ["[COMMAND]", "[ARGS]..."]
  summary := "linecmd — single-line command interpreter."
  options := grammar.options.map Opt.entry
  commands := Subcommand.all.map fun c => (c.name, c.summary)

def told? : ProgramOption → Option String
  | .version => some (programName ++ ", version " ++ version)
  | .help => some page.text
  | _ => none

def misused {α : Type} (fault : UsageFault) : Except EarlyEnd α :=
  .error (.misused (page.complaint fault))

def readOptions (words : List String) : Except EarlyEnd (Words ProgramOption) :=
  match grammar.read words with
  | .error fault => misused fault
  | .ok w =>
    match w.options.findSome? told? with
    | some text => .error (.told text)
    | none => .ok w

def read (words : List String) : Except EarlyEnd Call := do
  let w ← readOptions words
  match w.operands with
  | [] => pure ⟨w.options, none⟩
  | name :: rest =>
    match Subcommand.ofName? name with
    | some c => pure ⟨w.options, some (c, rest)⟩
    | none =>
      let _ ← readOptions (name :: rest)
      misused (.unknownCommand name (Text.closeWords name (Subcommand.all.map (·.name))))

def flags (c : Call) : Entries Datum :=
  c.options.foldl (fun es o =>
    match o with
    | .jsonOutput => es.set "json_output" (.bool true)
    | .quiet => es.set "quiet" (.bool true)
    | .verbose => es.set "verbose" (.bool true)
    | .logJson => es.set "log_json" (.bool true)
    | .version | .help | .config _ => es) []

def config? (c : Call) : Option String :=
  c.options.foldl (fun last o =>
    match o with
    | .config path => some path
    | _ => last) none

end Call

end LineShell.Cli
