import LineShell.Cli.Program

namespace LineShell.Main

open LineShell.Cli

def readEntry (cwd path : Path) : IO (Option (Path × FileEntry)) := do
  let full := cwd.resolve path
  try return some (full, .text (← IO.FS.readFile full.toText))
  catch _ => return none

def entries (cwd : Path) (paths : List Path) : IO (List (Path × FileEntry)) :=
  paths.filterMapM (readEntry cwd)

def inside (dir : Path) : IO (List Path) := do
  try
    let here ← IO.currentDir
    let found ← (here / dir.toText).readDir
    return found.toList.map fun e => dir.child e.fileName
  catch _ => return []

def environment : IO Environment :=
  Settings.variableNames.filterMapM fun name => do
    return (← IO.getEnv name).map fun value => (name, value)

def settingsFiles (cwd : Path) (env : Environment) (call : Option Call) : List Path :=
  let named := (call.bind Call.config?).toList ++ (Entries.get? env Settings.fileVariable).toList
  named.map Path.ofString ++ cwd.selfAndParents.map fun d => d.child Settings.fileName

def surroundings (words : List String) : IO Surroundings := do
  let cwd := Path.ofString (← IO.currentDir).toString
  let env ← environment
  let call := (Call.read words).toOption
  let files : FileTree := ⟨cwd, ← entries cwd (settingsFiles cwd env call)⟩
  let settings := call.bind fun c =>
    (Settings.load files env c.config? none c.flags).toOption
  let plugins ←
    match settings with
    | some s => inside s.localPluginDir
    | none => pure []
  let files := { files with entries := files.entries ++ (← entries cwd plugins) }
  return ⟨files, env, fun _ => 0, ← (← IO.getStdin).isTty⟩

def deliver (texts : List Written) : IO Unit := do
  for w in texts do
    match w with
    | .output text =>
      IO.print text
      (← IO.getStdout).flush
    | .trouble text => IO.eprint text

def faultText : Fault → String
  | .settings f => f.message
  | .raised e => e.message

def conclude (r : Report) : IO UInt32 := do
  for line in r.log do IO.eprintln line
  deliver r.written
  if let some f := r.fault then IO.eprintln (faultText f)
  return r.exitCode.toUInt32

def deliverSoFar (app : App) : IO App := do
  for line in app.log do IO.eprintln line
  deliver app.written
  return { app with written := [], log := [] }

def nextLine : List String → IO (Option String × List String)
  | line :: rest => return (some line, rest)
  | [] => do
    match Shell.lines (← (← IO.getStdin).getLine) with
    | line :: rest => return (some line, rest)
    | [] => return (none, [])

partial def converse (stopOnError : Bool) (failures : Nat) (ahead : List String) (app : App) :
    IO UInt32 := do
  let (_, app) := Shell.prompt.run.run app
  let app ← deliverSoFar app
  let (line, ahead) ← nextLine ahead
  match (Shell.turn stopOnError failures line).run.run app with
  | (.ok (.next failures), app) => converse stopOnError failures ahead (← deliverSoFar app)
  | (.ok (.ended code), app) => conclude (.done (.ok code, app))
  | (.error f, app) => conclude (.done (.error f, app))

end LineShell.Main

open LineShell.Cli in
def main (words : List String) : IO UInt32 := do
  match start (← LineShell.Main.surroundings words) words with
  | .ended r => LineShell.Main.conclude r
  | .looping app stopOnError => LineShell.Main.converse stopOnError 0 [] app
