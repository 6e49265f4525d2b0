import LineShell.FileTree
import LineShell.Plugin.Manager

namespace LineShell.PluginManager

def localNameStart : String := "linecmd_local_plugin_"

def localName (file : String) : String :=
  localNameStart ++ Path.stemOf file

def isLocalPlugin (file : String) : Bool :=
  file.endsWith ".py" && !file.startsWith "_"

def registerLocal (file : Path) (c : Plugin) (m : PluginManager) : Logged PluginManager := do
  let failed : Logged PluginManager := do
    Logged.warn ("Failed to instantiate plugin class " ++ c.className ++ " from " ++ file.toText)
    pure m
  match c.instantiate with
  | .error _ => failed
  | .ok p =>
    match m.register p (some (localName file.name)) with
    | .ok (_, m) => pure m
    | .error _ => failed

def registerLocals (file : Path) : List Plugin → PluginManager → Logged PluginManager
  | [], m => pure m
  | c :: rest, m => do registerLocals file rest (← registerLocal file c m)

def localClasses (classes : List ProgramClass) : List Plugin :=
  ((classes.mergeSort fun a b => !(b.plugin.className < a.plugin.className)).filter
    fun c => c.isOwn && c.plugin.hasHooks).map (·.plugin)

def loadFile (files : FileTree) (file : Path) (m : PluginManager) : Logged PluginManager :=
  match files.program? file with
  | some classes => registerLocals file (localClasses classes) m
  | none => do
    Logged.warn ("Failed to load local plugin " ++ file.toText)
    pure m

def loadFiles (files : FileTree) : List Path → PluginManager → Logged PluginManager
  | [], m => pure m
  | file :: rest, m => do loadFiles files rest (← loadFile files file m)

def discoverLocal (files : FileTree) (dir : Path) (m : PluginManager) : Logged PluginManager :=
  let names := (files.children dir).filter isLocalPlugin
  let sorted := names.mergeSort fun a b => !(b < a)
  loadFiles files (sorted.map dir.child) m

def instantiateClasses : List (String × Plugin) → PluginManager → Logged PluginManager
  | [], m => pure m
  | (name, p) :: rest, m => do
    if p.isClass && p.hasHooks then
      let m := { m with entries := m.entries.erase name }
      match p.instantiate with
      | .ok q => instantiateClasses rest { m with entries := m.entries ++ [(name, q)] }
      | .error _ => do
        Logged.warn ("Failed to instantiate entry-point plugin " ++ name)
        instantiateClasses rest m
    else instantiateClasses rest m

/-- Converts registered classes, then loads the plugins of a directory if one is given and there.
Discovery breaks off at a directory that cannot be looked for. -/
def discover (files : FileTree) (dir : Option Path) (m : PluginManager) :
    Logged (PluginManager × Option PathFault) := do
  let m ← instantiateClasses m.entries m
  match dir.map fun d => (d, files.isDirectory d) with
  | some (_, .error fault) => pure (m, some fault)
  | some (d, .ok true) => do
    let m ← discoverLocal files d m
    pure ({ m with isLoaded := true }, none)
  | some (_, .ok false) | none => pure ({ m with isLoaded := true }, none)

end LineShell.PluginManager
