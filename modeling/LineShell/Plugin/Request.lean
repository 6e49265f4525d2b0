import LineShell.Plugin.Local

namespace LineShell

abbrev Installed := List (String × Except Exception Plugin)

namespace PluginManager

def loadInstalled : Installed → PluginManager → PluginManager × Option Exception
  | [], m => (m, none)
  | (name, loaded) :: rest, m =>
    if m.entries.has name || m.isBlocked name then loadInstalled rest m
    else
      match loaded with
      | .ok p => loadInstalled rest { m with entries := m.entries ++ [(name, p)] }
      | .error f => (m, some f)

def discoverAmong (installed : Installed) (files : FileTree) (dir : Option Path)
    (m : PluginManager) : Logged (PluginManager × Bool) := do
  let (m, failure) := loadInstalled installed m
  if failure.isSome then pure (m, false)
  else
    let (m, fault) ← discover files dir m
    pure (m, fault.isNone)

inductive Request
  | register (p : Plugin) (name : Option String)
  | unregister (p : Plugin)
  | block (name : String)
  | discover (installed : Installed) (files : FileTree) (dir : Option Path)

def serve (m : PluginManager) : Request → PluginManager
  | .register p name =>
    match m.register p name with
    | .ok (_, m) => m
    | .error _ => m
  | .unregister p =>
    match m.unregister p with
    | .ok m => m
    | .error _ => m
  | .block name => m.block name
  | .discover installed files dir => (m.discoverAmong installed files dir []).1.1

end PluginManager

end LineShell
