import LineShell.Plugin.Basic

/-!
The registered plugins. Names are unique; a blocked name never has a plugin. Types and commands are
collected in the order of registration, observers are called in the opposite order.
-/

namespace LineShell

structure PluginManager where
  entries : Entries Plugin
  blocked : List String
  isLoaded : Bool

inductive PluginFault
  | nameTaken
  | notRegistered
  deriving DecidableEq, Repr

def PluginFault.failure : PluginFault → Exception
  | .nameTaken => .raised "ValueError" "Plugin name already registered"
  | .notRegistered => .raised "AssertionError" "plugin is not registered"

namespace PluginManager

def empty (blocked : List String) : PluginManager :=
  ⟨[], blocked, false⟩

def names (m : PluginManager) : List String :=
  m.entries.keys

def count (m : PluginManager) : Nat :=
  m.entries.length

def isBlocked (m : PluginManager) (name : String) : Bool :=
  m.blocked.contains name

def resolveName (p : Plugin) (name : Option String) : String :=
  match name with
  | some "" | none => if p.isClass then "type" else p.className
  | some name => name

/-- Registers a plugin at the end, and tells whether it did: a blocked name has none. -/
def register (m : PluginManager) (p : Plugin) (name : Option String) :
    Except PluginFault (Bool × PluginManager) :=
  let name := resolveName p name
  if m.isBlocked name then .ok (false, m)
  else if m.entries.has name then .error .nameTaken
  else .ok (true, { m with entries := m.entries ++ [(name, p)] })

def block (m : PluginManager) (name : String) : PluginManager :=
  { m with
    entries := m.entries.erase name
    blocked := if m.isBlocked name then m.blocked else m.blocked ++ [name] }

def unregister (m : PluginManager) (p : Plugin) : Except PluginFault PluginManager :=
  match m.entries.find? fun e => e.2.same p with
  | some (name, _) => .ok { m with entries := m.entries.erase name }
  | none => .error .notRegistered

def typeOffers? (p : Plugin) : Option TypeOffers :=
  p.typesHook.map fun offers =>
    if p.isClass then .raises (p.unbound "register_parameter_types" "self")
    else offers

def addOffers (plugin : String) :
    List (String × Option Parser) → TypeTable → Logged (List String × TypeTable)
  | [], types => pure ([], types)
  | (name, offer) :: rest, types =>
    match types.register name offer with
    | .ok (added, types) => do
      let (names, types) ← addOffers plugin rest types
      pure (if added then name :: names else names, types)
    | .error _ => do
      Logged.warn ("Skipping parameter type " ++ Text.quoted name ++ " from plugin " ++ plugin)
      addOffers plugin rest types

def collectTypes : Entries Plugin → TypeTable → Logged (List String × TypeTable)
  | [], types => pure ([], types)
  | (name, p) :: rest, types => do
    let (added, types) ←
      match typeOffers? p with
      | none | some .nothing => pure ([], types)
      | some (.raises _) => do
        Logged.warn ("Failed to collect parameter types from plugin " ++ name)
        pure ([], types)
      | some .malformed => do
        Logged.warn ("Plugin " ++ name ++ " returned non-dict parameter type registrations")
        pure ([], types)
      | some (.offers offers) => addOffers name offers types
    let (more, types) ← collectTypes rest types
    pure (added ++ more, types)

def loadTypes (m : PluginManager) (types : TypeTable) : Logged (List String × TypeTable) :=
  collectTypes m.entries types

def declare : List (Except Exception (Definition Script)) → Registry → Bool × Registry
  | [], r => (true, r)
  | .error _ :: _, r => (false, r)
  | .ok d :: rest, r =>
    match r.create d with
    | .ok (_, r) => declare rest r
    | .error _ => (false, r)

def collectCommands : Entries Plugin → Registry → Logged Registry
  | [], r => pure r
  | (name, p) :: rest, r =>
    match p.commandsHook with
    | none => collectCommands rest r
    | some declarations => do
      let (complete, r) := if p.isClass then (false, r) else declare declarations r
      unless complete do Logged.warn ("Failed to register commands from plugin " ++ name)
      collectCommands rest r

def loadCommands (m : PluginManager) (r : Registry) : Logged (List String × Registry) := do
  let loaded ← collectCommands m.entries r
  pure (loaded.names.filter fun n => !r.contains n, loaded)

def observers (m : PluginManager) : List (String × Plugin) :=
  m.entries.reverse.filter fun e => e.2.observer.isSome

def tell (line : String) (ok : Bool) (output : Option String) :
    List (String × Plugin) → StateM Session (Option Failure)
  | [] => pure none
  | (name, p) :: rest =>
    match p.isClass, p.observer with
    | true, _ => pure (some (.exception (p.unbound "post_execute" "output")))
    | false, none => tell line ok output rest
    | false, some observer => do
      let seen := observer line ok output
      modify (·.record (.observed name line ok output))
      for d in seen.notes do modify (·.record (.noted "observed" d))
      match seen.failure with
      | some f => pure (some f)
      | none => tell line ok output rest

def notify (m : PluginManager) (line : String) (ok : Bool) (output : Option String) :
    StateM Session (Option Failure) :=
  tell line ok output m.observers

end PluginManager

end LineShell
