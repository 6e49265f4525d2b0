import LineShell.Command
import LineShell.Validation
import LineShell.Path

namespace LineShell

structure InterpreterConfig where
  maxDepth : Nat
  nested : Bool
  deriving DecidableEq, Repr

structure PluginsConfig where
  discover : Bool
  localDir : String
  disabled : List String
  deriving DecidableEq, Repr

structure ShellConfig where
  prompt : String
  exitWords : List String
  deriving DecidableEq, Repr

namespace InterpreterConfig

def default : InterpreterConfig := ⟨defaultMaxDepth, true⟩

def check : Datum → Checked InterpreterConfig :=
  Check.record "InterpreterConfig" fun es =>
    InterpreterConfig.mk <$> Check.optional es "max_depth" default.maxDepth Check.natural
      <*> Check.optional es "nested" default.nested Check.bool

def toDatum (c : InterpreterConfig) : Datum :=
  .object [("max_depth", .nat c.maxDepth), ("nested", .bool c.nested)]

end InterpreterConfig

namespace PluginsConfig

def default : PluginsConfig := ⟨true, ".linecmd/plugins", []⟩

def check : Datum → Checked PluginsConfig :=
  Check.record "PluginsConfig" fun es =>
    PluginsConfig.mk <$> Check.optional es "discover" default.discover Check.bool
      <*> Check.optional es "local_dir" default.localDir Check.string
      <*> Check.optional es "disabled" default.disabled (Check.list Check.string)

def toDatum (c : PluginsConfig) : Datum :=
  .object [("discover", .bool c.discover), ("local_dir", .string c.localDir),
    ("disabled", .strings c.disabled)]

end PluginsConfig

namespace ShellConfig

def default : ShellConfig := ⟨"> ", ["exit", "quit"]⟩

def check : Datum → Checked ShellConfig :=
  Check.record "ShellConfig" fun es =>
    ShellConfig.mk <$> Check.optional es "prompt" default.prompt Check.string
      <*> Check.optional es "exit_words" default.exitWords (Check.list Check.string)

def toDatum (c : ShellConfig) : Datum :=
  .object [("prompt", .string c.prompt), ("exit_words", .strings c.exitWords)]

end ShellConfig

structure Settings where
  projectRoot : Path
  configPath : Option Path
  jsonOutput : Bool
  quiet : Bool
  verbose : Bool
  logJson : Bool
  interpreter : InterpreterConfig
  plugins : PluginsConfig
  shell : ShellConfig
  deriving DecidableEq, Repr

namespace Settings

def recordName : String := "LinecmdSettings"

def keys : List String :=
  ["project_root", "config_path", "json_output", "quiet", "verbose", "log_json", "interpreter",
    "plugins", "shell"]

def checkPath : Datum → Checked Path
  | .string s => .valid (Path.ofString s)
  | _ => .issue .notPath

def unknownKeys (es : Entries Datum) : List Issue :=
  (es.keys.filter fun k => !keys.contains k).map fun k => ⟨[.key k], .unknownKey⟩

def check (d : Datum) : Checked Settings :=
  let es := d.entries
  let settings := Settings.mk
    <$> Check.required es "project_root" checkPath
    <*> Check.optional es "config_path" none (Check.nullable checkPath)
    <*> Check.optional es "json_output" false Check.bool
    <*> Check.optional es "quiet" false Check.bool
    <*> Check.optional es "verbose" false Check.bool
    <*> Check.optional es "log_json" false Check.bool
    <*> Check.optional es "interpreter" .default InterpreterConfig.check
    <*> Check.optional es "plugins" .default PluginsConfig.check
    <*> Check.optional es "shell" .default ShellConfig.check
  match unknownKeys es with
  | [] => settings
  | unknown => .invalid (settings.issues ++ unknown)

def localPluginDir (s : Settings) : Path :=
  s.projectRoot.append (Path.ofString s.plugins.localDir)

def toDatum (s : Settings) : Datum :=
  .object [("project_root", .string s.projectRoot.toText),
    ("config_path", .optionString (s.configPath.map Path.toText)),
    ("json_output", .bool s.jsonOutput), ("quiet", .bool s.quiet), ("verbose", .bool s.verbose),
    ("log_json", .bool s.logJson), ("interpreter", s.interpreter.toDatum),
    ("plugins", s.plugins.toDatum), ("shell", s.shell.toDatum)]

end Settings

end LineShell
