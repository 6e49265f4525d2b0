import LineShell.Datum.Reader
import LineShell.FileTree
import LineShell.Settings.Model
import LineShell.Toml.Document

/-!
Where settings come from: what the caller gives, environment variables, a settings file, and the
defaults, the earlier before the later. Sections are merged key by key, so that one source may set
one key of a section and leave the others to the next.
-/

namespace LineShell

abbrev Environment := List (String × String)

inductive SettingsFailure
  | badFile (path : Path) (reason : String)
  | longInteger (digits : Nat)
  | deepFile
  | badPath (fault : PathFault)
  | badVariable (field : String)
  | deepVariable (innermost : Datum.Container)
  | invalid (issues : List Issue)

def SettingsFailure.message : SettingsFailure → String
  | .badFile path reason => "Invalid TOML in " ++ path.toText ++ ": " ++ reason
  | .longInteger digits => Decimal.digitLimitReason digits
  | .deepFile => Toml.depthReason
  | .badPath fault => fault.message
  | .badVariable field =>
    "error parsing value for field \"" ++ field ++ "\" from source \"EnvSettingsSource\""
  | .deepVariable innermost =>
    Toml.depthReason ++ " while decoding a JSON " ++ innermost.name ++ " from a unicode string"
  | .invalid _ => "invalid settings"

namespace Settings

mutual

/-- Lays an object over another one: its values count, but where both have objects these are
merged. -/
def overlay (lower : Entries Datum) : List (String × Datum) → Entries Datum
  | [] => lower
  | (k, d) :: rest => overlay (lower.set k (overlayValue (lower.get? k) d)) rest

def overlayValue (lower : Option Datum) : Datum → Datum
  | .object es =>
    match lower with
    | some (.object low) => .object (overlay low es)
    | _ => .object es
  | d => d

end

def foldCase (s : String) : String :=
  String.ofList (s.toList.map Char.toLower)

def variableStart : String := "linecmd_"

def delimiter : List Char := ['_', '_']

def splitName (name : List Char) : List String :=
  go [] name
where
  go (part : List Char) : List Char → List String
    | '_' :: '_' :: rest => String.ofList part.reverse :: go [] rest
    | c :: rest => go (c :: part) rest
    | [] => [String.ofList part.reverse]

def setNested : List String → Datum → Entries Datum → Entries Datum
  | [], _, es => es
  | [k], d, es => es.set k d
  | k :: ks, d, es =>
    match es.get? k with
    | none => es.set k (.object (setNested ks d []))
    | some (.object inner) => es.set k (.object (setNested ks d inner))
    | some _ => es

def listKeys : List (String × String) :=
  [("plugins", "disabled"), ("shell", "exit_words")]

def sectionKeys : List (String × List String) :=
  [("interpreter", ["max_depth", "nested"]), ("plugins", ["discover", "local_dir", "disabled"]),
    ("shell", ["prompt", "exit_words"])]

def variableRoom : Nat := 980

def readVariable (part value : String) : Except SettingsFailure Datum :=
  match Datum.read variableRoom value with
  | .ok d => .ok d
  | .error .malformed => .error (.badVariable part)
  | .error (.noRoom innermost) => .error (.deepVariable innermost)

def isListKey (part key : String) : Bool :=
  listKeys.any fun (p, k) => p == part && (key == k || key == variableStart ++ k)

def variableValue (part : String) (keys : List String) (value : String) :
    Except SettingsFailure Datum :=
  match keys with
  | [k] =>
    if isListKey part k && !value.isEmpty then readVariable part value else .ok (.string value)
  | _ => .ok (.string value)

def fromKeys (part : String) (env : Environment) : Except SettingsFailure (Entries Datum) :=
  let start := (variableStart ++ part).toList ++ delimiter
  env.foldlM (fun es (name, value) =>
    if start.isPrefixOf name.toList then
      let keys := splitName (name.toList.drop start.length)
      (variableValue part keys value).map fun d => setNested keys d es
    else .ok es) []

def properCase (part : String) (es : Entries Datum) : Entries Datum :=
  let known := (sectionKeys.lookup part).getD []
  es.foldl (fun out e =>
    out.set ((known.find? fun k => k == foldCase e.1).getD e.1) e.2) []

def fromVariables? (part : String) (env : Environment) :
    Except SettingsFailure (Option Datum) := do
  match env.find? fun e => e.1 == variableStart ++ part with
  | none =>
    let single ← fromKeys part env
    return if single.isEmpty then none else some (.object (properCase part single))
  | some (_, value) =>
    match ← readVariable part value with
    | .object es =>
      let single ← fromKeys part env
      return some (.object (properCase part (overlay es single)))
    | .null => return none
    | d => return some d

def normalize (env : Environment) : Environment :=
  env.foldl (fun es e => Entries.set es (foldCase e.1) e.2) []

def ofEnvironment (env : Environment) : Except SettingsFailure (Entries Datum) := do
  let env := normalize env
  let mut found : Entries Datum := []
  for key in keys do
    if (sectionKeys.lookup key).isSome then
      match ← fromVariables? key env with
      | some d => found := found ++ [(key, d)]
      | none => pure ()
    else
      match Entries.get? env (variableStart ++ key) with
      | some value => found := found ++ [(key, .string value)]
      | none => pure ()
  return found

def properKeys (given : Entries Datum) : Entries Datum :=
  given.foldl (fun es e =>
    match keys.find? (· == foldCase e.1) with
    | none => es ++ [e]
    | some key => if es.has key then es else es ++ [(key, e.2)]) []

/-- The settings of given values over environment variables over the tables of a file. What is
given is laid over the variables first: where it hides a value there that is no section, the section
of the file shows through. -/
def ofSources (given : Entries Datum) (env : Environment) (file : Entries Datum) :
    Except SettingsFailure Settings := do
  let fromEnvironment ← ofEnvironment env
  match check (.object (overlay file (overlay fromEnvironment (properKeys given)))) with
  | .valid s => .ok s
  | .invalid issues => .error (.invalid issues)

def fileName : String := "linecmd.toml"

def fileVariable : String := "LINECMD_CONFIG"

def variableNames : List String :=
  let names := keys ++ sectionKeys.flatMap fun (part, ks) =>
    ks.map fun k => part ++ String.ofList delimiter ++ k
  fileVariable :: names.map fun name =>
    String.ofList ((variableStart ++ name).toList.map Char.toUpper)

def namedFile (files : FileTree) (name : String) : Except PathFault (Option Path) := do
  let p := Path.ofString name
  return if ← files.isFile p then some p else none

def findFile (files : FileTree) (env : Environment) (start : Option Path) :
    Except PathFault (Option Path) :=
  match Entries.get? env fileVariable with
  | some "" | none => nearest
  | some name => namedFile files name
where
  nearest : Except PathFault (Option Path) := do
    let origin ← files.resolve (start.getD files.cwd)
    (origin.selfAndParents.map fun d => d.child fileName).findM? files.isFile

def tables (files : FileTree) (p : Path) : Except Toml.Refusal (Entries Datum) :=
  Toml.parse ((files.text? p).getD "")

def fileFor (files : FileTree) (env : Environment) (configPath : Option String)
    (projectRoot : Option Path) : Except PathFault (Option Path) :=
  match configPath with
  | some "" | none => findFile files env projectRoot
  | some name => namedFile files name

def readTables (files : FileTree) : Option Path → Except SettingsFailure (Entries Datum)
  | none => .ok []
  | some p =>
    match tables files p with
    | .ok tables => .ok tables
    | .error (.malformed reason) => .error (.badFile p reason)
    | .error (.longInteger digits) => .error (.longInteger digits)
    | .error .tooDeep => .error .deepFile

def givenBy (files : FileTree) (projectRoot file : Option Path) (flags : Entries Datum) :
    Entries Datum :=
  let root := projectRoot.getD (file.elim files.cwd Path.parent)
  let flags := flags.filter fun e =>
    match e.2 with
    | .null => false
    | _ => true
  [("project_root", .string root.toText), ("config_path", .optionString (file.map Path.toText))]
    ++ flags

def load (files : FileTree) (env : Environment) (configPath : Option String)
    (projectRoot : Option Path) (flags : Entries Datum) : Except SettingsFailure Settings := do
  let file ← (fileFor files env configPath projectRoot).mapError .badPath
  let tables ← readTables files file
  ofSources (givenBy files projectRoot file flags) env tables

def withProject (files : FileTree) (env : Environment) (tables given : Entries Datum) :
    Entries Datum :=
  if (properKeys given).has "project_root"
    || Entries.has (normalize env) (variableStart ++ "project_root")
    || tables.has "project_root" then given
  else given ++ [("project_root", .string files.cwd.toText)]

abbrev Handing := StateM (Option Path)

def construct (files : FileTree) (env : Environment) (given : Entries Datum) :
    Handing (Except SettingsFailure Settings) := do
  let handed ← get
  return do
    let file ←
      match handed with
      | none => pure none
      | some p => pure (if ← (files.isFile p).mapError .badPath then some p else none)
    let tables ← readTables files file
    ofSources (withProject files env tables given) env tables

/-- Makes the settings for a call: hands its file to their construction, and nothing to those that
come later. -/
def fromCli (files : FileTree) (env : Environment) (configPath : Option String)
    (projectRoot : Option Path) (flags : Entries Datum) :
    Handing (Except SettingsFailure Settings) := do
  match fileFor files env configPath projectRoot with
  | .error fault => return .error (.badPath fault)
  | .ok file =>
    set file
    let settings ← construct files env (givenBy files projectRoot file flags)
    set (none : Option Path)
    return settings

end Settings

end LineShell
