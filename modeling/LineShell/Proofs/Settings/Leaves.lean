import LineShell.Settings.Sources
import Mathlib

/-! The single settings: the flags, and the fields of the sections. Settings are valid just if each
of them is. -/

namespace LineShell

section Results

variable {ε α β : Type}

lemma bind_eq_ok {x : Except ε α} {f : α → Except ε β} {b : β} :
    x >>= f = .ok b ↔ ∃ a, x = .ok a ∧ f a = .ok b := by
  cases x with
  | error e => exact ⟨nofun, by rintro ⟨_, ⟨⟩, _⟩⟩
  | ok a =>
    constructor
    · exact fun h => ⟨a, rfl, h⟩
    · rintro ⟨_, ⟨⟩, h⟩
      exact h

lemma map_eq_ok {f : α → β} {x : Except ε α} {b : β} :
    x.map f = .ok b ↔ ∃ a, x = .ok a ∧ f a = b := by
  cases x <;> simp [Except.map]

end Results

namespace Checked

variable {α β : Type}

lemma map_eq_valid {f : α → β} {x : Checked α} {b : β} :
    f <$> x = .valid b ↔ ∃ a, x = .valid a ∧ f a = b := by
  change x.map f = .valid b ↔ _
  cases x <;> simp [Checked.map]

lemma seq_eq_valid {f : Checked (α → β)} {x : Checked α} {b : β} :
    f <*> x = .valid b ↔ ∃ g, f = .valid g ∧ ∃ a, x = .valid a ∧ g a = b := by
  change f.both x = .valid b ↔ _
  cases f <;> cases x <;> simp [Checked.both]

lemma within_eq_valid {step : Place} {x : Checked α} {a : α} :
    x.within step = .valid a ↔ x = .valid a := by
  cases x <;> simp [Checked.within]

end Checked

inductive Leaf
  | jsonOutput
  | quiet
  | verbose
  | logJson
  | maxDepth
  | nested
  | discover
  | localDir
  | disabled
  | prompt
  | exitWords
  deriving DecidableEq, Repr

namespace Leaf

def part? : Leaf → Option String
  | .jsonOutput | .quiet | .verbose | .logJson => none
  | .maxDepth | .nested => some "interpreter"
  | .discover | .localDir | .disabled => some "plugins"
  | .prompt | .exitWords => some "shell"

def key : Leaf → String
  | .jsonOutput => "json_output"
  | .quiet => "quiet"
  | .verbose => "verbose"
  | .logJson => "log_json"
  | .maxDepth => "max_depth"
  | .nested => "nested"
  | .discover => "discover"
  | .localDir => "local_dir"
  | .disabled => "disabled"
  | .prompt => "prompt"
  | .exitWords => "exit_words"

abbrev Value : Leaf → Type
  | .maxDepth => Nat
  | .localDir | .prompt => String
  | .disabled | .exitWords => List String
  | _ => Bool

def check : (l : Leaf) → Datum → Checked l.Value
  | .jsonOutput | .quiet | .verbose | .logJson | .nested | .discover => Check.bool
  | .maxDepth => Check.natural
  | .localDir | .prompt => Check.string
  | .disabled | .exitWords => Check.list Check.string

def default : (l : Leaf) → l.Value
  | .jsonOutput | .quiet | .verbose | .logJson => false
  | .maxDepth => InterpreterConfig.default.maxDepth
  | .nested => InterpreterConfig.default.nested
  | .discover => PluginsConfig.default.discover
  | .localDir => PluginsConfig.default.localDir
  | .disabled => PluginsConfig.default.disabled
  | .prompt => ShellConfig.default.prompt
  | .exitWords => ShellConfig.default.exitWords

def of (s : Settings) : (l : Leaf) → l.Value
  | .jsonOutput => s.jsonOutput
  | .quiet => s.quiet
  | .verbose => s.verbose
  | .logJson => s.logJson
  | .maxDepth => s.interpreter.maxDepth
  | .nested => s.interpreter.nested
  | .discover => s.plugins.discover
  | .localDir => s.plugins.localDir
  | .disabled => s.plugins.disabled
  | .prompt => s.shell.prompt
  | .exitWords => s.shell.exitWords

end Leaf

def tableOf (es : Entries Datum) (part : String) : Entries Datum :=
  ((es.get? part).map Datum.entries).getD []

def HasTables (es : Entries Datum) : Prop :=
  ∀ part ∈ Settings.sectionKeys.map Prod.fst, ∀ d, es.get? part = some d →
    ∃ table, d = .object table

namespace Leaf

def look (l : Leaf) (es : Entries Datum) : Option Datum :=
  match l.part? with
  | none => es.get? l.key
  | some part => (tableOf es part).get? l.key

def read (l : Leaf) (chosen : Option Datum) : Checked l.Value :=
  (chosen.map l.check).getD (.valid l.default)

end Leaf

variable {α : Type}

lemma Check.optional_eq_valid {es : Entries Datum} {key : String} {default v : α}
    {check : Datum → Checked α} :
    Check.optional es key default check = .valid v ↔
      ((es.get? key).map check).getD (.valid default) = .valid v := by
  rw [Check.optional]
  cases es.get? key with
  | none => rfl
  | some d => exact Checked.within_eq_valid

lemma Check.section_eq_valid {es : Entries Datum} {part name : String} {default v : α}
    {fields : Entries Datum → Checked α} (hdefault : fields [] = .valid default)
    (htable : ∀ d, es.get? part = some d → ∃ table, d = .object table) :
    Check.optional es part default (Check.record name fields) = .valid v ↔
      fields (tableOf es part) = .valid v := by
  rw [Check.optional_eq_valid, tableOf]
  cases hd : es.get? part with
  | none => simp [hdefault]
  | some d =>
    obtain ⟨table, rfl⟩ := htable d hd
    rfl

section Sections

variable {es : Entries Datum}

lemma InterpreterConfig.optional_eq_valid
    (h : ∀ d, es.get? "interpreter" = some d → ∃ table, d = .object table)
    (c : InterpreterConfig) :
    Check.optional es "interpreter" .default InterpreterConfig.check = .valid c ↔
      Leaf.read .maxDepth (Leaf.look .maxDepth es) = .valid c.maxDepth ∧
        Leaf.read .nested (Leaf.look .nested es) = .valid c.nested := by
  refine (Check.section_eq_valid ?_ h).trans ?_
  · rfl
  simp only [Checked.seq_eq_valid, Checked.map_eq_valid, Check.optional_eq_valid]
  constructor
  · rintro ⟨_, ⟨maxDepth, hdepth, rfl⟩, nested, hnested, rfl⟩
    exact ⟨hdepth, hnested⟩
  · rintro ⟨hdepth, hnested⟩
    exact ⟨_, ⟨_, hdepth, rfl⟩, _, hnested, rfl⟩

lemma PluginsConfig.optional_eq_valid
    (h : ∀ d, es.get? "plugins" = some d → ∃ table, d = .object table) (c : PluginsConfig) :
    Check.optional es "plugins" .default PluginsConfig.check = .valid c ↔
      Leaf.read .discover (Leaf.look .discover es) = .valid c.discover ∧
        Leaf.read .localDir (Leaf.look .localDir es) = .valid c.localDir ∧
        Leaf.read .disabled (Leaf.look .disabled es) = .valid c.disabled := by
  refine (Check.section_eq_valid ?_ h).trans ?_
  · rfl
  simp only [Checked.seq_eq_valid, Checked.map_eq_valid, Check.optional_eq_valid]
  constructor
  · rintro ⟨_, ⟨_, ⟨discover, hdiscover, rfl⟩, dir, hdir, rfl⟩, disabled, hdisabled, rfl⟩
    exact ⟨hdiscover, hdir, hdisabled⟩
  · rintro ⟨hdiscover, hdir, hdisabled⟩
    exact ⟨_, ⟨_, ⟨_, hdiscover, rfl⟩, _, hdir, rfl⟩, _, hdisabled, rfl⟩

lemma ShellConfig.optional_eq_valid
    (h : ∀ d, es.get? "shell" = some d → ∃ table, d = .object table) (c : ShellConfig) :
    Check.optional es "shell" .default ShellConfig.check = .valid c ↔
      Leaf.read .prompt (Leaf.look .prompt es) = .valid c.prompt ∧
        Leaf.read .exitWords (Leaf.look .exitWords es) = .valid c.exitWords := by
  refine (Check.section_eq_valid ?_ h).trans ?_
  · rfl
  simp only [Checked.seq_eq_valid, Checked.map_eq_valid, Check.optional_eq_valid]
  constructor
  · rintro ⟨_, ⟨prompt, hprompt, rfl⟩, words, hwords, rfl⟩
    exact ⟨hprompt, hwords⟩
  · rintro ⟨hprompt, hwords⟩
    exact ⟨_, ⟨_, hprompt, rfl⟩, _, hwords, rfl⟩

lemma Settings.check_eq_valid_iff (hes : HasTables es) (hknown : Settings.unknownKeys es = [])
    (s : Settings) :
    Settings.check (.object es) = .valid s ↔
      Check.required es "project_root" Settings.checkPath = .valid s.projectRoot ∧
        Check.optional es "config_path" none (Check.nullable Settings.checkPath)
          = .valid s.configPath ∧
        ∀ l : Leaf, l.read (l.look es) = .valid (l.of s) := by
  have hinterpreter := InterpreterConfig.optional_eq_valid (hes "interpreter" (by decide))
  have hplugins := PluginsConfig.optional_eq_valid (hes "plugins" (by decide))
  have hshell := ShellConfig.optional_eq_valid (hes "shell" (by decide))
  rw [Settings.check]
  dsimp only [Datum.entries]
  rw [hknown]
  simp only [Checked.seq_eq_valid, Checked.map_eq_valid]
  constructor
  · rintro ⟨_, ⟨_, ⟨_, ⟨_, ⟨_, ⟨_, ⟨_, ⟨_, ⟨root, hroot, rfl⟩, file, hfile, rfl⟩, json, hjson, rfl⟩,
      quiet, hquiet, rfl⟩, verbose, hverbose, rfl⟩, logJson, hlog, rfl⟩, i, hi, rfl⟩, p, hp, rfl⟩,
      sh, hsh, rfl⟩
    obtain ⟨hdepth, hnested⟩ := (hinterpreter i).mp hi
    obtain ⟨hdiscover, hdir, hdisabled⟩ := (hplugins p).mp hp
    obtain ⟨hprompt, hwords⟩ := (hshell sh).mp hsh
    refine ⟨hroot, hfile, fun l => ?_⟩
    cases l
    case jsonOutput => exact Check.optional_eq_valid.mp hjson
    case quiet => exact Check.optional_eq_valid.mp hquiet
    case verbose => exact Check.optional_eq_valid.mp hverbose
    case logJson => exact Check.optional_eq_valid.mp hlog
    all_goals assumption
  · rintro ⟨hroot, hfile, hleaf⟩
    have hi := (hinterpreter s.interpreter).mpr ⟨hleaf .maxDepth, hleaf .nested⟩
    have hp := (hplugins s.plugins).mpr ⟨hleaf .discover, hleaf .localDir, hleaf .disabled⟩
    have hsh := (hshell s.shell).mpr ⟨hleaf .prompt, hleaf .exitWords⟩
    exact ⟨_, ⟨_, ⟨_, ⟨_, ⟨_, ⟨_, ⟨_, ⟨_, ⟨_, hroot, rfl⟩, _, hfile, rfl⟩,
      _, Check.optional_eq_valid.mpr (hleaf .jsonOutput), rfl⟩,
      _, Check.optional_eq_valid.mpr (hleaf .quiet), rfl⟩,
      _, Check.optional_eq_valid.mpr (hleaf .verbose), rfl⟩,
      _, Check.optional_eq_valid.mpr (hleaf .logJson), rfl⟩, _, hi, rfl⟩, _, hp, rfl⟩, _, hsh, rfl⟩

end Sections

end LineShell
