import LineShell.Proofs.Settings.Given

namespace LineShell

open Settings

namespace Leaf

/-- What is chosen for the setting: what the first of the flags, the environment and the file says
that defines it. -/
def chosen (l : Leaf) (flags : Entries Datum) (env : Environment) (tables : Entries Datum) :
    Option (Except SettingsFailure Datum) :=
  ((l.fromFlags flags).map .ok).or ((l.fromEnvironment env).or ((l.look tables).map .ok))

/-- The value of the setting, by what is chosen for it if anything is. What cannot be read and what
does not pass the check gives none. -/
def settle? (l : Leaf) : Option (Except SettingsFailure Datum) → Option l.Value
  | none => some l.default
  | some (.error _) => none
  | some (.ok d) =>
    match l.check d with
    | .valid v => some v
    | .invalid _ => none

lemma settle?_eq_some {l : Leaf} {d? : Option Datum} {v : l.Value} :
    l.settle? (d?.map .ok) = some v ↔ l.read d? = .valid v := by
  cases d? with
  | none => simp [settle?, read]
  | some d =>
    simp only [settle?, read, Option.map_some, Option.getD_some]
    cases l.check d <;> simp

lemma fromEnvironment_of_flag {l : Leaf} (hl : l.part? = none) (env : Environment)
    (f : SettingsFailure) : l.fromEnvironment env ≠ some (.error f) := by
  rw [fromEnvironment, hl]
  cases lastNamed? env (variableStart ++ l.key) <;> rintro ⟨⟩

lemma settle?_chosen_of_error {l : Leaf} {flags tables : Entries Datum} {env : Environment}
    {f : SettingsFailure} (hflags : flags.keys ⊆ flagKeys)
    (h : l.fromEnvironment env = some (.error f)) :
    l.settle? (l.chosen flags env tables) = none := by
  cases hl : l.part? with
  | none => exact (fromEnvironment_of_flag hl env f h).elim
  | some part =>
    rw [chosen, fromFlags_of_section hl hflags, h]
    rfl

lemma exists_of (root : Path) (file : Option Path) (v : (l : Leaf) → l.Value) :
    ∃ s : Settings, s.projectRoot = root ∧ s.configPath = file ∧ ∀ l : Leaf, l.of s = v l := by
  refine ⟨⟨root, file, v .jsonOutput, v .quiet, v .verbose, v .logJson, ⟨v .maxDepth, v .nested⟩,
    ⟨v .discover, v .localDir, v .disabled⟩, ⟨v .prompt, v .exitWords⟩⟩, rfl, rfl, fun l => ?_⟩
  cases l <;> rfl

end Leaf

lemma nullable_optionString (file : Option Path) :
    Check.nullable checkPath (.optionString (file.map Path.toText)) =
      .valid (file.map fun p => Path.ofString p.toText) := by
  cases file <;> rfl

section Call

variable {files : FileTree} {env : Environment} {projectRoot file : Option Path}
  {flags tables vars : Entries Datum}

def sources (files : FileTree) (projectRoot file : Option Path)
    (flags vars tables : Entries Datum) : Entries Datum :=
  overlay tables (overlay vars (givenBy files projectRoot file flags))

lemma get?_sources (hflags : flags.keys ⊆ flagKeys) (hnodup : flags.keys.Nodup)
    (hvars : vars.keys.Nodup) {key : String} {d : Datum}
    (hgiven : Entries.get? (givenBy files projectRoot file flags) key = some d)
    (hplain : ∀ lower, overlayValue lower d = d) :
    Entries.get? (sources files projectRoot file flags vars tables) key = some d := by
  have hover := nodup_keys_overlay hvars (givenBy files projectRoot file flags)
  rw [sources, get?_overlay hover, get?_overlay (nodup_givenBy hflags hnodup), hgiven]
  simp only [hplain]

lemma unknownKeys_sources (hflags : flags.keys ⊆ flagKeys) (hvars : vars.keys ⊆ keys)
    (htables : tables.keys ⊆ keys) :
    unknownKeys (sources files projectRoot file flags vars tables) = [] := by
  have hgiven : "project_root" :: "config_path" :: flagKeys ⊆ keys := by decide
  rw [unknownKeys, List.map_eq_nil_iff, List.filter_eq_nil_iff]
  intro key hkey
  have hknown : key ∈ keys := by
    rcases mem_keys_overlay.mp hkey with hmem | hmem
    · exact htables hmem
    rcases mem_keys_overlay.mp hmem with hmem | hmem
    · exact hvars hmem
    · exact hgiven (keys_givenBy hflags hmem)
  simpa using hknown

variable (henv : env.Plain) (hnodup : flags.keys.Nodup) (hflags : flags.keys ⊆ flagKeys)
  (htables : HasTables tables)

include henv hnodup hflags htables

lemma hasTables_sources (hvars : ofEnvironment env = .ok vars) :
    HasTables (sources files projectRoot file flags vars tables) := by
  obtain ⟨hvarTables, hvarDistinct, -, -⟩ := ofEnvironment_ok henv hvars
  have hgiven : (Entries.keys (givenBy files projectRoot file flags)).Nodup :=
    nodup_givenBy hflags hnodup
  refine htables.overlay (hvarTables.overlay (hasTables_givenBy hflags) hgiven) ?_
  exact nodup_keys_overlay hvarDistinct.1 _

lemma read_sources (hvars : ofEnvironment env = .ok vars) (l : Leaf) (v : l.Value) :
    l.read (l.look (sources files projectRoot file flags vars tables)) = .valid v ↔
      l.settle? (l.chosen flags env tables) = some v := by
  obtain ⟨hvarTables, hvarDistinct, -, hvariable⟩ := ofEnvironment_ok henv hvars
  let given := givenBy files projectRoot file flags
  have hgiven : given.keys.Nodup := nodup_givenBy hflags hnodup
  have hupper : HasTables (overlay vars given) :=
    hvarTables.overlay (hasTables_givenBy hflags) hgiven
  have hdistinct : Distinct (overlay vars given) :=
    hvarDistinct.overlay (fun _ => get?_givenBy_section hflags) hgiven
  have hread : l.read (l.look (sources files projectRoot file flags vars tables)) =
      l.read ((l.fromFlags flags).or ((l.look vars).or (l.look tables))) := by
    calc l.read (l.look (overlay tables (overlay vars given)))
        = l.read ((l.look (overlay tables (overlay vars given))).or none) := by
          rw [Option.or_none]
      _ = l.read ((l.look (overlay vars given)).or ((l.look tables).or none)) :=
          l.read_overlay htables hupper hdistinct none
      _ = l.read ((l.look given).or ((l.look vars).or ((l.look tables).or none))) :=
          l.read_overlay hvarTables (hasTables_givenBy hflags) (distinct_givenBy hflags hnodup) _
      _ = l.read ((l.fromFlags flags).or ((l.look vars).or (l.look tables))) := by
          rw [look_givenBy hflags hnodup, Option.or_none]
  rw [hread, Leaf.chosen, ← hvariable l, ← Option.map_or, ← Option.map_or, Leaf.settle?_eq_some]

lemma check_sources (hknown : tables.keys ⊆ keys) (hvars : ofEnvironment env = .ok vars)
    (s : Settings) :
    Settings.check (.object (sources files projectRoot file flags vars tables)) = .valid s ↔
      s.projectRoot = Path.ofString (projectRoot.getD (file.elim files.cwd Path.parent)).toText ∧
        s.configPath = file.map (fun p => Path.ofString p.toText) ∧
        ∀ l : Leaf, l.settle? (l.chosen flags env tables) = some (l.of s) := by
  obtain ⟨-, hvarDistinct, hvarKeys, -⟩ := ofEnvironment_ok henv hvars
  have hroot : Entries.get? (sources files projectRoot file flags vars tables) "project_root" =
      some (.string (projectRoot.getD (file.elim files.cwd Path.parent)).toText) :=
    get?_sources hflags hnodup hvarDistinct.1 rfl fun _ => by simp [overlayValue]
  have hpath : Entries.get? (sources files projectRoot file flags vars tables) "config_path" =
      some (.optionString (file.map Path.toText)) :=
    get?_sources hflags hnodup hvarDistinct.1 rfl fun _ => by
      cases file <;> simp [Datum.optionString, overlayValue]
  rw [Settings.check_eq_valid_iff (hasTables_sources henv hnodup hflags htables hvars)
    (unknownKeys_sources hflags hvarKeys hknown)]
  simp only [read_sources henv hnodup hflags htables hvars]
  refine and_congr ?_ (and_congr ?_ Iff.rfl)
  · rw [Check.required, hroot]
    refine Checked.within_eq_valid.trans ?_
    rw [checkPath, Checked.valid.injEq, eq_comm]
  · rw [Check.optional, hpath]
    refine Checked.within_eq_valid.trans ?_
    rw [nullable_optionString, Checked.valid.injEq, eq_comm]

variable (files projectRoot file)

lemma ofSources_eq_ok_iff (hknown : tables.keys ⊆ keys) (s : Settings) :
    ofSources (givenBy files projectRoot file flags) env tables = .ok s ↔
      s.projectRoot = Path.ofString (projectRoot.getD (file.elim files.cwd Path.parent)).toText ∧
        s.configPath = file.map (fun p => Path.ofString p.toText) ∧
        ∀ l : Leaf, l.settle? (l.chosen flags env tables) = some (l.of s) := by
  have hgiven : "project_root" :: "config_path" :: flagKeys ⊆ keys := by decide
  have hproper : properKeys (givenBy files projectRoot file flags) =
      givenBy files projectRoot file flags :=
    properKeys_eq (nodup_givenBy hflags hnodup) fun _ hkey => hgiven (keys_givenBy hflags hkey)
  cases hvars : ofEnvironment env with
  | error f =>
    -- a variable that cannot be read is that of a setting, which then has no value
    have herror : ∃ (l : Leaf) (f : SettingsFailure), l.fromEnvironment env = some (.error f) := by
      by_contra hall
      obtain ⟨vars, hread⟩ := exists_ofEnvironment henv fun l f hl => hall ⟨l, f, hl⟩
      rw [hvars] at hread
      cases hread
    obtain ⟨l, f', hl⟩ := herror
    rw [ofSources, hvars]
    constructor
    · rintro ⟨⟩
    · rintro ⟨-, -, hall⟩
      have hsettled := hall l
      rw [Leaf.settle?_chosen_of_error hflags hl] at hsettled
      cases hsettled
  | ok vars =>
    rw [← check_sources henv hnodup hflags htables hknown hvars s, ofSources, hvars, hproper,
      sources, bind_eq_ok]
    simp only [Except.ok.injEq, exists_eq_left']
    generalize Settings.check _ = checked
    cases checked <;> simp

lemma exists_ofSources_error_iff (hknown : tables.keys ⊆ keys) :
    (∃ f, ofSources (givenBy files projectRoot file flags) env tables = .error f) ↔
      ∃ l : Leaf, l.settle? (l.chosen flags env tables) = none := by
  have hok := ofSources_eq_ok_iff files projectRoot file henv hnodup hflags htables hknown
  constructor
  · rintro ⟨f, hf⟩
    by_contra hall
    have hsome : ∀ l : Leaf, ∃ v, l.settle? (l.chosen flags env tables) = some v := fun l =>
      Option.ne_none_iff_exists'.mp fun hnone => hall ⟨l, hnone⟩
    choose v hv using hsome
    obtain ⟨s, hroot, hpath, hs⟩ := Leaf.exists_of
      (Path.ofString (projectRoot.getD (file.elim files.cwd Path.parent)).toText)
      (file.map fun p => Path.ofString p.toText) v
    have hmade := (hok s).mpr ⟨hroot, hpath, fun l => (hs l) ▸ hv l⟩
    rw [hf] at hmade
    cases hmade
  · rintro ⟨l, hl⟩
    cases hmade : ofSources (givenBy files projectRoot file flags) env tables with
    | error f => exact ⟨f, rfl⟩
    | ok s =>
      have hsome := ((hok s).mp hmade).2.2 l
      rw [hl] at hsome
      cases hsome

end Call

/-- Every single setting of a call comes from the first of the flags, the environment and the file
that defines it, and is its default if none does. A call with its file located fails just if the
file cannot be read, or what is chosen for some setting is not valid. However a call ends, a later
construction of settings sees no file. -/
theorem settings_from_highest {files : FileTree} {env : Environment} {configPath : Option String}
    {projectRoot : Option Path} {flags : Entries Datum} (henv : env.Plain)
    (hnodup : flags.keys.Nodup) (hflags : flags.keys ⊆ flagKeys)
    (htables : ∀ file tables, fileFor files env configPath projectRoot = .ok file →
      readTables files file = .ok tables → tables.keys ⊆ keys ∧ HasTables tables) :
    (∀ file, fileFor files env configPath projectRoot = .ok file →
      (∀ s, (fromCli files env configPath projectRoot flags none).1 = .ok s →
        ∃ tables, readTables files file = .ok tables ∧
          ∀ l : Leaf, l.settle? (l.chosen flags env tables) = some (l.of s)) ∧
      ((∃ f, (fromCli files env configPath projectRoot flags none).1 = .error f) ↔
        (∃ f, readTables files file = .error f) ∨
          ∃ tables, readTables files file = .ok tables ∧
            ∃ l : Leaf, l.settle? (l.chosen flags env tables) = none)) ∧
    ∀ (later : FileTree) (env' : Environment) (given : Entries Datum),
      construct later env' given (fromCli files env configPath projectRoot flags none).2 =
        (ofSources (withProject later env' [] given) env' [], none) := by
  rw [fromCli_eq]
  refine ⟨fun file hlocated => ?_, fun later env' given => construct_eq (by rintro _ ⟨⟩) env' given⟩
  rw [load_eq hlocated]
  cases hread : readTables files file with
  | error f => exact ⟨by rintro s ⟨⟩, fun _ => .inl ⟨f, rfl⟩, fun _ => ⟨f, rfl⟩⟩
  | ok tables =>
    obtain ⟨hknown, hsections⟩ := htables file tables hlocated hread
    refine ⟨fun s hs => ⟨tables, rfl, ?_⟩, ?_⟩
    · have hmade := ofSources_eq_ok_iff files projectRoot file henv hnodup hflags hsections hknown s
      exact (hmade.mp hs).2.2
    · have hfails :=
        exists_ofSources_error_iff files projectRoot file henv hnodup hflags hsections hknown
      refine hfails.trans ⟨?_, ?_⟩
      · exact fun hl => .inr ⟨tables, rfl, hl⟩
      · rintro (⟨f, ⟨⟩⟩ | ⟨_, ⟨⟩, hl⟩)
        exact hl

def workTree : FileTree :=
  ⟨⟨"/", ["work"]⟩,
    [(⟨"/", ["work", "linecmd.toml"]⟩, .text
      "quiet='loud'\n[interpreter]\nmax_depth=2\n[shell]\nprompt='$ '\n")]⟩

def workEnvironment : Environment :=
  [("LINECMD_QUIET", "no"), ("LINECMD_INTERPRETER__MAX_DEPTH", " +7"),
    ("linecmd_Shell__Exit_Words", "[\"bye\"]"), ("LINECMD_QUIET", "yes")]

def workFlags : Entries Datum :=
  [("json_output", .bool true), ("quiet", .null)]

theorem work_settled : ∃ s,
    (fromCli workTree workEnvironment none none workFlags none).1 = .ok s ∧
      s.jsonOutput = true ∧ s.quiet = true ∧ s.interpreter.maxDepth = 7 ∧
        s.plugins.disabled = [] ∧ s.shell = ⟨"$ ", ["bye"]⟩ := by
  let file : Path := ⟨"/", ["work", "linecmd.toml"]⟩
  let tables : Entries Datum :=
    [("quiet", .string "loud"), ("interpreter", .object [("max_depth", .int 2)]),
      ("shell", .object [("prompt", .string "$ ")])]
  have hlocated : fileFor workTree workEnvironment none none = .ok (some file) := by cbv
  have hread : readTables workTree (some file) = .ok tables := by cbv
  have htables : ∀ file' tables', fileFor workTree workEnvironment none none = .ok file' →
      readTables workTree file' = .ok tables' → tables'.keys ⊆ keys ∧ HasTables tables' := by
    rintro file' tables' hfile' htables'
    obtain rfl := Except.ok.inj (hlocated.symm.trans hfile')
    obtain rfl := Except.ok.inj (hread.symm.trans htables')
    refine ⟨by decide, fun part hpart d hd => ?_⟩
    simp only [sectionKeys, List.map_cons, List.map_nil, List.mem_cons, List.not_mem_nil,
      or_false] at hpart
    rcases hpart with rfl | rfl | rfl <;> simp [tables, Entries.get?_cons] at hd
    · exact ⟨_, hd.symm⟩
    · exact ⟨_, hd.symm⟩
  have henv : workEnvironment.Plain := by decide +kernel
  have hnodup : workFlags.keys.Nodup := by decide
  have hflags : workFlags.keys ⊆ flagKeys := by decide
  obtain ⟨hcall, -⟩ := settings_from_highest henv hnodup hflags htables
  obtain ⟨hvalues, hfails⟩ := hcall (some file) hlocated
  have hsettled : ∀ l : Leaf,
      (l.settle? (l.chosen workFlags workEnvironment tables)).isSome = true := by
    intro l
    cases l <;> decide +kernel
  cases hmade : (fromCli workTree workEnvironment none none workFlags none).1 with
  | error f =>
    obtain ⟨f', hf'⟩ | ⟨tables', htables', l, hl⟩ := hfails.mp ⟨f, hmade⟩
    · cases hread.symm.trans hf'
    · obtain rfl := Except.ok.inj (hread.symm.trans htables')
      have hsome := hsettled l
      rw [hl] at hsome
      cases hsome
  | ok s =>
    obtain ⟨tables', htables', hs⟩ := hvalues s hmade
    obtain rfl := Except.ok.inj (hread.symm.trans htables')
    have hvalue : ∀ (l : Leaf) (v : l.Value),
        l.settle? (l.chosen workFlags workEnvironment tables) = some v → l.of s = v :=
      fun l v hv => Option.some.inj ((hs l).symm.trans hv)
    have hprompt : s.shell.prompt = "$ " := hvalue .prompt _ (by decide +kernel)
    have hwords : s.shell.exitWords = ["bye"] := hvalue .exitWords _ (by decide +kernel)
    exact ⟨s, rfl, hvalue .jsonOutput true (by decide +kernel),
      hvalue .quiet true (by decide +kernel), hvalue .maxDepth (7 : Nat) (by decide +kernel),
      hvalue .disabled [] (by decide +kernel),
      congrArg₂ ShellConfig.mk hprompt hwords⟩

end LineShell
