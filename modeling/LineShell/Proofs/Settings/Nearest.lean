import LineShell.Proofs.Files
import LineShell.Proofs.Paths
import LineShell.Proofs.Settings.Priority

/-! The settings file of a place. Unless a variable names one, it is that of the nearest directory
around the place which has one, and nothing but a path that cannot be looked for keeps it from being
found. -/

namespace LineShell

section Search

variable {ε α β : Type} {l : List α} {f : α → Except ε Bool} {r : α → α → Prop} {a : α}

lemma findM?_map (g : β → α) (l : List β) :
    (l.map g).findM? f = (l.findM? (f ∘ g)).map (Option.map g) := by
  induction l with
  | nil => rfl
  | cons b l ih =>
    rw [List.map_cons, List.findM?, List.findM?, Function.comp_apply]
    cases f (g b) with
    | error e => rfl
    | ok found =>
      cases found with
      | true => rfl
      | false => exact ih

lemma findM?_eq_none_iff : l.findM? f = .ok none ↔ ∀ a ∈ l, f a = .ok false := by
  induction l with
  | nil => exact ⟨fun _ _ h => absurd h List.not_mem_nil, fun _ => rfl⟩
  | cons b l ih =>
    rw [List.findM?, List.forall_mem_cons, ← ih]
    rcases hb : f b with e | _ | _
    · exact ⟨by rintro ⟨⟩, by rintro ⟨⟨⟩, -⟩⟩
    · exact ⟨fun h => ⟨rfl, h⟩, fun h => h.2⟩
    · exact ⟨by rintro ⟨⟩, by rintro ⟨⟨⟩, -⟩⟩

section Ordered

variable (hl : l.Pairwise r)

include hl

lemma findM?_of_first (ha : a ∈ l) (hsome : f a ≠ .ok false)
    (hfirst : ∀ b ∈ l, r b a → f b = .ok false) : l.findM? f = (f a).map fun _ => some a := by
  induction l with
  | nil => exact absurd ha List.not_mem_nil
  | cons b l ih =>
    rw [List.pairwise_cons] at hl
    rw [List.forall_mem_cons] at hfirst
    rw [List.findM?]
    rcases List.mem_cons.mp ha with rfl | ha
    · rcases hfa : f a with e | _ | _
      · rfl
      · exact absurd hfa hsome
      · rfl
    · rw [hfirst.1 (hl.1 a ha)]
      exact ih hl.2 ha hfirst.2

variable (hr : ∀ a b, r a b → ¬ r b a)

include hr

lemma exists_first (h : l.findM? f ≠ .ok none) :
    ∃ a ∈ l, f a ≠ .ok false ∧ ∀ b ∈ l, r b a → f b = .ok false := by
  induction l with
  | nil => exact absurd rfl h
  | cons b l ih =>
    rw [List.pairwise_cons] at hl
    by_cases hb : f b = .ok false
    · rw [List.findM?, hb] at h
      obtain ⟨a, ha, hsome, hfirst⟩ := ih hl.2 h
      exact ⟨a, List.mem_cons_of_mem b ha, hsome, List.forall_mem_cons.mpr ⟨fun _ => hb, hfirst⟩⟩
    · refine ⟨b, List.mem_cons_self, hb, List.forall_mem_cons.mpr ⟨fun h => ?_, fun c hc h => ?_⟩⟩
      · exact absurd h (hr b b h)
      · exact absurd h (hr b c (hl.1 c hc))

lemma findM?_eq_some_iff :
    l.findM? f = .ok (some a) ↔ a ∈ l ∧ f a = .ok true ∧ ∀ b ∈ l, r b a → f b = .ok false := by
  constructor
  · intro h
    have hne : l.findM? f ≠ .ok none := by
      rw [h]
      rintro ⟨⟩
    obtain ⟨b, hb, hsome, hfirst⟩ := exists_first hl hr hne
    rw [findM?_of_first hl hb hsome hfirst] at h
    rcases hfb : f b with e | _ | _
    · rw [hfb] at h
      cases h
    · exact absurd hfb hsome
    · rw [hfb] at h
      obtain rfl := Option.some.inj (Except.ok.inj h)
      exact ⟨hb, hfb, hfirst⟩
  · rintro ⟨ha, hfa, hfirst⟩
    rw [findM?_of_first hl ha (by simp [hfa]) hfirst, hfa]
    rfl

lemma findM?_eq_error_iff {e : ε} :
    l.findM? f = .error e ↔ ∃ a ∈ l, f a = .error e ∧ ∀ b ∈ l, r b a → f b = .ok false := by
  constructor
  · intro h
    have hne : l.findM? f ≠ .ok none := by
      rw [h]
      rintro ⟨⟩
    obtain ⟨b, hb, hsome, hfirst⟩ := exists_first hl hr hne
    rw [findM?_of_first hl hb hsome hfirst] at h
    rcases hfb : f b with e' | found
    · rw [hfb] at h
      obtain rfl := Except.error.inj h
      exact ⟨b, hb, hfb, hfirst⟩
    · rw [hfb] at h
      cases h
  · rintro ⟨a, ha, hfa, hfirst⟩
    rw [findM?_of_first hl ha (by simp [hfa]) hfirst, hfa]
    rfl

end Ordered

end Search

namespace Settings

section Paths

variable {files : FileTree} {env : Environment} {root file : Option Path}
  {flags tables lower upper : Entries Datum} {key : String} {d : Datum} {s : Settings}

lemma overlayValue_string (lower : Option Datum) (text : String) :
    overlayValue lower (.string text) = .string text := by
  simp [overlayValue]

lemma overlayValue_optionString (lower : Option Datum) (text : Option String) :
    overlayValue lower (.optionString text) = .optionString text := by
  cases text <;> simp [Datum.optionString, overlayValue]

lemma get?_overlay_of_not_mem (h : key ∉ upper.keys) :
    Entries.get? (overlay lower upper) key = lower.get? key := by
  induction upper generalizing lower with
  | nil => rw [overlay]
  | cons e upper ih =>
    obtain ⟨k, d⟩ := e
    rw [Entries.keys, List.map_cons, List.mem_cons, not_or] at h
    rw [overlay, ih h.2, Entries.get?_set_of_ne _ _ h.1]

lemma get?_overlay_of_filter (h : upper.filter (·.1 == key) = [(key, d)]) :
    Entries.get? (overlay lower upper) key = some (overlayValue (lower.get? key) d) := by
  induction upper generalizing lower with
  | nil => cases h
  | cons e upper ih =>
    obtain ⟨k, d'⟩ := e
    rw [overlay]
    by_cases hk : k = key
    · subst hk
      rw [List.filter_cons_of_pos (by simp)] at h
      obtain ⟨hhead, hrest⟩ := List.cons.inj h
      obtain ⟨-, rfl⟩ := Prod.mk.inj hhead
      have hnone : k ∉ Entries.keys upper := by
        rintro hmem
        obtain ⟨e, he, rfl⟩ := List.mem_map.mp hmem
        exact List.filter_eq_nil_iff.mp hrest e he (beq_self_eq_true e.1)
      rw [get?_overlay_of_not_mem hnone, Entries.get?_set_self]
    · rw [List.filter_cons_of_neg (by simpa using hk)] at h
      rw [ih h, Entries.get?_set_of_ne _ _ (Ne.symm hk)]

lemma filter_addProper (hkey : key ∈ keys) {es : Entries Datum} (hhas : es.has key)
    (e : String × Datum) :
    (addProper es e).filter (·.1 == key) = es.filter (·.1 == key) := by
  rw [addProper]
  split
  · rename_i hunknown
    have hne : e.1 ≠ key := by
      rintro rfl
      rw [find?_key e.1 hkey] at hunknown
      cases hunknown
    rw [List.filter_append, List.filter_cons_of_neg (by simpa using hne)]
    exact List.append_nil _
  · rename_i k _
    split
    · rfl
    · rename_i hnew
      have hne : k ≠ key := by
        rintro rfl
        exact hnew hhas
      rw [List.filter_append, List.filter_cons_of_neg (by simpa using hne)]
      exact List.append_nil _

lemma filter_foldl_addProper (hkey : key ∈ keys) {es : Entries Datum} (hhas : es.has key)
    (more : Entries Datum) :
    (more.foldl addProper es).filter (·.1 == key) = es.filter (·.1 == key) := by
  induction more generalizing es with
  | nil => rfl
  | cons e more ih =>
    have hfront : es <+: addProper es e := prefix_foldl_addProper [e] es
    have hhas' : (addProper es e).has key := by
      rw [Entries.has_iff_mem_keys] at hhas ⊢
      exact (hfront.map Prod.fst).subset hhas
    rw [List.foldl_cons, ih hhas', filter_addProper hkey hhas]

lemma filter_properKeys_givenBy (files : FileTree) (root file : Option Path)
    (flags : Entries Datum) :
    (properKeys (givenBy files root file flags)).filter (·.1 == "project_root") =
        [("project_root", .string (root.getD (file.elim files.cwd Path.parent)).toText)] ∧
      (properKeys (givenBy files root file flags)).filter (·.1 == "config_path") =
        [("config_path", .optionString (file.map Path.toText))] := by
  let own : Entries Datum :=
    [("project_root", .string (root.getD (file.elim files.cwd Path.parent)).toText),
      ("config_path", .optionString (file.map Path.toText))]
  have hkeys : own.keys = ["project_root", "config_path"] := rfl
  have hown : own.foldl addProper [] = own :=
    properKeys_eq (by rw [hkeys]; decide) (by rw [hkeys]; decide)
  rw [properKeys_eq_foldl, givenBy, List.foldl_append]
  change (List.foldl addProper (own.foldl addProper []) _).filter _ = _ ∧
    (List.foldl addProper (own.foldl addProper []) _).filter _ = _
  rw [hown, filter_foldl_addProper (by decide) rfl, filter_foldl_addProper (by decide) rfl]
  exact ⟨rfl, rfl⟩

lemma check_paths (h : Settings.check (.object tables) = .valid s) :
    Check.required tables "project_root" checkPath = .valid s.projectRoot ∧
      Check.optional tables "config_path" none (Check.nullable checkPath)
        = .valid s.configPath := by
  rw [Settings.check] at h
  dsimp only [Datum.entries] at h
  split at h
  · simp only [Checked.seq_eq_valid, Checked.map_eq_valid] at h
    obtain ⟨_, ⟨_, ⟨_, ⟨_, ⟨_, ⟨_, ⟨_, ⟨_, ⟨root, hroot, rfl⟩, file, hfile, rfl⟩, _, _, rfl⟩, _, _,
      rfl⟩, _, _, rfl⟩, _, _, rfl⟩, _, _, rfl⟩, _, _, rfl⟩, _, _, rfl⟩ := h
    exact ⟨hroot, hfile⟩
  · cases h

lemma ofSources_paths (h : ofSources (givenBy files root file flags) env tables = .ok s) :
    s.projectRoot = Path.ofString (root.getD (file.elim files.cwd Path.parent)).toText ∧
      s.configPath = file.map fun p => Path.ofString p.toText := by
  rw [ofSources] at h
  obtain ⟨vars, hvars, h⟩ := bind_eq_ok.mp h
  rw [ofEnvironment_eq] at hvars
  have hnodup : vars.keys.Nodup := (gather_ok (by decide) hvars).1.nodup (by decide)
  obtain ⟨hroot, hpath⟩ := filter_properKeys_givenBy files root file flags
  split at h
  · rename_i s' hvalid
    obtain rfl := Except.ok.inj h
    obtain ⟨hrequired, hoptional⟩ := check_paths hvalid
    have hover := nodup_keys_overlay hnodup (properKeys (givenBy files root file flags))
    rw [Check.required, get?_overlay hover, get?_overlay_of_filter hroot] at hrequired
    rw [Check.optional, get?_overlay hover, get?_overlay_of_filter hpath] at hoptional
    have hroot' := Checked.within_eq_valid.mp hrequired
    have hpath' := Checked.within_eq_valid.mp hoptional
    simp only [overlayValue_string] at hroot'
    simp only [overlayValue_optionString, nullable_optionString] at hpath'
    exact ⟨(Checked.valid.inj hroot').symm, (Checked.valid.inj hpath').symm⟩
  · cases h

end Paths

variable {files : FileTree}

/-- What becomes of a search for the file of one name: that file is found or none, unless it cannot
be looked for. -/
structure OnlyNamed (files : FileTree) (p : Path) (r : Except PathFault (Option Path)) : Prop where
  found : ∀ q, r = .ok (some q) ↔ q = p ∧ files.isFile p = .ok true
  missed : r = .ok none ↔ files.isFile p = .ok false
  fault : ∀ f, r = .error f ↔ files.isFile p = .error f
  total : (∀ n ∈ (files.cwd.append p).names, n.utf8ByteSize ≤ FileTree.nameLimit) →
    p.toText.utf8ByteSize ≤ FileTree.pathLimit → ∃ found, r = .ok found

structure Deciding (files : FileTree) (origin : Path) (answer : Except PathFault Bool)
    (dir : Path) : Prop where
  around : dir.Around origin
  answers : files.isFile (dir.child fileName) = answer
  nearer : ∀ d : Path, d.Around origin → dir.names.length < d.names.length →
    files.isFile (d.child fileName) = .ok false

/-- What becomes of a search for the nearest settings file: it is found or there is none, unless one
of those that would be nearer cannot be looked for. -/
structure OnlyNearest (files : FileTree) (origin : Path) (r : Except PathFault (Option Path)) :
    Prop where
  found : ∀ p, r = .ok (some p) ↔ ∃ dir, Deciding files origin (.ok true) dir ∧
    p = dir.child fileName
  missed : r = .ok none ↔ ∀ d : Path, d.Around origin → files.isFile (d.child fileName) = .ok false
  fault : ∀ f, r = .error f ↔ ∃ dir, Deciding files origin (.error f) dir
  total : (∀ n ∈ origin.names, n.utf8ByteSize ≤ FileTree.nameLimit) →
    (origin.child fileName).toText.utf8ByteSize ≤ FileTree.pathLimit → ∃ found, r = .ok found

lemma namedFile_eq (files : FileTree) (name : String) :
    namedFile files name = (files.isFile (Path.ofString name)).map fun found =>
      if found then some (Path.ofString name) else none := by
  rw [namedFile]
  cases files.isFile (Path.ofString name) <;> rfl

lemma namedFile_onlyNamed (files : FileTree) (name : String) :
    OnlyNamed files (Path.ofString name) (namedFile files name) := by
  rw [namedFile_eq]
  constructor
  case total =>
    intro hnames hpath
    obtain ⟨found, hfound⟩ := FileTree.exists_isFile hnames hpath
    rw [hfound]
    exact ⟨_, rfl⟩
  all_goals
    rcases files.isFile (Path.ofString name) with f | _ | _ <;> simp [Except.map, eq_comm]

lemma eq_of_resolve {p origin : Path} (h : files.resolve p = .ok origin) :
    origin = files.cwd.resolve p := by
  rw [FileTree.resolve] at h
  split at h
  · cases h
  · exact (Except.ok.inj h).symm

lemma exists_isFile_around {origin d : Path} (habsolute : origin.anchor = "/")
    (hnames : ∀ n ∈ origin.names, n.utf8ByteSize ≤ FileTree.nameLimit)
    (hpath : (origin.child fileName).toText.utf8ByteSize ≤ FileTree.pathLimit)
    (hd : d.Around origin) : ∃ found, files.isFile (d.child fileName) = .ok found := by
  have hplace : files.cwd.append (d.child fileName) = d.child fileName := by
    have hanchor : (d.child fileName).isAbsolute = true := by
      rw [Path.isAbsolute, Path.child, hd.anchor, habsolute]
      rfl
    rw [Path.append, hanchor, if_pos rfl]
  have hsize : (d.child fileName).toText.utf8ByteSize ≤
      (origin.child fileName).toText.utf8ByteSize :=
    Path.size_toText_le hd.anchor (hd.names.sublist.append_right [fileName])
      (List.append_ne_nil_of_right_ne_nil _ (List.cons_ne_nil _ _))
  refine FileTree.exists_isFile (fun n hn => ?_) (hsize.trans hpath)
  rw [hplace] at hn
  rcases List.mem_append.mp hn with hn | hn
  · exact hnames n (hd.names.subset hn)
  · rw [List.mem_singleton.mp hn]
    decide

lemma nearest_onlyNearest {start : Option Path} {origin : Path}
    (h : files.resolve (start.getD files.cwd) = .ok origin) :
    OnlyNearest files origin (findFile.nearest files start) := by
  let tried (d : Path) : Except PathFault Bool := files.isFile (d.child fileName)
  have hsearch : findFile.nearest files start =
      (origin.selfAndParents.findM? tried).map (Option.map fun d => d.child fileName) := by
    rw [findFile.nearest, h]
    exact findM?_map _ _
  have hordered := origin.selfAndParents_pairwise
  have hasymm : ∀ d e : Path, e.names.length < d.names.length →
      ¬ d.names.length < e.names.length := fun _ _ => Nat.lt_asymm
  have hdeciding : ∀ answer dir, Deciding files origin answer dir ↔
      dir ∈ origin.selfAndParents ∧ tried dir = answer ∧
        ∀ d ∈ origin.selfAndParents, dir.names.length < d.names.length → tried d = .ok false := by
    intro answer dir
    simp only [Path.mem_selfAndParents]
    exact ⟨fun h => ⟨h.around, h.answers, h.nearer⟩, fun h => ⟨h.1, h.2.1, h.2.2⟩⟩
  have hfault : ∀ f, findFile.nearest files start = .error f ↔
      ∃ dir, Deciding files origin (.error f) dir := by
    intro f
    simp only [hdeciding]
    rw [hsearch, ← findM?_eq_error_iff hordered hasymm]
    cases origin.selfAndParents.findM? tried <;> simp [Except.map]
  refine ⟨fun p => ?_, ?_, hfault, fun hnames hpath => ?_⟩
  · rw [hsearch]
    simp only [hdeciding, map_eq_ok, Option.map_eq_some_iff]
    constructor
    · rintro ⟨_, hr, dir, rfl, rfl⟩
      exact ⟨dir, (findM?_eq_some_iff hordered hasymm).mp hr, rfl⟩
    · rintro ⟨dir, hdir, rfl⟩
      exact ⟨_, (findM?_eq_some_iff hordered hasymm).mpr hdir, dir, rfl, rfl⟩
  · simp only [← Path.mem_selfAndParents]
    rw [hsearch, map_eq_ok, ← findM?_eq_none_iff (f := tried)]
    simp only [Option.map_eq_none_iff, exists_eq_right]
  · cases hr : findFile.nearest files start with
    | ok found => exact ⟨found, rfl⟩
    | error f =>
      obtain ⟨dir, hdir⟩ := (hfault f).mp hr
      have habsolute : origin.anchor = "/" := by
        rw [eq_of_resolve h]
        rfl
      obtain ⟨found, hfound⟩ := exists_isFile_around habsolute hnames hpath hdir.around
      rw [hdir.answers] at hfound
      cases hfound

lemma exists_of_getD_ne {name? : Option String} (h : name?.getD "" ≠ "") :
    ∃ name, name? = some name ∧ name ≠ "" := by
  cases name? with
  | none => exact absurd rfl h
  | some name => exact ⟨name, rfl, h⟩

section Call

variable {env : Environment} {configPath : Option String} {root file : Option Path} {p : Path}

lemma findFile_of_named {name : String} (hname : Entries.get? env fileVariable = some name)
    (hne : name ≠ "") : findFile files env root = namedFile files name := by
  rw [findFile, hname]
  split
  · rename_i h
    exact absurd (Option.some.inj h) hne
  · rename_i h
    cases h
  · rename_i h
    rw [Option.some.inj h]

lemma findFile_of_empty (hempty : (Entries.get? env fileVariable).getD "" = "") :
    findFile files env root = findFile.nearest files root := by
  rw [findFile]
  split
  · rfl
  · rfl
  · rename_i name hne hname
    rw [hname] at hempty
    exact (hne hempty).elim

lemma fileFor_of_named {name : String} (hne : name ≠ "") :
    fileFor files env (some name) root = namedFile files name := by
  rw [fileFor]
  exact fun h => hne h

lemma fileFor_of_empty (hempty : configPath.getD "" = "") :
    fileFor files env configPath root = findFile files env root := by
  cases configPath with
  | none => rfl
  | some name =>
    obtain rfl : name = "" := hempty
    rfl

lemma proper_of_namedFile {name : String} (h : namedFile files name = .ok (some p)) :
    p.Proper := by
  rw [(((namedFile_onlyNamed files name).found p).mp h).1]
  exact Path.ofString_proper name

lemma proper_of_fileFor (hcwd : files.cwd.Proper) (hroot : ∀ r ∈ root, r.Proper)
    (h : fileFor files env configPath root = .ok (some p)) : p.Proper := by
  have hstart : (root.getD files.cwd).Proper := by
    cases root with
    | none => exact hcwd
    | some r => exact hroot r rfl
  by_cases hpath : configPath.getD "" = ""
  · rw [fileFor_of_empty hpath] at h
    by_cases hvariable : (Entries.get? env fileVariable).getD "" = ""
    · rw [findFile_of_empty hvariable] at h
      cases hresolve : files.resolve (root.getD files.cwd) with
      | error f =>
        rw [findFile.nearest, hresolve] at h
        cases h
      | ok origin =>
        obtain ⟨dir, hdir, rfl⟩ := ((nearest_onlyNearest hresolve).found p).mp h
        have horigin : origin.Proper := eq_of_resolve hresolve ▸ hcwd.resolve hstart
        exact (horigin.of_around hdir.around).child (by decide)
    · obtain ⟨name, hname, hne⟩ := exists_of_getD_ne hvariable
      rw [findFile_of_named hname hne] at h
      exact proper_of_namedFile h
  · obtain ⟨name, rfl, hne⟩ := exists_of_getD_ne hpath
    rw [fileFor_of_named hne] at h
    exact proper_of_namedFile h

/-- A call is about a file: its settings are made with what is written there, and its project is
around the file, or here if there is none, unless the call says where it is. -/
structure UsesFile (files : FileTree) (env : Environment) (configPath : Option String)
    (root : Option Path) (flags : Entries Datum) (file : Option Path) : Prop where
  settings : (fromCli files env configPath root flags none).1 =
    readTables files file >>= fun tables => ofSources (givenBy files root file flags) env tables
  project : ∀ s, (fromCli files env configPath root flags none).1 = .ok s →
    s.projectRoot = root.getD (file.elim files.cwd Path.parent)
  located : ∀ s, (fromCli files env configPath root flags none).1 = .ok s → s.configPath = file

lemma usesFile_of_fileFor (hcwd : files.cwd.Proper) (hroot : ∀ r ∈ root, r.Proper)
    (hfile : ∀ p ∈ file, p.Proper) (h : fileFor files env configPath root = .ok file)
    (flags : Entries Datum) : UsesFile files env configPath root flags file := by
  have hmade : (fromCli files env configPath root flags none).1 =
      readTables files file >>= fun tables =>
        ofSources (givenBy files root file flags) env tables := by
    rw [fromCli_eq, load_eq h]
  have hplace : (root.getD (file.elim files.cwd Path.parent)).Proper := by
    cases root with
    | some r => exact hroot r rfl
    | none =>
      cases file with
      | none => exact hcwd
      | some p => exact (hfile p rfl).parent
  have hkept : file.map (fun p => Path.ofString p.toText) = file := by
    cases file with
    | none => rfl
    | some p => exact congrArg some (Path.ofString_toText (hfile p rfl))
  refine ⟨hmade, fun s hs => ?_, fun s hs => ?_⟩
  all_goals
    rw [hmade] at hs
    obtain ⟨tables, -, hs⟩ := bind_eq_ok.mp hs
    obtain ⟨hproject, hpath⟩ := ofSources_paths hs
  · rw [hproject, Path.ofString_toText hplace]
  · rw [hpath, hkept]

end Call

/-- The variable names the only file that may be found, and without it the nearest one is found.
What keeps a search from its answer is only a path that cannot be looked for: one that is too long,
or has a name that is, or a place with a null character to start from. A call uses the file that is
found for it, or the one that it names itself. -/
theorem settings_file_nearest {files : FileTree} (hcwd : files.cwd.Proper) (env : Environment) :
    (∀ start name, Entries.get? env fileVariable = some name → name ≠ "" →
        OnlyNamed files (Path.ofString name) (findFile files env start)) ∧
      (∀ start origin, (Entries.get? env fileVariable).getD "" = "" →
        files.resolve (start.getD files.cwd) = .ok origin →
          OnlyNearest files origin (findFile files env start)) ∧
      (∀ start f, (Entries.get? env fileVariable).getD "" = "" →
        files.resolve (start.getD files.cwd) = .error f → findFile files env start = .error f) ∧
      (∀ p d, files.locate p = .ok (some d) → files.file? d = some .directory →
        files.isFile p = .ok false) ∧
      (∀ configPath root, configPath.getD "" = "" →
        fileFor files env configPath root = findFile files env root) ∧
      (∀ name root, name ≠ "" →
        OnlyNamed files (Path.ofString name) (fileFor files env (some name) root)) ∧
      ∀ configPath root flags, (∀ r ∈ root, r.Proper) →
        (∀ file, fileFor files env configPath root = .ok file →
          UsesFile files env configPath root flags file) ∧
        ∀ f, fileFor files env configPath root = .error f →
          (fromCli files env configPath root flags none).1 = .error (.badPath f) := by
  refine ⟨fun start name hname hne => ?_, fun start origin hempty horigin => ?_,
    fun start f hempty hf => ?_, fun _ _ => FileTree.isFile_of_directory,
    fun _ _ => fileFor_of_empty, fun name root hne => ?_,
    fun configPath root flags hroot => ⟨fun file hfile => ?_, fun f hf => ?_⟩⟩
  · rw [findFile_of_named hname hne]
    exact namedFile_onlyNamed files name
  · rw [findFile_of_empty hempty]
    exact nearest_onlyNearest horigin
  · rw [findFile_of_empty hempty, findFile.nearest, hf]
    rfl
  · rw [fileFor_of_named hne]
    exact namedFile_onlyNamed files name
  · refine usesFile_of_fileFor hcwd hroot ?_ hfile flags
    rintro p rfl
    exact proper_of_fileFor hcwd hroot hfile
  · rw [fromCli_eq, load, hf]
    rfl

def nestedTree : FileTree :=
  ⟨⟨"/", ["w", "a", "b"]⟩,
    [(⟨"/", ["w", "linecmd.toml"]⟩, .text ""), (⟨"/", ["w", "a", "linecmd.toml"]⟩, .directory)]⟩

def nestedEnvironment : Environment := [("LINECMD_CONFIG", "")]

lemma nested_made (root file : Option Path) :
    ∃ s, ofSources (givenBy nestedTree root file []) nestedEnvironment [] = .ok s := by
  have henv : nestedEnvironment.Plain := by decide +kernel
  have htables : HasTables [] := fun _ _ _ hd => by cases hd
  have hnodup : Entries.keys ([] : Entries Datum) |>.Nodup := List.nodup_nil
  have hflags : Entries.keys ([] : Entries Datum) ⊆ flagKeys := List.nil_subset flagKeys
  have hknown : Entries.keys ([] : Entries Datum) ⊆ keys := List.nil_subset keys
  have hfails := exists_ofSources_error_iff nestedTree root file henv hnodup hflags htables hknown
  have hsettled : ∀ l : Leaf, (l.settle? (l.chosen [] nestedEnvironment [])).isSome = true := by
    intro l
    cases l <;> decide +kernel
  cases hmade : ofSources (givenBy nestedTree root file []) nestedEnvironment [] with
  | ok s => exact ⟨s, rfl⟩
  | error f =>
    obtain ⟨l, hl⟩ := hfails.mp ⟨f, hmade⟩
    have hsome := hsettled l
    rw [hl] at hsome
    cases hsome

theorem nested_settings_file :
    nestedTree.cwd.Proper ∧
      findFile nestedTree nestedEnvironment none = .ok (some ⟨"/", ["w", "linecmd.toml"]⟩) ∧
      (∃ s, (fromCli nestedTree nestedEnvironment none none [] none).1 = .ok s ∧
        s.projectRoot = ⟨"/", ["w"]⟩) ∧
      ∃ s, (fromCli nestedTree nestedEnvironment (some "absent.toml") none [] none).1 = .ok s ∧
        s.projectRoot = nestedTree.cwd ∧ s.configPath = none := by
  have hcwd : nestedTree.cwd.Proper := ⟨by decide, by decide⟩
  obtain ⟨-, hnearest, -, -, hfile, hnamed, hcall⟩ := settings_file_nearest hcwd nestedEnvironment
  have horigin : nestedTree.resolve nestedTree.cwd = .ok nestedTree.cwd := by cbv
  have hdeciding : Deciding nestedTree nestedTree.cwd (.ok true) ⟨"/", ["w"]⟩ := by
    refine ⟨⟨rfl, by decide⟩, by cbv, fun d hd hlonger => ?_⟩
    rw [← Path.mem_selfAndParents] at hd
    have hall : nestedTree.cwd.selfAndParents =
        [⟨"/", ["w", "a", "b"]⟩, ⟨"/", ["w", "a"]⟩, ⟨"/", ["w"]⟩, ⟨"/", []⟩] := by decide
    rw [hall] at hd
    simp only [List.mem_cons, List.not_mem_nil, or_false] at hd
    rcases hd with rfl | rfl | rfl | rfl
    · cbv
    · cbv
    · exact absurd hlonger (by decide)
    · exact absurd hlonger (by decide)
  have hfound : findFile nestedTree nestedEnvironment none =
      .ok (some ⟨"/", ["w", "linecmd.toml"]⟩) :=
    ((hnearest none nestedTree.cwd rfl horigin).found _).mpr ⟨_, hdeciding, rfl⟩
  have habsent : nestedTree.isFile (Path.ofString "absent.toml") = .ok false := by cbv
  have hmissed : fileFor nestedTree nestedEnvironment (some "absent.toml") none = .ok none :=
    (hnamed "absent.toml" none (by decide)).missed.mpr habsent
  obtain ⟨hcalled, -⟩ := hcall none none [] (by rintro r ⟨⟩)
  obtain ⟨hrefused, -⟩ := hcall (some "absent.toml") none [] (by rintro r ⟨⟩)
  have hcalled := hcalled _ ((hfile none none rfl).trans hfound)
  have hrefused := hrefused none hmissed
  have hread : readTables nestedTree (some ⟨"/", ["w", "linecmd.toml"]⟩) = .ok [] := by cbv
  refine ⟨hcwd, hfound, ?_, ?_⟩
  · obtain ⟨s, hs⟩ := nested_made none (some ⟨"/", ["w", "linecmd.toml"]⟩)
    have hmade := hcalled.settings
    rw [hread] at hmade
    exact ⟨s, hmade.trans hs, hcalled.project s (hmade.trans hs)⟩
  · obtain ⟨s, hs⟩ := nested_made none none
    have hmade := hrefused.settings.trans hs
    exact ⟨s, hmade, hrefused.project s hmade, hrefused.located s hmade⟩

def endlessName : String :=
  String.ofList (List.replicate 256 'x')

/-- A name that is too long for a file is not just missed. -/
theorem endless_name_fails :
    ¬ ∃ found, findFile .empty [("LINECMD_CONFIG", endlessName)] none = .ok found := by
  have hlist : endlessName.toList = List.replicate 256 'x' := String.toList_ofList
  have hchars : ∀ c ∈ endlessName.toList, c = 'x' := by
    rw [hlist]
    exact fun c => List.eq_of_mem_replicate
  have hsome : endlessName ≠ "" := by decide +kernel
  have hpath : Path.ofString endlessName = ⟨"", [endlessName]⟩ := by
    have hproper : Path.Proper ⟨"", [endlessName]⟩ := by
      refine ⟨by decide, List.forall_mem_singleton.mpr ⟨hsome, by decide +kernel, fun h => ?_⟩⟩
      exact absurd (hchars '/' h) (by decide)
    have htext : Path.toText ⟨"", [endlessName]⟩ = endlessName := by
      rw [Path.toText, if_neg (by simp), String.intercalate_singleton, String.empty_append]
    rw [← Path.ofString_toText hproper, htext]
  have hnull : Path.hasNull ⟨"", [endlessName]⟩ = false := by
    rw [Path.hasNull, List.any_cons, List.any_nil, String.contains_char_eq, Bool.or_false]
    exact decide_eq_false fun h => absurd (hchars _ h) (by decide)
  have hlength : (Path.toText ⟨"", [endlessName]⟩).utf8ByteSize = 256 := by decide +kernel
  have hblocked : FileTree.empty.follow []
      (FileTree.empty.cwd.append ⟨"", [endlessName]⟩).names = .blocked := by decide +kernel
  have hfault : FileTree.empty.isFile (Path.ofString endlessName) =
      .error (.tooLong ⟨"", [endlessName]⟩) := by
    rw [hpath, FileTree.isFile, FileTree.locate, hnull, hlength, hblocked]
    rfl
  rintro ⟨found, hfound⟩
  rw [findFile_of_named rfl hsome,
    ((namedFile_onlyNamed .empty endlessName).fault _).mpr hfault] at hfound
  cases hfound

end Settings

end LineShell
