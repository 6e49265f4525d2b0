import LineShell.Proofs.Files
import LineShell.Proofs.Plugins.LocalNames

/-! Discovery does not depend on what cannot contribute. What is registered depends on the classes
that make plugins, which are gone through in the order of their files and their names, and none is
left to register for a second discovery. -/

namespace LineShell

section Sorting

variable {α : Type} {le : α → α → Bool}
  (trans : ∀ a b c, le a b = true → le b c = true → le a c = true)
  (total : ∀ a b, (le a b || le b a) = true)

include trans total

lemma mergeSort_cons_eq (a : α) (l : List α) :
    (a :: l).mergeSort le =
        (l.mergeSort le).filter (fun b => !le a b) ++ a :: (l.mergeSort le).filter (le a) ∧
      l.mergeSort le =
        (l.mergeSort le).filter (fun b => !le a b) ++ (l.mergeSort le).filter (le a) := by
  obtain ⟨l₁, l₂, hal, hl, hbefore⟩ := List.mergeSort_cons trans total a l
  have hsorted := List.pairwise_mergeSort trans total (a :: l)
  rw [hal, List.pairwise_append, List.pairwise_cons] at hsorted
  have hafter : ∀ b ∈ l₂, le a b = true := hsorted.2.1.1
  have hnone₁ : l₁.filter (le a) = [] := by
    rw [List.filter_eq_nil_iff]
    exact fun b hb => by simpa using hbefore b hb
  have hnone₂ : l₂.filter (fun b => !le a b) = [] := by
    rw [List.filter_eq_nil_iff]
    exact fun b hb => by simpa using hafter b hb
  rw [hal, hl, List.filter_append, List.filter_append, hnone₁, hnone₂,
    List.filter_eq_self.mpr hbefore, List.filter_eq_self.mpr hafter, List.append_nil,
    List.nil_append]
  exact ⟨rfl, rfl⟩

lemma filter_mergeSort (p : α → Bool) (l : List α) :
    (l.mergeSort le).filter p = (l.filter p).mergeSort le := by
  induction l with
  | nil => simp
  | cons a l ih =>
    obtain ⟨hput, hsplit⟩ := mergeSort_cons_eq trans total a (l.filter p)
    rw [(mergeSort_cons_eq trans total a l).1, List.filter_append, List.filter_comm,
      List.filter_cons, List.filter_cons, List.filter_comm p (le a), ih]
    split
    · exact hput.symm
    · exact hsplit.symm

end Sorting

def sortedBy {α : Type} (key : α → String) (l : List α) : List α :=
  l.mergeSort fun a b => !(key b < key a)

section SortedBy

variable {α : Type} (key : α → String)

lemma notAfter_trans (a b c : α) (hab : (!decide (key b < key a)) = true)
    (hbc : (!decide (key c < key b)) = true) : (!decide (key c < key a)) = true := by
  simp only [Bool.not_eq_true', decide_eq_false_iff_not, not_lt] at hab hbc ⊢
  exact hab.trans hbc

lemma notAfter_total (a b : α) :
    (!decide (key b < key a) || !decide (key a < key b)) = true := by
  simp only [Bool.or_eq_true, Bool.not_eq_true', decide_eq_false_iff_not, not_lt]
  exact le_total (key a) (key b)

lemma sortedBy_perm (l : List α) : (sortedBy key l).Perm l :=
  List.mergeSort_perm l _

lemma sortedBy_pairwise (l : List α) : (sortedBy key l).Pairwise fun a b => key a ≤ key b := by
  refine (List.pairwise_mergeSort (notAfter_trans key) (notAfter_total key) l).imp fun h => ?_
  rwa [Bool.not_eq_true', decide_eq_false_iff_not, not_lt] at h

lemma filter_sortedBy (p : α → Bool) (l : List α) :
    (sortedBy key l).filter p = sortedBy key (l.filter p) :=
  filter_mergeSort (notAfter_trans key) (notAfter_total key) p l

end SortedBy

lemma sortedBy_id_congr {l l' : List String} (h : l.Perm l') : sortedBy id l = sortedBy id l' :=
  ((sortedBy_perm id l).trans (h.trans (sortedBy_perm id l').symm)).eq_of_pairwise
    (fun _ _ _ _ => le_antisymm) (sortedBy_pairwise id l) (sortedBy_pairwise id l')

def FileEntry.makesNothing : FileEntry → Prop
  | .program (some classes) => ∀ c ∈ classes, c.isEligible = false
  | _ => True

namespace PluginManager

variable {m : PluginManager} {files files' : FileTree} {dir : Path}

def eligibleClasses (files : FileTree) (dir : Path) (file : String) : List ProgramClass :=
  if file ∈ localNames files dir then
    ((files.program? (dir.child file)).getD []).filter ProgramClass.isEligible
  else []

def objectsOf (file : String) (classes : List ProgramClass) : List (String × Plugin) :=
  (sortedBy (·.plugin.className) classes).map fun c =>
    (localName file, { c.plugin with isClass := false })

lemma offeredBy_child {file : String} (h : file ∈ localNames files dir) :
    offeredBy files (dir.child file) = objectsOf file (eligibleClasses files dir file) := by
  rw [offeredBy, eligibleClasses, if_pos h, objectsOf, ← filter_sortedBy]
  cases files.program? (dir.child file) with
  | none => simp [sortedBy]
  | some classes =>
    rw [Option.elim_some, Path.name_child, localClasses]
    exact filterMap_instantiate (localName file) (sortedBy (·.plugin.className) classes)

lemma flatMap_nonempty {α β : Type} (f : α → List β) (l : List α) :
    l.flatMap f = (l.filter fun a => !(f a).isEmpty).flatMap f := by
  induction l with
  | nil => rfl
  | cons a l ih =>
    rw [List.flatMap_cons, List.filter_cons, ih]
    cases hf : f a with
    | nil => rfl
    | cons b bs => simp [hf]

lemma offeredIn_eq (files : FileTree) (dir : Path) :
    offeredIn files dir =
      (sortedBy id (localNames files dir)).flatMap
        fun file => objectsOf file (eligibleClasses files dir file) := by
  rw [offeredIn, localFiles, List.flatMap_map]
  apply List.flatMap_congr
  intro file hfile
  exact offeredBy_child (List.mem_mergeSort.mp hfile)

lemma offeredIn_congr
    (h : ∀ file, eligibleClasses files' dir file = eligibleClasses files dir file) :
    offeredIn files' dir = offeredIn files dir := by
  have hempty : ∀ file, (objectsOf file (eligibleClasses files dir file)).isEmpty =
      (eligibleClasses files dir file).isEmpty := fun file => by
    rw [objectsOf, List.isEmpty_map, (sortedBy_perm _ _).isEmpty_eq]
  have hmem : ∀ (t : FileTree) file, !(eligibleClasses t dir file).isEmpty →
      file ∈ localNames t dir := by
    intro t file hne
    by_contra hnot
    rw [eligibleClasses, if_neg hnot] at hne
    cases hne
  have hnodup : ∀ t : FileTree, (localNames t dir).Nodup := fun t => (nodup_children t dir).filter _
  -- Files that make no plugin are left out, and then both directories have the same files.
  have hperm : ((localNames files' dir).filter
      fun file => !(eligibleClasses files dir file).isEmpty).Perm
        ((localNames files dir).filter fun file => !(eligibleClasses files dir file).isEmpty) := by
    rw [List.perm_ext_iff_of_nodup ((hnodup _).filter _) ((hnodup _).filter _)]
    intro file
    rw [List.mem_filter, List.mem_filter]
    exact and_congr_left fun hne => ⟨fun _ => hmem files file hne,
      fun _ => hmem files' file (by rw [h]; exact hne)⟩
  rw [offeredIn_eq, offeredIn_eq]
  simp only [h]
  rw [flatMap_nonempty, flatMap_nonempty _ (sortedBy id (localNames files dir)), filter_sortedBy,
    filter_sortedBy]
  simp only [hempty]
  rw [sortedBy_id_congr hperm]

/-- An entry that is put into the directory at a place, or into a new directory there, under a name
that is new, and that makes no plugin if it is looked at. -/
def IdleEntry (files : FileTree) (dir d : Path) (e : Path × FileEntry) : Prop :=
  ∃ name rest, e.1.names = d.names ++ name :: rest ∧ name ∉ files.children dir ∧
    (isLocalPlugin name = true → rest = [] → e.2.makesNothing)

lemma filter_program?_eq_nil {file : Path}
    (h : ∀ entry, (files.locate? file).bind files.file? = some entry → entry.makesNothing) :
    ((files.program? file).getD []).filter ProgramClass.isEligible = [] := by
  rw [FileTree.program?]
  cases hentry : (files.locate? file).bind files.file? with
  | none => rfl
  | some entry =>
    cases entry with
    | text content =>
      dsimp only
      split <;> rfl
    | directory => rfl
    | program classes =>
      cases classes with
      | none => rfl
      | some classes =>
        rw [Option.getD_some, List.filter_eq_nil_iff]
        intro c hc
        rw [h _ hentry c hc]
        exact Bool.false_ne_true

lemma ne_up_of_isLocalPlugin {file : String} (h : isLocalPlugin file = true) : file ≠ ".." := by
  rintro rfl
  exact absurd h (by decide)

section Added

variable {d : Path} (hd : files.locate? dir = some d) (hdirectory : files.isDirectoryAt d = true)
  {added : List (Path × FileEntry)} (hidle : ∀ e ∈ added, IdleEntry files dir d e)

include hd hdirectory hidle

lemma eligibleClasses_add_of_old {file : String} (hold : file ∈ localNames files dir) :
    eligibleClasses (files.add added) dir file = eligibleClasses files dir file := by
  obtain ⟨hchild, hlocal⟩ := List.mem_filter.mp hold
  have hadded : file ∈ localNames (files.add added) dir :=
    List.mem_filter.mpr ⟨(FileTree.mem_children_add_iff hd hdirectory).mpr (.inl hchild), hlocal⟩
  have hnone : added.find? (fun e => e.1.names == (d.child file).names) = none := by
    rw [List.find?_eq_none]
    intro e he heq
    obtain ⟨name, rest, hnames, hnew, -⟩ := hidle e he
    rw [beq_iff_eq, hnames, Path.child, List.append_cancel_left_eq, List.cons.injEq] at heq
    exact hnew (heq.1 ▸ hchild)
  have hfound : (files.locate? (dir.child file)).bind (fun _ => files.file? (d.child file)) =
      (files.locate? (dir.child file)).bind files.file? := by
    cases hf : files.locate? (dir.child file) with
    | none => rfl
    | some f =>
      obtain ⟨-, -, -, rfl⟩ :=
        (FileTree.locate?_child hd hdirectory (ne_up_of_isLocalPlugin hlocal) f).mp hf
      rfl
  rw [eligibleClasses, eligibleClasses, if_pos hadded, if_pos hold, FileTree.program?,
    FileTree.bind_file?_child_add hd hdirectory (ne_up_of_isLocalPlugin hlocal), hnone,
    FileTree.program?, ← hfound]
  simp only [Option.map_none, Option.or_none]

lemma eligibleClasses_add_of_new {file : String} (hnew : file ∉ localNames files dir) :
    eligibleClasses (files.add added) dir file = [] := by
  rw [eligibleClasses]
  split
  · rename_i hfile
    have hlocal : isLocalPlugin file = true := (List.mem_filter.mp hfile).2
    have hchild : file ∉ files.children dir := fun h => hnew (List.mem_filter.mpr ⟨h, hlocal⟩)
    apply filter_program?_eq_nil
    intro entry hentry
    rw [FileTree.bind_file?_child_add hd hdirectory (ne_up_of_isLocalPlugin hlocal),
      FileTree.file?_of_not_mem hd hdirectory hchild, Option.none_or,
      Option.bind_eq_some_iff] at hentry
    obtain ⟨-, -, hentry⟩ := hentry
    obtain ⟨e, he, rfl⟩ := Option.map_eq_some_iff.mp hentry
    obtain ⟨name, rest, hnames, -, hnothing⟩ := hidle e (List.mem_of_find?_eq_some he)
    have heq : e.1.names = d.names ++ [file] := by simpa [Path.child] using List.find?_some he
    rw [hnames, List.append_cancel_left_eq, List.cons.injEq] at heq
    exact hnothing (heq.1 ▸ hlocal) heq.2
  · rfl

lemma eligibleClasses_add (file : String) :
    eligibleClasses (files.add added) dir file = eligibleClasses files dir file := by
  by_cases hold : file ∈ localNames files dir
  · exact eligibleClasses_add_of_old hd hdirectory hidle hold
  · rw [eligibleClasses_add_of_new hd hdirectory hidle hold, eligibleClasses, if_neg hold]

end Added

lemma isDirectory_of_locate? {d : Path} (hd : files.locate? dir = some d) :
    ∃ found, files.isDirectory dir = .ok found := by
  rw [FileTree.locate?] at hd
  rw [FileTree.isDirectory]
  cases hl : files.locate dir with
  | error fault =>
    rw [hl] at hd
    cases hd
  | ok found => exact ⟨_, rfl⟩

lemma exists_fresh {g : String → List (String × Plugin)}
    (hg : ∀ file, ∀ e ∈ g file, e.1 = localName file) {paths : List String}
    {new : Entries Plugin} (hsublist : new.Sublist (paths.flatMap g)) (hnodup : new.keys.Nodup) :
    ∃ fresh : List String, fresh.Sublist paths ∧ new.keys = fresh.map localName := by
  induction paths generalizing new with
  | nil =>
    rw [List.flatMap_nil, List.sublist_nil] at hsublist
    exact ⟨[], List.Sublist.slnil, by rw [hsublist]; rfl⟩
  | cons file paths ih =>
    rw [List.flatMap_cons, List.sublist_append_iff] at hsublist
    obtain ⟨first, rest, rfl, hfirst, hrest⟩ := hsublist
    rw [Entries.keys, List.map_append, List.nodup_append] at hnodup
    obtain ⟨fresh, hfresh, hkeys⟩ := ih hrest hnodup.2.1
    rw [Entries.keys, List.map_append]
    cases first with
    | nil => exact ⟨fresh, hfresh.cons file, hkeys⟩
    | cons e first =>
      have hname : ∀ e' ∈ e :: first, e'.1 = localName file :=
        fun e' he' => hg file e' (hfirst.subset he')
      cases first with
      | nil =>
        refine ⟨file :: fresh, hfresh.cons_cons file, ?_⟩
        exact congrArg₂ List.cons (hname e List.mem_cons_self) hkeys
      | cons e' first =>
        have htwice : e.1 = e'.1 := by
          rw [hname e (by simp), hname e' (by simp)]
        simp [htwice] at hnodup

lemma fst_of_mem_objectsOf {file : String} {classes : List ProgramClass} {e : String × Plugin}
    (h : e ∈ objectsOf file classes) : e.1 = localName file ∧ e.2.isClass = false := by
  obtain ⟨c, -, rfl⟩ := List.mem_map.mp h
  exact ⟨rfl, rfl⟩

lemma exists_fresh_names (files : FileTree) (dir : Path) (m : PluginManager) (log : List String) :
    ∃ fresh : List String, fresh.Pairwise (· < ·) ∧ fresh ⊆ localNames files dir ∧
      (m.discover files (some dir) log).1.1.names =
        (m.discover files none log).1.1.names ++ fresh.map localName := by
  obtain ⟨new, hnew, hentries⟩ := exists_discovered files dir m log
  have hsublist := hnew.sublist
  rw [offeredIn_eq] at hsublist
  obtain ⟨fresh, hfresh, hkeys⟩ :=
    exists_fresh (fun _ _ he => (fst_of_mem_objectsOf he).1) hsublist hnew.nodup
  have hnodup : fresh.Nodup :=
    ((sortedBy_perm id _).nodup_iff.mpr ((nodup_children files dir).filter _)).sublist hfresh
  refine ⟨fresh, ?_, fun file hfile => (sortedBy_perm id _).subset (hfresh.subset hfile), ?_⟩
  · refine (((sortedBy_pairwise id _).sublist hfresh).and hnodup).imp fun h => ?_
    exact lt_of_le_of_ne h.1 h.2
  · rw [names, hentries, Entries.keys, List.map_append, discover_none_fst]
    exact congrArg (m.converted.names ++ ·) hkeys

lemma discover_again (files : FileTree) (dir : Path) (m : PluginManager) (log log' : List String) :
    ((m.discover files (some dir) log).1.1.discover files (some dir) log').1 =
      (m.discover files (some dir) log).1 := by
  obtain ⟨new, hnew, hall⟩ := exists_enlistAll m.converted (offeredIn files dir)
  have hplain : ∀ e ∈ m.converted.entries ++ new, e.2.isRaw = false := by
    intro e he
    rcases List.mem_append.mp he with hold | hfresh
    · exact isRaw_converted hold
    · have hoffer := hnew.sublist.subset hfresh
      rw [offeredIn_eq, List.mem_flatMap] at hoffer
      obtain ⟨file, -, hobject⟩ := hoffer
      rw [Plugin.isRaw, (fst_of_mem_objectsOf hobject).2, Bool.false_and]
  rw [discover_fst, discover_fst]
  cases files.isDirectory dir with
  | error fault =>
    exact congrArg (·, some fault) (convert_eq_self fun e he => isRaw_converted he)
  | ok found =>
    dsimp only
    rw [hall, converted, convert_eq_self hplain, enlistAll_of_settled]
    intro e he
    rw [names, Entries.keys, List.map_append, List.mem_append]
    exact hnew.complete e he

def Alike (m m' : PluginManager) : Prop :=
  m.names = m'.names ∧ (∀ types, m.loadTypes types = m'.loadTypes types) ∧
    ∀ r, m.loadCommands r = m'.loadCommands r

section Unchanged

variable (m : PluginManager) (log log' : List String)

lemma discover_fault_iff (files : FileTree) (dir : Path) :
    (m.discover files (some dir) log).1.2 = none ↔
      ∃ found, files.isDirectory dir = .ok found := by
  rw [discover_fst]
  cases files.isDirectory dir <;> simp

lemma discover_alike {files' : FileTree}
    (h : ∀ file, eligibleClasses files' dir file = eligibleClasses files dir file) :
    (m.discover files' (some dir) log').1.1.Alike (m.discover files (some dir) log).1.1 := by
  have hentries : (m.discover files' (some dir) log').1.1.entries =
      (m.discover files (some dir) log).1.1.entries := by
    rw [entries_discover, entries_discover, offeredIn_congr h]
  refine ⟨congrArg Entries.keys hentries, fun types => ?_, fun r => ?_⟩
  · rw [loadTypes, loadTypes, hentries]
  · rw [loadCommands, loadCommands, hentries]

lemma discover_add {d : Path} {added : List (Path × FileEntry)}
    (hd : files.locate? dir = some d) (hdirectory : files.isDirectoryAt d = true)
    (hidle : ∀ e ∈ added, IdleEntry files dir d e) :
    (m.discover (files.add added) (some dir) log').1 = (m.discover files (some dir) log).1 := by
  obtain ⟨found, hfound⟩ := isDirectory_of_locate? hd
  have hadded : (files.add added).locate? dir = some d := FileTree.locate?_add hd
  obtain ⟨found', hfound'⟩ := isDirectory_of_locate? hadded
  rw [discover_fst, discover_fst, hfound, hfound',
    offeredIn_congr (eligibleClasses_add hd hdirectory hidle)]

end Unchanged

/-- Discovery fails only where the directory cannot be looked for, which takes a name or a path that
is too long. Otherwise what cannot contribute makes no difference. -/
theorem discover_isolated (files : FileTree) (dir : Path) (m : PluginManager)
    (log log' : List String) :
    ((m.discover files (some dir) log).1.2 = none ↔
        ∃ found, files.isDirectory dir = .ok found) ∧
      ((∀ n ∈ (files.cwd.append dir).names, n.utf8ByteSize ≤ FileTree.nameLimit) →
        dir.toText.utf8ByteSize ≤ FileTree.pathLimit →
          (m.discover files (some dir) log).1.2 = none) ∧
      (∀ files', (∀ file, eligibleClasses files' dir file = eligibleClasses files dir file) →
        (m.discover files' (some dir) log').1.1.Alike (m.discover files (some dir) log).1.1) ∧
      (∀ d added, files.locate? dir = some d → files.isDirectoryAt d = true →
        (∀ e ∈ added, IdleEntry files dir d e) →
          (m.discover (files.add added) (some dir) log').1 =
            (m.discover files (some dir) log).1) ∧
      (∃ fresh : List String, fresh.Pairwise (· < ·) ∧ fresh ⊆ localNames files dir ∧
        (m.discover files (some dir) log).1.1.names =
          (m.discover files none log).1.1.names ++ fresh.map localName) ∧
      ((m.discover files (some dir) log).1.1.discover files (some dir) log').1 =
        (m.discover files (some dir) log).1 := by
  have hfault := discover_fault_iff m log files dir
  refine ⟨hfault, fun hnames hpath => ?_, fun _ => discover_alike m log log',
    fun _ _ => discover_add m log log', exists_fresh_names files dir m log,
    discover_again files dir m log log'⟩
  obtain ⟨found, hfound⟩ := FileTree.exists_locate hnames hpath
  exact hfault.mpr ⟨_, by rw [FileTree.isDirectory, hfound]; rfl⟩

def tidy : FileTree :=
  shelf [("b.py", [idleClass 1])]

def patched : FileTree :=
  shelf [("b.py",
    [⟨true, { (idleClass 4).plugin with startup := some (.raised "ValueError" "") }⟩, idleClass 1])]

def clutter : List (Path × FileEntry) :=
  [(⟨"/", ["p", "broken.py"]⟩, .program none),
    (⟨"/", ["p", "_c.py"]⟩, .program (some [idleClass 2])),
    (⟨"/", ["p", "d.py", "e.py"]⟩, .program (some [idleClass 3]))]

theorem discover_isolated_cluttered :
    let found := (empty []).discover tidy (some ⟨"", ["p"]⟩) []
    found.1.2 = none ∧
      ((empty []).discover patched (some ⟨"", ["p"]⟩) []).1.1.Alike found.1.1 ∧
      ((empty []).discover (tidy.add clutter) (some ⟨"", ["p"]⟩) []).1 = found.1 := by
  have hlocate : tidy.locate? ⟨"", ["p"]⟩ = some ⟨"/", ["p"]⟩ := by cbv
  have hdirectory : tidy.isDirectoryAt ⟨"/", ["p"]⟩ = true := by cbv
  have hchildren : tidy.children ⟨"", ["p"]⟩ = ["b.py"] := by cbv
  have hclasses : ∀ file, eligibleClasses patched ⟨"", ["p"]⟩ file =
      eligibleClasses tidy ⟨"", ["p"]⟩ file := by
    have hnames : localNames patched ⟨"", ["p"]⟩ = localNames tidy ⟨"", ["p"]⟩ := by cbv
    have hnames' : localNames tidy ⟨"", ["p"]⟩ = ["b.py"] := by cbv
    intro file
    simp only [eligibleClasses, hnames, hnames', List.mem_singleton]
    split
    · rename_i hfile
      subst hfile
      cbv
    · rfl
  have hidle : ∀ e ∈ clutter, IdleEntry tidy ⟨"", ["p"]⟩ ⟨"/", ["p"]⟩ e := by
    rw [clutter, List.forall_mem_cons, List.forall_mem_cons, List.forall_mem_singleton]
    simp only [IdleEntry, hchildren]
    refine ⟨⟨"broken.py", [], rfl, by decide, fun _ _ => trivial⟩,
      ⟨"_c.py", [], rfl, by decide, fun h => ?_⟩, ⟨"d.py", ["e.py"], rfl, by decide, fun _ h => ?_⟩⟩
    · have hhidden : isLocalPlugin "_c.py" = false := by cbv
      rw [hhidden] at h
      cases h
    · cases h
  have h := discover_isolated tidy ⟨"", ["p"]⟩ (empty []) [] []
  exact ⟨h.2.1 (by decide) (by decide), h.2.2.1 patched hclasses,
    h.2.2.2.1 _ _ hlocate hdirectory hidle⟩

def longName : String :=
  String.ofList (List.replicate 256 'x')

theorem discover_too_long :
    ((empty []).discover FileTree.empty (some ⟨"", [longName]⟩) []).1.2 ≠ none := by
  have hlist : longName.toList = List.replicate 256 'x' := String.toList_ofList
  have hchars : Char.ofNat 0 ∉ longName.toList := by
    intro h
    rw [hlist] at h
    exact absurd (List.eq_of_mem_replicate h) (by decide)
  have hnull : Path.hasNull ⟨"", [longName]⟩ = false := by
    rw [Path.hasNull, List.any_cons, List.any_nil, String.contains_char_eq, Bool.or_false]
    exact decide_eq_false hchars
  have hlength : (Path.toText ⟨"", [longName]⟩).utf8ByteSize = 256 := by decide +kernel
  have hblocked : FileTree.empty.follow []
      (FileTree.empty.cwd.append ⟨"", [longName]⟩).names = .blocked := by decide +kernel
  have hdirectory : FileTree.empty.isDirectory ⟨"", [longName]⟩ =
      .error (.tooLong ⟨"", [longName]⟩) := by
    rw [FileTree.isDirectory, FileTree.locate, hnull, hlength, hblocked]
    rfl
  rw [discover_fst, hdirectory]
  exact Option.some_ne_none _

end PluginManager

end LineShell
