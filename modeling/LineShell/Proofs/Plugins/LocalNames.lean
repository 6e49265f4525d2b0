import LineShell.Proofs.Plugins.Enlisting

/-! The names of local plugins. All objects of a file have one name, and so have those of the files
`.py` and `.py.py`, which have the same stem. Of plugins with one name the first is registered. -/

namespace LineShell

lemma Path.stemOf_append_py (s : String) :
    stemOf (s ++ ".py") = if s = "" then ".py" else s := by
  have hending : (s ++ ".py").toList.reverse.takeWhile (· != '.') = ['y', 'p'] := by
    simp [String.toList_append]
  have hlength : (s ++ ".py").length = s.length + 3 := by
    rw [String.length_append]
    rfl
  have hrest : (s ++ ".py").toList.take (s.length + 3 - ['y', 'p'].length - 1) = s.toList := by
    simp [String.toList_append, ← String.length_toList]
  simp only [stemOf, hending, hlength, hrest]
  by_cases hs : s = "" <;> simp [hs]

lemma Path.name_child (dir : Path) (file : String) : (dir.child file).name = file := by
  simp [name, child]

def ProgramClass.isEligible (c : ProgramClass) : Bool :=
  c.isOwn && c.plugin.hasHooks && c.plugin.startup.isNone

namespace PluginManager

variable {m : PluginManager} {files : FileTree} {dir : Path}

lemma exists_of_isLocalPlugin {file : String} (h : isLocalPlugin file = true) :
    ∃ s, file = s ++ ".py" := by
  rw [isLocalPlugin, Bool.and_eq_true, ← String.endsWith_toSlice,
    String.Slice.endsWith_string_iff, String.copy_toSlice] at h
  obtain ⟨start, hstart⟩ := h.1
  refine ⟨String.ofList start, String.toList_inj.mp ?_⟩
  rw [String.toList_append, String.toList_ofList, hstart]

lemma localName_eq_iff {a b : String} (ha : isLocalPlugin a = true) (hb : isLocalPlugin b = true) :
    localName a = localName b ↔
      a = b ∨ a = ".py" ∧ b = ".py.py" ∨ a = ".py.py" ∧ b = ".py" := by
  obtain ⟨s, rfl⟩ := exists_of_isLocalPlugin ha
  obtain ⟨t, rfl⟩ := exists_of_isLocalPlugin hb
  have hempty : ∀ u : String, u ++ ".py" = ".py" ↔ u = "" :=
    fun u => @String.append_left_inj u "" ".py"
  have hdouble : ∀ u : String, u ++ ".py" = ".py.py" ↔ u = ".py" :=
    fun u => @String.append_left_inj u ".py" ".py"
  rw [localName, localName, String.append_right_inj, String.append_left_inj, hempty, hempty,
    hdouble, hdouble, Path.stemOf_append_py, Path.stemOf_append_py]
  -- A text without a stem of its own is its own stem, which is also that of its double.
  by_cases hs : s = ""
  · by_cases ht : t = ""
    · simp [hs, ht]
    · simp only [hs, ht, Ne.symm ht, if_true, if_false, true_and, and_false, false_or, or_false]
      exact eq_comm
  · by_cases ht : t = ""
    · simp [hs, ht]
    · simp [hs, ht]

def localNames (files : FileTree) (dir : Path) : List String :=
  (files.children dir).filter isLocalPlugin

/-- The objects that the classes of a file make, in the order of its classes. -/
def eligibleOf (files : FileTree) (file : Path) : List (String × Plugin) :=
  (((files.program? file).getD []).filter ProgramClass.isEligible).map fun c =>
    (localName file.name, { c.plugin with isClass := false })

def eligible (files : FileTree) (dir : Path) : List (String × Plugin) :=
  (localNames files dir).flatMap fun file => eligibleOf files (dir.child file)

lemma filterMap_instantiate (name : String) (classes : List ProgramClass) :
    ((classes.filter fun c => c.isOwn && c.plugin.hasHooks).map (·.plugin)).filterMap
        (fun c => c.instantiate.toOption.map fun p => (name, p)) =
      (classes.filter ProgramClass.isEligible).map fun c =>
        (name, { c.plugin with isClass := false }) := by
  induction classes with
  | nil => rfl
  | cons c classes ih =>
    rw [List.filter_cons, List.filter_cons, ProgramClass.isEligible]
    cases c.isOwn && c.plugin.hasHooks with
    | false => exact ih
    | true =>
      cases hstartup : c.plugin.startup <;>
        simpa [Plugin.instantiate, hstartup, Except.toOption] using ih

lemma offeredBy_perm (files : FileTree) (file : Path) :
    (offeredBy files file).Perm (eligibleOf files file) := by
  rw [offeredBy, eligibleOf]
  cases files.program? file with
  | none => exact .nil
  | some classes =>
    rw [Option.getD_some, ← filterMap_instantiate]
    exact (((List.mergeSort_perm classes _).filter _).map _).filterMap _

lemma offeredIn_perm (files : FileTree) (dir : Path) :
    (offeredIn files dir).Perm (eligible files dir) := by
  rw [offeredIn, localFiles, List.flatMap_map]
  exact ((List.mergeSort_perm _ _).flatMap_right _).trans
    (List.Perm.flatMap_left _ fun _ _ => offeredBy_perm files _)

lemma eligibleOf_keys (files : FileTree) (dir : Path) (file : String) :
    (eligibleOf files (dir.child file)).map Prod.fst =
      List.replicate (eligibleOf files (dir.child file)).length (localName file) := by
  rw [List.eq_replicate_iff]
  refine ⟨List.length_map _, fun name hname => ?_⟩
  obtain ⟨e, he, rfl⟩ := List.mem_map.mp hname
  obtain ⟨c, -, rfl⟩ := List.mem_map.mp he
  exact congrArg localName (dir.name_child file)

lemma nodup_eraseDups (names : List String) : names.eraseDups.Nodup := by
  induction hn : names.length using Nat.strong_induction_on generalizing names with
  | _ n ih =>
    cases names with
    | nil => simp
    | cons name names =>
      rw [List.eraseDups_cons, List.nodup_cons]
      refine ⟨by simp, ih _ ?_ _ rfl⟩
      subst hn
      exact Nat.lt_succ_of_le (List.length_filter_le _ _)

lemma nodup_children (files : FileTree) (dir : Path) : (files.children dir).Nodup := by
  rw [FileTree.children]
  cases files.locate? dir with
  | none => exact List.nodup_nil
  | some d =>
    dsimp only
    split
    · exact nodup_eraseDups _
    · exact List.nodup_nil

lemma disjoint_replicate_iff {m n : Nat} {a b : String} :
    (List.replicate m a).Disjoint (List.replicate n b) ↔ a = b → m = 0 ∨ n = 0 := by
  rw [List.disjoint_left]
  simp only [List.mem_replicate]
  constructor
  · rintro h rfl
    by_contra hboth
    rw [not_or] at hboth
    exact h ⟨hboth.1, rfl⟩ ⟨hboth.2, rfl⟩
  · rintro h name ⟨hm, rfl⟩ ⟨hn, hb⟩
    exact (h hb).elim hm hn

lemma nodup_eligible_iff :
    ((eligible files dir).map Prod.fst).Nodup ↔
      (∀ file ∈ localNames files dir, (eligibleOf files (dir.child file)).length ≤ 1) ∧
        (".py" ∈ localNames files dir → ".py.py" ∈ localNames files dir →
          eligibleOf files (dir.child ".py") = [] ∨
            eligibleOf files (dir.child ".py.py") = []) := by
  have hnodup : (localNames files dir).Nodup := (nodup_children files dir).filter _
  have hlocal : ∀ file ∈ localNames files dir, isLocalPlugin file = true :=
    fun file hfile => (List.mem_filter.mp hfile).2
  have hdisjoint : ∀ a b, Function.onFun List.Disjoint
      (fun file => (eligibleOf files (dir.child file)).map Prod.fst) a b ↔
        (localName a = localName b →
          eligibleOf files (dir.child a) = [] ∨ eligibleOf files (dir.child b) = []) := by
    intro a b
    rw [Function.onFun, eligibleOf_keys, eligibleOf_keys, disjoint_replicate_iff,
      List.length_eq_zero_iff, List.length_eq_zero_iff]
  have hsymm : Std.Symm fun a b : String => localName a = localName b →
      eligibleOf files (dir.child a) = [] ∨ eligibleOf files (dir.child b) = [] :=
    ⟨fun a b hab hname => (hab hname.symm).symm⟩
  rw [eligible, List.map_flatMap, List.nodup_flatMap, List.Pairwise.iff hdisjoint]
  simp only [eligibleOf_keys, List.nodup_replicate]
  refine and_congr_right fun _ => ⟨fun h hpy hdouble => ?_, fun h => ?_⟩
  · exact h.forall hpy hdouble (by decide) (by decide)
  · apply hnodup.pairwise_of_forall_ne
    intro a ha b hb hne hname
    rcases (localName_eq_iff (hlocal a ha) (hlocal b hb)).mp hname with
      heq | ⟨rfl, rfl⟩ | ⟨rfl, rfl⟩
    · exact (hne heq).elim
    · exact h ha hb
    · exact (h hb ha).symm

lemma Newcomers.eq_of_nodup {offers : List (String × Plugin)} {new : Entries Plugin}
    (h : m.Newcomers offers new) (hnodup : (offers.map Prod.fst).Nodup)
    (hfree : ∀ e ∈ offers, m.isBlocked e.1 = false ∧ e.1 ∉ m.names) : new = offers := by
  apply h.sublist.eq_of_length_le
  have hkeys : offers.map Prod.fst ⊆ new.keys := by
    intro name hname
    obtain ⟨e, he, rfl⟩ := List.mem_map.mp hname
    rcases h.complete e he with hblocked | htaken | hnew
    · rw [(hfree e he).1] at hblocked
      cases hblocked
    · exact ((hfree e he).2 htaken).elim
    · exact hnew
  simpa [Entries.keys] using hnodup.length_le_of_subset hkeys

section Fresh

variable (hfree : ∀ e ∈ eligible files dir, m.isBlocked e.1 = false ∧ e.1 ∉ m.names)

include hfree

lemma offeredIn_fresh : ∀ e ∈ offeredIn files dir,
    m.converted.isBlocked e.1 = false ∧ e.1 ∉ m.converted.names := by
  intro e he
  obtain ⟨hblocked, htaken⟩ := hfree e ((offeredIn_perm files dir).subset he)
  rw [isBlocked, converted, (convert_same m.entries m).1]
  exact ⟨hblocked, fun hmem => htaken (names_converted hmem)⟩

lemma mem_names_of_eligible (log : List String) {e : String × Plugin}
    (he : e ∈ eligible files dir) : e.1 ∈ (m.discover files (some dir) log).1.1.names := by
  obtain ⟨new, hnew, hentries⟩ := exists_discovered files dir m log
  have hoffer : e ∈ offeredIn files dir := (offeredIn_perm files dir).symm.subset he
  obtain ⟨hblocked, htaken⟩ := offeredIn_fresh hfree e hoffer
  rw [names, hentries, Entries.keys, List.map_append, List.mem_append]
  rcases hnew.complete e hoffer with hbad | hmem | hmem
  · rw [hblocked] at hbad
    cases hbad
  · exact (htaken hmem).elim
  · exact .inr hmem

lemma subperm_discovered_iff (log : List String) :
    (eligible files dir).Subperm (m.discover files (some dir) log).1.1.entries ↔
      ((eligible files dir).map Prod.fst).Nodup := by
  obtain ⟨new, hnew, hentries⟩ := exists_discovered files dir m log
  have hperm := offeredIn_perm files dir
  have hfresh := offeredIn_fresh hfree
  rw [hentries]
  constructor
  · rintro ⟨found, hfound, hsublist⟩
    obtain ⟨old, rest, rfl, hold, hrest⟩ := List.sublist_append_iff.mp hsublist
    have hnone : old = [] := by
      rw [List.eq_nil_iff_forall_not_mem]
      intro e he
      have hoffer := hperm.symm.subset (hfound.subset (List.mem_append_left _ he))
      exact (hfresh e hoffer).2 (List.mem_map_of_mem (hold.subset he))
    rw [hnone, List.nil_append] at hfound
    exact ((hfound.map Prod.fst).nodup_iff).mp (hnew.nodup.sublist (hrest.map Prod.fst))
  · intro hnodup
    rw [hnew.eq_of_nodup ((hperm.map Prod.fst).nodup_iff.mpr hnodup) hfresh]
    exact hperm.symm.subperm.trans (List.sublist_append_right _ _).subperm

/-- Where no name is blocked or taken, every file with objects has its name registered, and every
object is registered unless two have one name. -/
theorem eligible_registered (log : List String) :
    (∀ e ∈ eligible files dir, e.1 ∈ (m.discover files (some dir) log).1.1.names) ∧
      ((eligible files dir).Subperm (m.discover files (some dir) log).1.1.entries ↔
        (∀ file ∈ localNames files dir, (eligibleOf files (dir.child file)).length ≤ 1) ∧
          (".py" ∈ localNames files dir → ".py.py" ∈ localNames files dir →
            eligibleOf files (dir.child ".py") = [] ∨
              eligibleOf files (dir.child ".py.py") = [])) :=
  ⟨fun _ he => mem_names_of_eligible hfree log he,
    (subperm_discovered_iff hfree log).trans nodup_eligible_iff⟩

end Fresh

def idleClass (serial : Nat) : ProgramClass :=
  ⟨true, ⟨serial, "Idle", true, none, some .nothing, none, none⟩⟩

def shelf (programs : List (String × List ProgramClass)) : FileTree :=
  ⟨⟨"/", []⟩, programs.map fun e => (⟨"/", ["p", e.1]⟩, .program (some e.2))⟩

lemma length_eligibleOf (files : FileTree) (file : Path) :
    (eligibleOf files file).length =
      (((files.program? file).getD []).filter ProgramClass.isEligible).length :=
  List.length_map _

def apart : FileTree :=
  shelf [("b.py", [idleClass 1]), (".py", [idleClass 2]), (".py.py", [])]

theorem eligible_registered_apart :
    ((eligible apart ⟨"", ["p"]⟩).length = 2 ∧
      ∀ e ∈ eligible apart ⟨"", ["p"]⟩,
        (empty []).isBlocked e.1 = false ∧ e.1 ∉ (empty []).names) ∧
      (eligible apart ⟨"", ["p"]⟩).Subperm
        ((empty []).discover apart (some ⟨"", ["p"]⟩) []).1.1.entries := by
  have hfree : ∀ e ∈ eligible apart ⟨"", ["p"]⟩,
      (empty []).isBlocked e.1 = false ∧ e.1 ∉ (empty []).names :=
    fun e _ => ⟨rfl, List.not_mem_nil⟩
  have hlengths : (localNames apart ⟨"", ["p"]⟩).map
      (fun file => (eligibleOf apart (Path.child ⟨"", ["p"]⟩ file)).length) = [1, 1, 0] := by
    simp only [length_eligibleOf]
    cbv
  have hdouble : eligibleOf apart (Path.child ⟨"", ["p"]⟩ ".py.py") = [] := by cbv
  refine ⟨⟨?_, hfree⟩, (eligible_registered hfree []).2.mpr ⟨?_, fun _ _ => .inr hdouble⟩⟩
  · rw [eligible, List.length_flatMap, hlengths]
    rfl
  · apply List.forall_mem_map (P := fun n => n ≤ 1).mp
    rw [hlengths]
    decide

def doubled : FileTree :=
  shelf [("a.py", [idleClass 1, idleClass 2])]

theorem second_class_dropped :
    ¬ (eligible doubled ⟨"", ["p"]⟩).Subperm
      ((empty []).discover doubled (some ⟨"", ["p"]⟩) []).1.1.entries := by
  have hlengths : (localNames doubled ⟨"", ["p"]⟩).map
      (fun file => (eligibleOf doubled (Path.child ⟨"", ["p"]⟩ file)).length) = [2] := by
    simp only [length_eligibleOf]
    cbv
  rw [subperm_discovered_iff (fun _ _ => ⟨rfl, List.not_mem_nil⟩), nodup_eligible_iff]
  rintro ⟨hsingle, -⟩
  have htwo := List.forall_mem_map (P := fun n => n ≤ 1).mpr hsingle
  rw [hlengths] at htwo
  exact absurd htwo (by decide)

end PluginManager

end LineShell
