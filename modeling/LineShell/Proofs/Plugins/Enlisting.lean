import LineShell.Proofs.Entries
import LineShell.Proofs.Plugins.Discovery

namespace LineShell

def Plugin.isRaw (p : Plugin) : Bool :=
  p.isClass && p.hasHooks

lemma Plugin.isRaw_of_instantiate {p q : Plugin} (h : p.instantiate = .ok q) : q.isRaw = false := by
  rw [instantiate] at h
  cases hs : p.startup with
  | some f =>
    rw [hs] at h
    cases h
  | none =>
    rw [hs] at h
    cases h
    rfl

namespace PluginManager

variable {m : PluginManager}

def convert : List (String × Plugin) → PluginManager → PluginManager
  | [], m => m
  | (name, p) :: rest, m =>
    if p.isRaw then
      let objects := p.instantiate.toOption.toList.map fun q => (name, q)
      convert rest { m with entries := m.entries.erase name ++ objects }
    else convert rest m

def converted (m : PluginManager) : PluginManager :=
  convert m.entries m

lemma instantiateClasses_fst (es : List (String × Plugin)) (m : PluginManager)
    (log : List String) : (instantiateClasses es m log).1 = convert es m := by
  induction es generalizing m log with
  | nil => rfl
  | cons e es ih =>
    obtain ⟨name, p⟩ := e
    rw [instantiateClasses, convert, Plugin.isRaw]
    split
    · cases p.instantiate with
      | ok q => exact ih _ log
      | error f =>
        refine (ih _ _).trans ?_
        simp [Except.toOption]
    · exact ih m log

lemma convert_eq_self {es : List (String × Plugin)} (h : ∀ e ∈ es, e.2.isRaw = false) :
    convert es m = m := by
  induction es with
  | nil => rfl
  | cons e es ih =>
    rw [List.forall_mem_cons] at h
    rw [convert, h.1]
    exact ih h.2

lemma convert_same (es : List (String × Plugin)) (m : PluginManager) :
    (convert es m).blocked = m.blocked ∧ (convert es m).isLoaded = m.isLoaded := by
  induction es generalizing m with
  | nil => exact ⟨rfl, rfl⟩
  | cons e es ih =>
    rw [convert]
    split
    · exact ih _
    · exact ih m

lemma names_convert {es : List (String × Plugin)} {name : String}
    (h : name ∈ (convert es m).names) : name ∈ m.names ∨ name ∈ es.map Prod.fst := by
  induction es generalizing m with
  | nil => exact .inl h
  | cons e es ih =>
    obtain ⟨key, p⟩ := e
    rw [List.map_cons, List.mem_cons]
    rw [convert] at h
    split at h
    · rcases ih h with hm | hes
      · rw [names, Entries.keys, List.map_append, List.mem_append] at hm
        rcases hm with hold | hnew
        · exact .inl (List.filter_sublist.map Prod.fst |>.subset hold)
        · simp only [List.map_map, List.mem_map] at hnew
          obtain ⟨q, -, rfl⟩ := hnew
          exact .inr (.inl rfl)
      · exact .inr (.inr hes)
    · rcases ih h with hm | hes
      · exact .inl hm
      · exact .inr (.inr hes)

lemma names_converted {name : String} (h : name ∈ m.converted.names) : name ∈ m.names := by
  rcases names_convert h with hm | hes
  · exact hm
  · exact hes

lemma isRaw_convert {es : List (String × Plugin)} {e : String × Plugin}
    (h : e ∈ (convert es m).entries) (hraw : e.2.isRaw = true) :
    e ∈ m.entries ∧ ∀ e' ∈ es, e'.2.isRaw = true → e'.1 ≠ e.1 := by
  induction es generalizing m with
  | nil => exact ⟨h, by simp⟩
  | cons e' es ih =>
    obtain ⟨key, p⟩ := e'
    rw [convert] at h
    split at h
    · obtain ⟨hm, hes⟩ := ih h
      rw [List.mem_append] at hm
      rcases hm with hold | hnew
      · rw [Entries.erase, List.mem_filter, decide_eq_true_eq] at hold
        exact ⟨hold.1, List.forall_mem_cons.mpr ⟨fun _ => hold.2.symm, hes⟩⟩
      · simp only [List.mem_map, Option.mem_toList] at hnew
        obtain ⟨q, hq, rfl⟩ := hnew
        have hobject : q.isRaw = false := by
          cases hp : p.instantiate with
          | error f =>
            rw [hp] at hq
            cases hq
          | ok q' =>
            rw [hp] at hq
            cases hq
            exact Plugin.isRaw_of_instantiate hp
        rw [hobject] at hraw
        cases hraw
    · rename_i hkept
      obtain ⟨hm, hes⟩ := ih h
      exact ⟨hm, List.forall_mem_cons.mpr ⟨fun hp => (hkept hp).elim, hes⟩⟩

lemma isRaw_converted {e : String × Plugin} (h : e ∈ m.converted.entries) : e.2.isRaw = false := by
  cases hraw : e.2.isRaw with
  | false => rfl
  | true =>
    obtain ⟨hm, hnone⟩ := isRaw_convert h hraw
    exact (hnone e hm hraw rfl).elim

def enlist (m : PluginManager) (e : String × Plugin) : PluginManager :=
  if m.isBlocked e.1 || m.entries.has e.1 then m else { m with entries := m.entries ++ [e] }

def offeredBy (files : FileTree) (file : Path) : List (String × Plugin) :=
  ((files.program? file).elim [] localClasses).filterMap fun c =>
    c.instantiate.toOption.map fun p => (localName file.name, p)

def localFiles (files : FileTree) (dir : Path) : List Path :=
  (((files.children dir).filter isLocalPlugin).mergeSort fun a b => !(b < a)).map dir.child

def offeredIn (files : FileTree) (dir : Path) : List (String × Plugin) :=
  (localFiles files dir).flatMap (offeredBy files)

lemma registerLocal_fst (file : Path) (c : Plugin) (m : PluginManager) (log : List String) :
    (registerLocal file c m log).1 =
      (c.instantiate.toOption.toList.map fun p => (localName file.name, p)).foldl enlist m := by
  rw [registerLocal]
  cases c.instantiate with
  | error f => rfl
  | ok p =>
    simp only [register, resolveName_local, Except.toOption, Option.toList_some, List.map_cons,
      List.map_nil, List.foldl_cons, List.foldl_nil, enlist]
    cases m.isBlocked (localName file.name) with
    | true => rfl
    | false => cases m.entries.has (localName file.name) <;> rfl

lemma registerLocals_fst (file : Path) (cs : List Plugin) (m : PluginManager)
    (log : List String) :
    (registerLocals file cs m log).1 =
      (cs.filterMap fun c => c.instantiate.toOption.map fun p => (localName file.name, p)).foldl
        enlist m := by
  induction cs generalizing m log with
  | nil => rfl
  | cons c cs ih =>
    rw [registerLocals, Logged.bind_apply, ih, registerLocal_fst, List.filterMap_cons]
    cases c.instantiate <;> rfl

lemma loadFiles_fst (files : FileTree) (paths : List Path) (m : PluginManager)
    (log : List String) :
    (loadFiles files paths m log).1 = (paths.flatMap (offeredBy files)).foldl enlist m := by
  induction paths generalizing m log with
  | nil => rfl
  | cons file paths ih =>
    rw [loadFiles, Logged.bind_apply, ih, List.flatMap_cons, List.foldl_append, loadFile, offeredBy]
    cases files.program? file with
    | none => rfl
    | some classes =>
      exact congrArg (fun m => (paths.flatMap (offeredBy files)).foldl enlist m)
        (registerLocals_fst file (localClasses classes) m log)

lemma discoverLocal_fst (files : FileTree) (dir : Path) (m : PluginManager) (log : List String) :
    (discoverLocal files dir m log).1 = (offeredIn files dir).foldl enlist m :=
  loadFiles_fst files (localFiles files dir) m log

lemma children_of_isDirectory {files : FileTree} {dir : Path}
    (h : files.isDirectory dir ≠ .ok true) : files.children dir = [] := by
  rw [FileTree.isDirectory] at h
  rw [FileTree.children, FileTree.locate?]
  cases hl : files.locate dir with
  | error fault => rfl
  | ok found =>
    cases found with
    | none => rfl
    | some d =>
      rw [hl] at h
      have hd : files.isDirectoryAt d = false := by simpa [Except.map] using h
      simp [Except.toOption, hd]

lemma offeredIn_of_isDirectory {files : FileTree} {dir : Path}
    (h : files.isDirectory dir ≠ .ok true) : offeredIn files dir = [] := by
  simp [offeredIn, localFiles, children_of_isDirectory h]

lemma discover_fst (files : FileTree) (dir : Path) (m : PluginManager) (log : List String) :
    (m.discover files (some dir) log).1 =
      match files.isDirectory dir with
      | .ok _ => ({ (offeredIn files dir).foldl enlist m.converted with isLoaded := true }, none)
      | .error fault => (m.converted, some fault) := by
  have hconverted := instantiateClasses_fst m.entries m log
  rw [discover, Logged.bind_apply, hconverted]
  dsimp only [Option.map_some]
  cases hd : files.isDirectory dir with
  | error fault => rfl
  | ok found =>
    cases found with
    | false =>
      rw [offeredIn_of_isDirectory (by simp [hd])]
      rfl
    | true =>
      exact congrArg (fun m : PluginManager => ({ m with isLoaded := true }, none))
        (discoverLocal_fst files dir m.converted _)

lemma discover_none_fst (files : FileTree) (m : PluginManager) (log : List String) :
    (m.discover files none log).1 = ({ m.converted with isLoaded := true }, none) := by
  rw [discover, Logged.bind_apply, instantiateClasses_fst m.entries m log]
  rfl

lemma entries_discover (files : FileTree) (dir : Path) (m : PluginManager) (log : List String) :
    (m.discover files (some dir) log).1.1.entries =
      ((offeredIn files dir).foldl enlist m.converted).entries := by
  rw [discover_fst]
  cases hd : files.isDirectory dir with
  | ok found => rfl
  | error fault =>
    rw [offeredIn_of_isDirectory (by simp [hd])]
    rfl

structure Newcomers (m : PluginManager) (offers : List (String × Plugin))
    (new : Entries Plugin) : Prop where
  sublist : new.Sublist offers
  nodup : new.keys.Nodup
  free : ∀ e ∈ new, m.isBlocked e.1 = false ∧ e.1 ∉ m.names
  complete : ∀ e ∈ offers, m.isBlocked e.1 = true ∨ e.1 ∈ m.names ∨ e.1 ∈ new.keys

lemma enlist_of_settled {e : String × Plugin} (h : m.isBlocked e.1 = true ∨ e.1 ∈ m.names) :
    m.enlist e = m := by
  rw [names, ← Entries.has_iff_mem_keys] at h
  rw [enlist, if_pos (Bool.or_eq_true_iff.mpr h)]

lemma enlist_of_free {e : String × Plugin} (hfree : m.isBlocked e.1 = false)
    (hnew : e.1 ∉ m.names) : m.enlist e = { m with entries := m.entries ++ [e] } := by
  rw [names, ← Entries.has_iff_mem_keys, Bool.not_eq_true] at hnew
  rw [enlist, hfree, hnew]
  rfl

lemma enlistAll_of_settled {offers : List (String × Plugin)}
    (h : ∀ e ∈ offers, m.isBlocked e.1 = true ∨ e.1 ∈ m.names) : offers.foldl enlist m = m := by
  induction offers with
  | nil => rfl
  | cons e offers ih =>
    rw [List.forall_mem_cons] at h
    rw [List.foldl_cons, enlist_of_settled h.1]
    exact ih h.2

lemma exists_enlistAll (m : PluginManager) (offers : List (String × Plugin)) :
    ∃ new, m.Newcomers offers new ∧
      offers.foldl enlist m = { m with entries := m.entries ++ new } := by
  induction offers generalizing m with
  | nil => exact ⟨[], ⟨List.Sublist.slnil, List.nodup_nil, by simp, by simp⟩, by simp⟩
  | cons e offers ih =>
    by_cases hsettled : m.isBlocked e.1 = true ∨ e.1 ∈ m.names
    · obtain ⟨new, hnew, hall⟩ := ih m
      rw [List.foldl_cons, enlist_of_settled hsettled]
      refine ⟨new, ⟨hnew.sublist.cons e, hnew.nodup, hnew.free, ?_⟩, hall⟩
      exact List.forall_mem_cons.mpr ⟨or_assoc.mp (.inl hsettled), hnew.complete⟩
    · rw [not_or, Bool.not_eq_true] at hsettled
      obtain ⟨new, hnew, hall⟩ := ih { m with entries := m.entries ++ [e] }
      have hnames : names { m with entries := m.entries ++ [e] } = m.names ++ [e.1] :=
        List.map_append
      have hfree := hnew.free
      have hcomplete := hnew.complete
      simp only [hnames, List.mem_append, List.mem_singleton, not_or] at hfree hcomplete
      rw [List.foldl_cons, enlist_of_free hsettled.1 hsettled.2, hall]
      refine ⟨e :: new, ⟨hnew.sublist.cons_cons e, ?_, ?_, ?_⟩, by simp⟩
      · rw [Entries.keys, List.map_cons, List.nodup_cons]
        refine ⟨fun hmem => ?_, hnew.nodup⟩
        obtain ⟨e', he', heq⟩ := List.mem_map.mp hmem
        exact (hfree e' he').2.2 heq
      · refine List.forall_mem_cons.mpr ⟨hsettled, fun e' he' => ?_⟩
        exact ⟨(hfree e' he').1, (hfree e' he').2.1⟩
      · rw [Entries.keys, List.map_cons]
        refine List.forall_mem_cons.mpr ⟨.inr (.inr List.mem_cons_self), fun e' he' => ?_⟩
        rcases hcomplete e' he' with hblocked | (hold | heq) | hmem
        · exact .inl hblocked
        · exact .inr (.inl hold)
        · exact .inr (.inr (heq ▸ List.mem_cons_self))
        · exact .inr (.inr (List.mem_cons_of_mem _ hmem))

lemma exists_discovered (files : FileTree) (dir : Path) (m : PluginManager) (log : List String) :
    ∃ new, m.converted.Newcomers (offeredIn files dir) new ∧
      (m.discover files (some dir) log).1.1.entries = m.converted.entries ++ new := by
  obtain ⟨new, hnew, hall⟩ := exists_enlistAll m.converted (offeredIn files dir)
  exact ⟨new, hnew, by rw [entries_discover, hall]⟩

end PluginManager

end LineShell
