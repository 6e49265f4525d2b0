import LineShell.Proofs.Settings.Gathered

namespace LineShell

namespace Entries

variable {α : Type}

lemma keys_filter_sublist (d : Entries α) (p : String × α → Bool) :
    (keys (d.filter p)).Sublist d.keys :=
  List.filter_sublist.map Prod.fst

lemma get?_filter {d : Entries α} (h : d.keys.Nodup) (p : String × α → Bool) (key : String) :
    get? (d.filter p) key = (d.get? key).filter fun v => p (key, v) := by
  induction d with
  | nil => rfl
  | cons e d ih =>
    obtain ⟨k, v⟩ := e
    rw [keys, List.map_cons, List.nodup_cons] at h
    have hrest := ih h.2
    rw [get?_cons, List.filter_cons]
    by_cases hk : key = k
    · subst hk
      have hnone : get? (d.filter p) key = none :=
        get?_eq_none_iff.mpr fun hmem => h.1 ((keys_filter_sublist d p).subset hmem)
      cases hp : p (key, v) <;> simp [get?_cons, Option.filter, hp, hnone]
    · rw [if_neg hk, ← hrest]
      split
      · rw [get?_cons, if_neg hk]
      · rfl

end Entries

open Settings

namespace Settings

lemma find?_key : ∀ key ∈ keys, keys.find? (· == foldCase key) = some key := by
  decide

def addProper (es : Entries Datum) (e : String × Datum) : Entries Datum :=
  match keys.find? (· == foldCase e.1) with
  | none => es ++ [e]
  | some key => if es.has key then es else es ++ [(key, e.2)]

lemma properKeys_eq_foldl (given : Entries Datum) : properKeys given = given.foldl addProper [] :=
  rfl

lemma foldl_addProper {es acc : Entries Datum} (hnodup : (Entries.keys (acc ++ es)).Nodup)
    (hkeys : es.keys ⊆ keys) : es.foldl addProper acc = acc ++ es := by
  induction es generalizing acc with
  | nil => exact (List.append_nil acc).symm
  | cons e es ih =>
    have hsplit : acc ++ e :: es = acc ++ [e] ++ es := List.append_cons acc e es
    rw [Entries.keys, List.map_cons, List.cons_subset] at hkeys
    have hfree : ¬ acc.has e.1 := by
      rw [Entries.has_iff_mem_keys]
      simp only [Entries.keys, List.map_append, List.map_cons, List.nodup_append] at hnodup
      exact fun hmem => hnodup.2.2 _ hmem _ List.mem_cons_self rfl
    have hnew : addProper acc e = acc ++ [e] := by
      rw [addProper, find?_key e.1 hkeys.1]
      exact if_neg hfree
    rw [List.foldl_cons, hnew, hsplit]
    exact ih (hsplit ▸ hnodup) hkeys.2

lemma properKeys_eq {given : Entries Datum} (hnodup : given.keys.Nodup)
    (hkeys : given.keys ⊆ keys) : properKeys given = given :=
  foldl_addProper hnodup hkeys

lemma prefix_foldl_addProper (es acc : Entries Datum) : acc <+: es.foldl addProper acc := by
  induction es generalizing acc with
  | nil => exact List.prefix_refl acc
  | cons e es ih =>
    have hstep : acc <+: addProper acc e := by
      rw [addProper]
      split
      · exact List.prefix_append acc _
      · split
        · exact List.prefix_refl acc
        · exact List.prefix_append acc _
    exact hstep.trans (ih (addProper acc e))

end Settings

section Given

variable (files : FileTree) (projectRoot file : Option Path) (flags : Entries Datum)

lemma withProject_givenBy (env : Environment) (tables : Entries Datum) :
    withProject files env tables (givenBy files projectRoot file flags) =
      givenBy files projectRoot file flags := by
  have hplace : Entries.has (properKeys (givenBy files projectRoot file flags)) "project_root"
      = true := by
    rw [Entries.has_iff_mem_keys, properKeys_eq_foldl, givenBy, List.cons_append, List.foldl_cons]
    refine ((prefix_foldl_addProper _ _).map Prod.fst).subset ?_
    rw [addProper, find?_key "project_root" (by decide)]
    exact List.mem_cons_self
  rw [withProject, hplace]
  rfl

end Given

def flagKeys : List String := ["json_output", "quiet", "verbose", "log_json"]

def Leaf.fromFlags (l : Leaf) (flags : Entries Datum) : Option Datum :=
  match flags.get? l.key with
  | none | some .null => none
  | some d => some d

lemma Leaf.fromFlags_of_section {l : Leaf} {part : String} (hl : l.part? = some part)
    {flags : Entries Datum} (hflags : flags.keys ⊆ flagKeys) : l.fromFlags flags = none := by
  have hkey : l.part?.isSome → l.key ∉ flagKeys := by
    cases l <;> decide
  have hnone : flags.get? l.key = none :=
    Entries.get?_eq_none_iff.mpr fun hmem => hkey (hl ▸ rfl) (hflags hmem)
  rw [fromFlags, hnone]

section Flags

variable {files : FileTree} {projectRoot file : Option Path} {flags : Entries Datum}
  (hflags : flags.keys ⊆ flagKeys)

include hflags

lemma keys_givenBy : Entries.keys (givenBy files projectRoot file flags) ⊆
    "project_root" :: "config_path" :: flagKeys := by
  rw [givenBy, Entries.keys]
  simp only [List.cons_append, List.nil_append, List.map_cons, List.cons_subset]
  refine ⟨by decide, by decide, fun key hkey => ?_⟩
  have hkey := hflags ((Entries.keys_filter_sublist flags _).subset hkey)
  exact List.mem_cons_of_mem _ (List.mem_cons_of_mem _ hkey)

lemma nodup_givenBy (hnodup : flags.keys.Nodup) :
    (Entries.keys (givenBy files projectRoot file flags)).Nodup := by
  have hsub := Entries.keys_filter_sublist flags
  have hroot : "project_root" ∉ flagKeys := by decide
  have hpath : "config_path" ∉ flagKeys := by decide
  rw [givenBy, Entries.keys]
  simp only [List.cons_append, List.nil_append, List.map_cons]
  refine List.nodup_cons.mpr ⟨?_, List.nodup_cons.mpr ⟨?_, (hsub _).nodup hnodup⟩⟩
  · rw [List.mem_cons, not_or]
    exact ⟨by decide, fun hmem => hroot (hflags ((hsub _).subset hmem))⟩
  · exact fun hmem => hpath (hflags ((hsub _).subset hmem))

lemma get?_givenBy_section {part : String} (hpart : part ∈ sectionKeys.map Prod.fst) :
    Entries.get? (givenBy files projectRoot file flags) part = none := by
  have hnone : ∀ part ∈ sectionKeys.map Prod.fst,
      part ∉ "project_root" :: "config_path" :: flagKeys := by
    decide
  exact Entries.get?_eq_none_iff.mpr fun hmem => hnone part hpart (keys_givenBy hflags hmem)

lemma hasTables_givenBy : HasTables (givenBy files projectRoot file flags) := by
  intro part hpart d hd
  rw [get?_givenBy_section hflags hpart] at hd
  cases hd

lemma distinct_givenBy (hnodup : flags.keys.Nodup) :
    Distinct (givenBy files projectRoot file flags) := by
  refine ⟨nodup_givenBy hflags hnodup, fun part hpart => ?_⟩
  rw [tableOf, get?_givenBy_section hflags hpart]
  exact List.nodup_nil

lemma look_givenBy (hnodup : flags.keys.Nodup) (l : Leaf) :
    l.look (givenBy files projectRoot file flags) = l.fromFlags flags := by
  rw [Leaf.look]
  cases hl : l.part? with
  | some part =>
    dsimp only
    rw [tableOf, get?_givenBy_section hflags (Leaf.part_mem hl),
      Leaf.fromFlags_of_section hl hflags]
    rfl
  | none =>
    have hkey : l.key ≠ "project_root" ∧ l.key ≠ "config_path" := by
      revert hl
      cases l <;> decide
    rw [givenBy, Entries.get?_append, Entries.get?_cons, Entries.get?_cons, if_neg hkey.1,
      if_neg hkey.2, Entries.get?_nil, Option.none_or, Entries.get?_filter hnodup, Leaf.fromFlags]
    rcases flags.get? l.key with _ | ⟨_ | _ | _ | _ | _ | _ | _⟩ <;> rfl

end Flags

namespace Settings

section Located

variable {files : FileTree} {env : Environment} {configPath : Option String}
  {projectRoot : Option Path} {p : Path}

lemma isFile_of_findM? {paths : List Path} (h : paths.findM? files.isFile = .ok (some p)) :
    files.isFile p = .ok true := by
  induction paths with
  | nil => cases h
  | cons q paths ih =>
    rw [List.findM?] at h
    obtain ⟨found, hq, h⟩ := bind_eq_ok.mp h
    cases found with
    | true =>
      obtain rfl := Option.some.inj (Except.ok.inj h)
      exact hq
    | false => exact ih h

lemma isFile_of_namedFile {name : String} (h : namedFile files name = .ok (some p)) :
    files.isFile p = .ok true := by
  rw [namedFile] at h
  obtain ⟨found, hq, h⟩ := bind_eq_ok.mp h
  cases found with
  | true =>
    obtain rfl := Option.some.inj (Except.ok.inj h)
    exact hq
  | false => cases h

lemma isFile_of_nearest (h : findFile.nearest files projectRoot = .ok (some p)) :
    files.isFile p = .ok true := by
  rw [findFile.nearest] at h
  obtain ⟨origin, -, h⟩ := bind_eq_ok.mp h
  exact isFile_of_findM? h

lemma isFile_of_fileFor (h : fileFor files env configPath projectRoot = .ok (some p)) :
    files.isFile p = .ok true := by
  unfold fileFor at h
  split at h
  case h_3 => exact isFile_of_namedFile h
  all_goals
    unfold findFile at h
    split at h
    case h_3 => exact isFile_of_namedFile h
    all_goals exact isFile_of_nearest h

end Located

lemma construct_eq {files : FileTree} {file : Option Path}
    (hfile : ∀ p, file = some p → files.isFile p = .ok true) (env : Environment)
    (given : Entries Datum) :
    construct files env given file =
      (readTables files file >>= fun tables =>
        ofSources (withProject files env tables given) env tables, file) := by
  cases file with
  | none => rfl
  | some p =>
    change (((files.isFile p).mapError .badPath >>= fun found =>
      readTables files (if found then some p else none) >>= fun tables =>
        ofSources (withProject files env tables given) env tables, some p) : _ × Option Path) = _
    rw [hfile p rfl]
    rfl

lemma load_eq {files : FileTree} {env : Environment} {configPath : Option String}
    {projectRoot file : Option Path} (h : fileFor files env configPath projectRoot = .ok file)
    (flags : Entries Datum) :
    load files env configPath projectRoot flags =
      readTables files file >>= fun tables =>
        ofSources (givenBy files projectRoot file flags) env tables := by
  rw [load, h]
  rfl

lemma fromCli_eq (files : FileTree) (env : Environment) (configPath : Option String)
    (projectRoot : Option Path) (flags : Entries Datum) :
    fromCli files env configPath projectRoot flags none =
      (load files env configPath projectRoot flags, none) := by
  cases hlocated : fileFor files env configPath projectRoot with
  | error fault =>
    rw [fromCli, load, hlocated]
    rfl
  | ok file =>
    have hfile : ∀ p, file = some p → files.isFile p = .ok true := by
      rintro p rfl
      exact isFile_of_fileFor hlocated
    have hmade := construct_eq hfile env (givenBy files projectRoot file flags)
    simp only [withProject_givenBy] at hmade
    rw [load_eq hlocated, fromCli, hlocated]
    change ((construct files env (givenBy files projectRoot file flags) file).1, none) = _
    rw [hmade]

end Settings

end LineShell
