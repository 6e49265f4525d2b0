import LineShell.FileTree
import Mathlib

namespace LineShell.FileTree

variable {t t' : FileTree}

lemma follow_append (here names : List String) (n : String) :
    t.follow here (names ++ [n]) =
      match t.follow here names with
      | .somewhere place => t.follow place [n]
      | other => other := by
  induction names generalizing here with
  | nil => rfl
  | cons name names ih =>
    rw [List.cons_append, follow, follow]
    split
    · rfl
    · split
      · rfl
      · exact ih _

lemma follow_of_more (h : ∀ p, t.isDirectoryAt p = true → t'.isDirectoryAt p = true)
    {here names place : List String} (hfound : t.follow here names = .somewhere place) :
    t'.follow here names = .somewhere place := by
  induction names generalizing here with
  | nil => exact hfound
  | cons name names ih =>
    rw [follow] at hfound ⊢
    split at hfound
    · cases hfound
    · rename_i hdirectory
      split at hfound
      · cases hfound
      · rename_i hshort
        have hmore : t'.isDirectoryAt ⟨"/", here⟩ = true := h _ (by simpa using hdirectory)
        rw [hmore, Bool.not_true, if_neg Bool.false_ne_true, if_neg hshort]
        exact ih hfound

lemma follow_ne_blocked {names : List String} (h : ∀ n ∈ names, n.utf8ByteSize ≤ nameLimit)
    (here : List String) : t.follow here names ≠ .blocked := by
  induction names generalizing here with
  | nil =>
    rw [follow]
    exact Found.noConfusion
  | cons name names ih =>
    rw [List.forall_mem_cons] at h
    rw [follow, if_neg (Nat.not_lt.mpr h.1)]
    split
    · exact Found.noConfusion
    · exact ih h.2 _

lemma exists_locate {p : Path} (hnames : ∀ n ∈ (t.cwd.append p).names, n.utf8ByteSize ≤ nameLimit)
    (hpath : p.toText.utf8ByteSize ≤ pathLimit) : ∃ found, t.locate p = .ok found := by
  rw [locate, if_neg (Nat.not_lt.mpr hpath)]
  split
  · exact ⟨none, rfl⟩
  · cases hf : t.follow [] (t.cwd.append p).names with
    | somewhere names => exact ⟨some ⟨"/", names⟩, rfl⟩
    | nowhere => exact ⟨none, rfl⟩
    | blocked => exact (follow_ne_blocked hnames [] hf).elim

lemma locate?_eq_some_iff {p d : Path} :
    t.locate? p = some d ↔
      p.hasNull = false ∧ p.toText.utf8ByteSize ≤ pathLimit ∧
        ∃ names, t.follow [] (t.cwd.append p).names = .somewhere names ∧ d = ⟨"/", names⟩ := by
  rw [locate?, locate]
  cases hnull : p.hasNull with
  | true => simp [Except.toOption]
  | false =>
    by_cases hlong : pathLimit < p.toText.utf8ByteSize
    · simp [Except.toOption, hlong]
    · cases hf : t.follow [] (t.cwd.append p).names <;>
        simp [Except.toOption, hlong, Nat.not_lt.mp hlong, eq_comm]

lemma isFile_of_directory {p d : Path} (hd : t.locate p = .ok (some d))
    (hdirectory : t.file? d = some .directory) : t.isFile p = .ok false := by
  rw [isFile, hd, Except.map, Option.any_some, isFileAt, hdirectory]

lemma exists_isFile {p : Path} (hnames : ∀ n ∈ (t.cwd.append p).names, n.utf8ByteSize ≤ nameLimit)
    (hpath : p.toText.utf8ByteSize ≤ pathLimit) : ∃ found, t.isFile p = .ok found := by
  obtain ⟨place, hplace⟩ := exists_locate hnames hpath
  exact ⟨_, by rw [isFile, hplace]; rfl⟩

section Directory

variable {dir d : Path} (hd : t.locate? dir = some d) (hdirectory : t.isDirectoryAt d = true)

include hd hdirectory

lemma locate?_child {name : String} (hname : name ≠ "..") (f : Path) :
    t.locate? (dir.child name) = some f ↔
      (dir.child name).hasNull = false ∧ (dir.child name).toText.utf8ByteSize ≤ pathLimit ∧
        name.utf8ByteSize ≤ nameLimit ∧ f = d.child name := by
  obtain ⟨-, -, place, hplace, rfl⟩ := locate?_eq_some_iff.mp hd
  have hnames : (t.cwd.append (dir.child name)).names = (t.cwd.append dir).names ++ [name] := by
    rw [Path.append, Path.append, Path.isAbsolute, Path.isAbsolute, Path.child]
    split <;> simp
  rw [locate?_eq_some_iff, hnames, follow_append, hplace]
  refine and_congr_right fun _ => and_congr_right fun _ => ?_
  simp only [follow, hdirectory, Bool.not_true, Bool.false_eq_true, if_false, if_neg hname]
  by_cases hlong : nameLimit < name.utf8ByteSize
  · simp [hlong]
  · simp [hlong, Nat.not_lt.mp hlong, Path.child, eq_comm]

lemma mem_children_iff {name : String} :
    name ∈ t.children dir ↔ ∃ e ∈ t.entries, ∃ rest, e.1.names = d.names ++ name :: rest := by
  rw [children, hd]
  simp only [hdirectory, if_true, List.mem_eraseDups, List.mem_filterMap]
  refine exists_congr fun e => and_congr_right fun _ => ?_
  constructor
  · intro h
    split at h
    · rename_i hprefix
      obtain ⟨below, hbelow⟩ := List.isPrefixOf_iff_prefix.mp hprefix
      rw [← hbelow, List.drop_left, List.head?_eq_some_iff] at h
      obtain ⟨rest, rfl⟩ := h
      exact ⟨rest, hbelow.symm⟩
    · cases h
  · rintro ⟨rest, hrest⟩
    simp [hrest]

lemma file?_of_not_mem {name : String} (h : name ∉ t.children dir) :
    t.file? (d.child name) = none := by
  rw [file?, Option.map_eq_none_iff, List.find?_eq_none]
  intro e he heq
  rw [beq_iff_eq] at heq
  exact h ((mem_children_iff hd hdirectory).mpr ⟨e, he, [], heq⟩)

end Directory

def add (t : FileTree) (added : List (Path × FileEntry)) : FileTree :=
  { t with entries := t.entries ++ added }

variable {added : List (Path × FileEntry)} {dir d : Path}

lemma isDirectoryAt_add {p : Path} (h : t.isDirectoryAt p = true) :
    (t.add added).isDirectoryAt p = true := by
  rw [isDirectoryAt, Bool.or_eq_true] at h ⊢
  refine h.imp_right fun hany => ?_
  rw [add, List.any_append, hany, Bool.true_or]

lemma locate?_add (hd : t.locate? dir = some d) : (t.add added).locate? dir = some d := by
  obtain ⟨hnull, hlong, place, hplace, rfl⟩ := locate?_eq_some_iff.mp hd
  exact locate?_eq_some_iff.mpr
    ⟨hnull, hlong, place, follow_of_more (fun _ => isDirectoryAt_add) hplace, rfl⟩

lemma file?_add (t : FileTree) (added : List (Path × FileEntry)) (p : Path) :
    (t.add added).file? p =
      (t.file? p).or ((added.find? fun e => e.1.names == p.names).map Prod.snd) := by
  rw [file?, file?, add, List.find?_append]
  cases t.entries.find? fun e => e.1.names == p.names <;> rfl

section Added

variable (hd : t.locate? dir = some d) (hdirectory : t.isDirectoryAt d = true)

include hd hdirectory

lemma mem_children_add_iff {name : String} :
    name ∈ (t.add added).children dir ↔
      name ∈ t.children dir ∨ ∃ e ∈ added, ∃ rest, e.1.names = d.names ++ name :: rest := by
  rw [mem_children_iff (locate?_add hd) (isDirectoryAt_add hdirectory),
    mem_children_iff hd hdirectory, add]
  simp only [List.mem_append, or_and_right, exists_or]

lemma locate?_child_add {name : String} (hname : name ≠ "..") :
    (t.add added).locate? (dir.child name) = t.locate? (dir.child name) :=
  Option.ext fun f =>
    (locate?_child (locate?_add hd) (isDirectoryAt_add hdirectory) hname f).trans
      (locate?_child hd hdirectory hname f).symm

lemma bind_file?_child_add {name : String} (hname : name ≠ "..") :
    ((t.add added).locate? (dir.child name)).bind (t.add added).file? =
      (t.locate? (dir.child name)).bind fun _ => (t.file? (d.child name)).or
        ((added.find? fun e => e.1.names == (d.child name).names).map Prod.snd) := by
  rw [locate?_child_add hd hdirectory hname]
  cases hf : t.locate? (dir.child name) with
  | none => rfl
  | some f =>
    obtain ⟨-, -, -, rfl⟩ := (locate?_child hd hdirectory hname f).mp hf
    exact file?_add t added _

end Added

end LineShell.FileTree
