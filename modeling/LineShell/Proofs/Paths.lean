import LineShell.Path
import Mathlib

namespace LineShell.Path

section Pieces

variable {s n : List Char}

lemma pieces_append (h : '/' ∉ n) (rest : List Char) :
    pieces (n ++ '/' :: rest) = n :: pieces rest := by
  induction n with
  | nil => rfl
  | cons c n ih =>
    rw [List.mem_cons, not_or] at h
    rw [List.cons_append, pieces, ih h.2]
    exact fun heq => h.1 heq.symm

lemma pieces_eq_singleton (h : '/' ∉ n) : pieces n = [n] := by
  induction n with
  | nil => rfl
  | cons c n ih =>
    rw [List.mem_cons, not_or] at h
    rw [pieces, ih h.2]
    exact fun heq => h.1 heq.symm

lemma not_mem_of_mem_pieces (h : n ∈ pieces s) : '/' ∉ n := by
  induction s generalizing n with
  | nil =>
    obtain rfl := List.mem_singleton.mp h
    exact List.not_mem_nil
  | cons c s ih =>
    by_cases hc : c = '/'
    · rw [hc, pieces, List.mem_cons] at h
      rcases h with rfl | h
      · exact List.not_mem_nil
      · exact ih h
    · rw [pieces] at h
      · cases hs : pieces s with
        | nil =>
          rw [hs] at h
          obtain rfl := List.mem_singleton.mp h
          simpa using Ne.symm hc
        | cons p ps =>
          rw [hs] at ih h
          rcases List.mem_cons.mp h with rfl | h
          · have hp := ih List.mem_cons_self
            simp [hp, Ne.symm hc]
          · exact ih (List.mem_cons_of_mem p h)
      · exact hc

lemma pieces_intercalate {names : List (List Char)} (hne : names ≠ [])
    (h : ∀ n ∈ names, '/' ∉ n) : pieces (['/'].intercalate names) = names := by
  induction names with
  | nil => exact absurd rfl hne
  | cons n names ih =>
    rw [List.forall_mem_cons] at h
    cases names with
    | nil =>
      rw [List.intercalate_singleton]
      exact pieces_eq_singleton h.1
    | cons m names =>
      rw [List.intercalate_cons_cons, List.append_assoc, List.singleton_append,
        pieces_append h.1, ih (List.cons_ne_nil m names) h.2]

end Pieces

/-- A path that a text can stand for. -/
structure Proper (p : Path) : Prop where
  anchor : p.anchor ∈ ["", "/", "//"]
  names : ∀ n ∈ p.names, n ≠ "" ∧ n ≠ "." ∧ '/' ∉ n.toList

lemma anchorOf_mem (s : List Char) : anchorOf s ∈ ["", "/", "//"] := by
  unfold anchorOf
  split <;> decide

lemma anchorOf_append {anchor : String} (hanchor : anchor ∈ ["", "/", "//"]) {s : List Char}
    (hs : s.head? ≠ some '/') : anchorOf (anchor.toList ++ s) = anchor := by
  have hstart : ∀ c rest, s = c :: rest → c ≠ '/' := by
    rintro c rest rfl rfl
    exact hs rfl
  simp only [List.mem_cons, List.not_mem_nil, or_false] at hanchor
  cases s with
  | nil => rcases hanchor with rfl | rfl | rfl <;> rfl
  | cons c rest =>
    have hc := hstart c rest rfl
    rcases hanchor with rfl | rfl | rfl <;> simp [anchorOf, hc]

lemma ofString_proper (s : String) : (ofString s).Proper where
  anchor := anchorOf_mem s.toList
  names n hn := by
    rw [ofString, List.mem_filter, List.mem_map] at hn
    obtain ⟨⟨piece, hpiece, rfl⟩, hvisible⟩ := hn
    obtain ⟨hempty, hdot⟩ := of_decide_eq_true hvisible
    rw [String.toList_ofList]
    exact ⟨hempty, hdot, not_mem_of_mem_pieces hpiece⟩

lemma toList_toText {p : Path} (h : p.anchor ≠ "" ∨ p.names ≠ []) :
    p.toText.toList = p.anchor.toList ++ ['/'].intercalate (p.names.map String.toList) := by
  have hsome : (p.anchor.isEmpty && p.names.isEmpty) = false := by
    simpa [Bool.and_eq_false_iff, imp_iff_not_or] using h
  rw [toText, hsome, if_neg Bool.false_ne_true, String.toList_append, String.toList_intercalate]
  rfl

def namesIn (s : List Char) : List String :=
  ((pieces s).map String.ofList).filter fun n => n ≠ "" ∧ n ≠ "."

lemma ofString_eq (s : String) : ofString s = ⟨anchorOf s.toList, namesIn s.toList⟩ := rfl

lemma namesIn_slash (s : List Char) : namesIn ('/' :: s) = namesIn s := by
  rw [namesIn, pieces, List.map_cons, List.filter_cons_of_neg (by decide)]
  rfl

lemma namesIn_intercalate {names : List String}
    (h : ∀ n ∈ names, n ≠ "" ∧ n ≠ "." ∧ '/' ∉ n.toList) :
    namesIn (['/'].intercalate (names.map String.toList)) = names := by
  cases names with
  | nil => rfl
  | cons n names =>
    have hslash : ∀ m ∈ (n :: names).map String.toList, '/' ∉ m := by
      simpa using ⟨(h n List.mem_cons_self).2.2, fun m hm => (h m (List.mem_cons_of_mem n hm)).2.2⟩
    rw [namesIn, pieces_intercalate (by simp) hslash, List.map_map]
    simp only [Function.comp_def, String.ofList_toList, List.map_id']
    exact List.filter_eq_self.mpr fun m hm => decide_eq_true ⟨(h m hm).1, (h m hm).2.1⟩

lemma head?_intercalate_ne {names : List String}
    (h : ∀ n ∈ names, n ≠ "" ∧ n ≠ "." ∧ '/' ∉ n.toList) :
    (['/'].intercalate (names.map String.toList)).head? ≠ some '/' := by
  cases names with
  | nil => decide
  | cons n names =>
    obtain ⟨hempty, -, hslash⟩ := h n List.mem_cons_self
    cases hn : n.toList with
    | nil => exact absurd (String.toList_eq_nil_iff.mp hn) hempty
    | cons c rest =>
      rw [hn, List.mem_cons, not_or] at hslash
      have hc : (c :: rest).head? ≠ some '/' := fun heq => hslash.1 (Option.some.inj heq).symm
      rw [List.map_cons, hn]
      cases names with
      | nil => rwa [List.map_nil, List.intercalate_singleton]
      | cons m names => rwa [List.map_cons, List.intercalate_cons_cons]

lemma ofString_toText {p : Path} (h : p.Proper) : ofString p.toText = p := by
  by_cases hsome : p.anchor ≠ "" ∨ p.names ≠ []
  · have hnames := namesIn_intercalate h.names
    have hanchored : ∀ anchor ∈ ["", "/", "//"],
        namesIn (anchor.toList ++ ['/'].intercalate (p.names.map String.toList)) = p.names := by
      rw [List.forall_mem_cons, List.forall_mem_cons, List.forall_mem_singleton]
      refine ⟨hnames, ?_, ?_⟩
      · exact (namesIn_slash _).trans hnames
      · exact (namesIn_slash _).trans ((namesIn_slash _).trans hnames)
    rw [ofString_eq, toList_toText hsome, anchorOf_append h.anchor (head?_intercalate_ne h.names),
      hanchored _ h.anchor]
  · push Not at hsome
    obtain ⟨anchor, names⟩ := p
    obtain ⟨rfl, rfl⟩ := hsome
    rfl

lemma Proper.parent {p : Path} (h : p.Proper) : p.parent.Proper where
  anchor := h.anchor
  names n hn := h.names n (List.mem_of_mem_dropLast hn)

lemma Proper.child {p : Path} (h : p.Proper) {name : String}
    (hname : name ≠ "" ∧ name ≠ "." ∧ '/' ∉ name.toList) : (p.child name).Proper where
  anchor := h.anchor
  names n hn := (List.mem_append.mp hn).elim (h.names n) fun hn => List.mem_singleton.mp hn ▸ hname

lemma Proper.append {p q : Path} (hp : p.Proper) (hq : q.Proper) : (p.append q).Proper := by
  rw [Path.append]
  split
  · exact hq
  · exact ⟨hp.anchor, fun n hn => (List.mem_append.mp hn).elim (hp.names n) (hq.names n)⟩

lemma walk_append_singleton (names : List String) (n : String) :
    walk (names ++ [n]) = if n = ".." then (walk names).dropLast else walk names ++ [n] := by
  rw [walk, List.foldl_append]
  rfl

lemma walk_subset (names : List String) : walk names ⊆ names := by
  induction names using List.reverseRecOn with
  | nil => exact List.Subset.refl []
  | append_singleton names n ih =>
    rw [walk_append_singleton]
    split
    · exact fun m hm => List.mem_append_left [n] (ih (List.mem_of_mem_dropLast hm))
    · exact List.append_subset.mpr
        ⟨List.Subset.trans ih (List.subset_append_left _ _), List.subset_append_right _ _⟩

lemma Proper.resolve {cwd p : Path} (hcwd : cwd.Proper) (hp : p.Proper) :
    (resolve cwd p).Proper where
  anchor := by
    change "/" ∈ _
    decide
  names n hn := (hcwd.append hp).names n (walk_subset _ hn)

structure Around (d p : Path) : Prop where
  anchor : d.anchor = p.anchor
  names : d.names <+: p.names

lemma Proper.of_around {p d : Path} (h : p.Proper) (hd : d.Around p) : d.Proper :=
  ⟨hd.anchor ▸ h.anchor, fun n hn => h.names n (hd.names.subset hn)⟩

lemma mem_selfAndParents {d p : Path} : d ∈ p.selfAndParents ↔ d.Around p := by
  simp only [selfAndParents, List.mem_map, List.mem_reverse, List.mem_range]
  constructor
  · rintro ⟨n, -, rfl⟩
    exact ⟨rfl, List.take_prefix n p.names⟩
  · intro h
    obtain ⟨anchor, names⟩ := d
    obtain rfl : anchor = p.anchor := h.anchor
    exact ⟨names.length, Nat.lt_succ_of_le h.names.length_le,
      congrArg _ (List.prefix_iff_eq_take.mp h.names).symm⟩

lemma selfAndParents_pairwise (p : Path) :
    p.selfAndParents.Pairwise fun d e => e.names.length < d.names.length := by
  rw [selfAndParents, List.pairwise_map, List.pairwise_reverse]
  refine (List.pairwise_lt_range (n := p.names.length + 1)).imp_of_mem fun hm hn hlt => ?_
  rw [List.mem_range] at hm hn
  simp only [List.length_take]
  omega

lemma size_intercalate (names : List String) :
    ("/".intercalate names).utf8ByteSize = (names.map fun n => n.utf8ByteSize + 1).sum - 1 := by
  induction names with
  | nil => rfl
  | cons n names ih =>
    cases names with
    | nil => simp
    | cons m names =>
      have hslash : "/".utf8ByteSize = 1 := rfl
      rw [String.intercalate_cons_cons, String.utf8ByteSize_append, String.utf8ByteSize_append, ih,
        hslash]
      simp only [List.map_cons, List.sum_cons]
      omega

lemma size_toText_le {p q : Path} (hanchor : p.anchor = q.anchor)
    (hnames : p.names.Sublist q.names) (hsome : p.names ≠ []) :
    p.toText.utf8ByteSize ≤ q.toText.utf8ByteSize := by
  have hmore : q.names ≠ [] := fun h => hsome (List.sublist_nil.mp (h ▸ hnames))
  have hsum := (hnames.map fun n => n.utf8ByteSize + 1).sum_le_sum fun _ _ => Nat.zero_le _
  rw [toText, toText, if_neg (by simp [hsome]), if_neg (by simp [hmore]),
    String.utf8ByteSize_append, String.utf8ByteSize_append, size_intercalate, size_intercalate,
    hanchor]
  omega

end LineShell.Path
