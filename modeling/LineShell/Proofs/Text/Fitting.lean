import LineShell.Render
import Mathlib

/-! Texts that fit a line. Wrapping and printing leave a text of printable ASCII as it is if it is
no longer than the terminal is wide. -/

namespace LineShell

namespace Text

def Plain (s : List Char) : Prop :=
  ∀ c ∈ s, 32 ≤ c.toNat ∧ c.toNat ≤ 126

instance (s : List Char) : Decidable (Plain s) :=
  List.decidableBAll _ s

lemma plain_append {s t : List Char} : Plain (s ++ t) ↔ Plain s ∧ Plain t :=
  List.forall_mem_append

lemma Plain.of_sublist {s t : List Char} (h : Plain t) (hst : s.Sublist t) : Plain s :=
  fun c hc => h c (hst.subset hc)

lemma plain_replicate {c : Char} (h : Plain [c]) (n : Nat) : Plain (List.replicate n c) :=
  fun _ hd => h _ (List.mem_singleton.mpr (List.eq_of_mem_replicate hd))

lemma plain_intercalate {separator : String} (h : Plain separator.toList) {texts : List String}
    (htexts : ∀ t ∈ texts, Plain t.toList) : Plain (separator.intercalate texts).toList := by
  induction texts with
  | nil => rintro c ⟨⟩
  | cons t texts ih =>
    rw [List.forall_mem_cons] at htexts
    cases texts with
    | nil =>
      rw [String.intercalate_singleton]
      exact htexts.1
    | cons u texts =>
      simp only [String.intercalate_cons_cons, String.toList_append, plain_append]
      exact ⟨⟨htexts.1, h⟩, ih htexts.2⟩

lemma Plain.not_mem {s : List Char} (h : Plain s) {c : Char} (hc : ¬ Plain [c]) : c ∉ s :=
  fun hmem => hc (h.of_sublist (List.singleton_sublist.mpr hmem))

section Width

variable {s : List Char}

lemma charWidth_of_plain {c : Char} (h : 32 ≤ c.toNat ∧ c.toNat ≤ 126) : charWidth c = 1 := by
  have hcontrol : (decide (c.toNat < 32) || (decide (127 ≤ c.toNat) && decide (c.toNat < 0xA0)))
      = false := by
    simp only [Bool.or_eq_false_iff, Bool.and_eq_false_iff, decide_eq_false_iff_not]
    omega
  simp only [charWidth, hcontrol]
  rw [if_pos (by omega)]
  rfl

lemma add_of_plain {c : Char} (h : 32 ≤ c.toNat ∧ c.toNat ≤ 126) (cells : Nat)
    (last : Option Char) : Measure.add ⟨cells, last, false⟩ c = ⟨cells + 1, some c, false⟩ := by
  have hjoiner : c ≠ joiner := by
    rintro rfl
    exact absurd h (by decide)
  have hselector : c ≠ emojiSelector := by
    rintro rfl
    exact absurd h (by decide)
  simp only [Measure.add, if_neg hjoiner, if_neg hselector, charWidth_of_plain h]
  rfl

lemma cellWidth_of_plain (h : Plain s) : cellWidth s = s.length := by
  suffices hfold : ∀ (cells : Nat) (last : Option Char),
      (s.foldl Measure.add ⟨cells, last, false⟩).cells = cells + s.length by
    rw [cellWidth, hfold, Nat.zero_add]
  induction s with
  | nil => exact fun _ _ => rfl
  | cons c s ih =>
    intro cells last
    rw [Plain, List.forall_mem_cons] at h
    rw [List.foldl_cons, add_of_plain h.1, ih h.2, List.length_cons]
    omega

end Width

lemma dropTrailing_sublist (p : Char → Bool) (s : List Char) : (dropTrailing p s).Sublist s := by
  rw [← List.reverse_sublist, dropTrailing, List.reverse_reverse]
  exact List.dropWhile_sublist p

lemma dropTrailing_append (p : Char → Bool) (s t : List Char) :
    dropTrailing p (s ++ t) =
      if dropTrailing p t = [] then dropTrailing p s else s ++ dropTrailing p t := by
  simp only [dropTrailing, List.reverse_append, List.dropWhile_append, List.isEmpty_iff,
    List.reverse_eq_nil_iff]
  split
  · rfl
  · rw [List.reverse_append, List.reverse_reverse]

lemma linesOf_of_not_mem {s : List Char} (h : '\n' ∉ s) : linesOf s = [s] := by
  induction s with
  | nil => rfl
  | cons c s ih =>
    rw [List.mem_cons, not_or] at h
    rw [linesOf, if_neg (Ne.symm h.1), ih h.2]

lemma linesOf_append {s : List Char} (h : '\n' ∉ s) (t : List Char) :
    linesOf (s ++ '\n' :: t) = s :: linesOf t := by
  induction s with
  | nil => rfl
  | cons c s ih =>
    rw [List.mem_cons, not_or] at h
    rw [List.cons_append, linesOf, if_neg (Ne.symm h.1), ih h.2]

lemma linesOf_printed {lines : List String} (hne : lines ≠ [])
    (hlines : ∀ l ∈ lines, l.toList ≠ [] ∧ '\n' ∉ l.toList) :
    linesOf (dropTrailing (· = '\n') (lines.flatMap fun l => l.toList ++ ['\n'])) =
      lines.map String.toList := by
  induction lines with
  | nil => exact absurd rfl hne
  | cons l lines ih =>
    rw [List.forall_mem_cons] at hlines
    obtain ⟨⟨hl, hnewline⟩, hlines⟩ := hlines
    rw [List.flatMap_cons, List.map_cons]
    cases lines with
    | nil =>
      have hlast : dropTrailing (· = '\n') l.toList = l.toList := by
        rw [dropTrailing, List.dropWhile_eq_self_iff.mpr, List.reverse_reverse]
        intro hpos hend
        apply hnewline
        rw [← List.mem_reverse, ← of_decide_eq_true hend]
        exact List.getElem_mem hpos
      have hend : dropTrailing (· = '\n') ['\n'] = [] := rfl
      rw [List.flatMap_nil, List.append_nil, dropTrailing_append, hend, if_pos rfl, hlast,
        linesOf_of_not_mem hnewline, List.map_nil]
    | cons m lines =>
      have hmore := ih (List.cons_ne_nil m lines) hlines
      have hkept :
          dropTrailing (· = '\n') ((m :: lines).flatMap fun l => l.toList ++ ['\n']) ≠ [] := by
        intro hnil
        rw [hnil] at hmore
        exact (hlines m List.mem_cons_self).1 (List.cons.inj hmore).1.symm
      rw [dropTrailing_append, if_neg hkept, List.append_assoc, List.singleton_append,
        linesOf_append hnewline, hmore]

lemma tabParts_of_not_mem {s : List Char} (h : '\t' ∉ s) : tabParts s = [s] := by
  induction s with
  | nil => rfl
  | cons c s ih =>
    rw [List.mem_cons, not_or] at h
    rw [tabParts, if_neg (Ne.symm h.1), ih h.2]

lemma length_behind_lt {s : List Char} (hs : s.dropWhile isBlank ≠ []) :
    ((s.dropWhile isBlank).dropWhile fun c => !isBlank c).length
      < (s.dropWhile isBlank).length := by
  obtain ⟨c, rest, hrest⟩ := List.exists_cons_of_ne_nil hs
  have hc : isBlank c = false := by
    have hhead := List.head_dropWhile_not isBlank hs
    simpa only [hrest, List.head_cons] using hhead
  rw [hrest, List.dropWhile_cons_of_pos (by simp [hc]), List.length_cons]
  exact Nat.lt_succ_of_le (List.length_dropWhile_le _ _)

lemma chunks_nil (fuel : Nat) : chunks fuel [] = [] := by
  cases fuel <;> rfl

lemma flatten_chunks {fuel : Nat} {s : List Char} (hfuel : s.length < fuel)
    (hs : s.dropWhile isBlank ≠ []) : (chunks fuel s).flatten = s := by
  induction fuel generalizing s with
  | zero => omega
  | succ fuel ih =>
    let behind := (s.dropWhile isBlank).dropWhile fun c => !isBlank c
    have hbehind : (chunks fuel (behind.dropWhile isBlank)).flatten = behind.dropWhile isBlank := by
      by_cases hmore : behind.dropWhile isBlank = []
      · rw [hmore, chunks_nil, List.flatten_nil]
      · refine ih ?_ (by rwa [List.dropWhile_idempotent])
        -- A word has a character at least, so fuel is left for what comes after it.
        have hword := length_behind_lt hs
        have hblanks := List.length_dropWhile_le isBlank behind
        have hlead := List.length_dropWhile_le isBlank s
        simp only [behind] at hblanks ⊢
        omega
    have hrest : (s.dropWhile isBlank).isEmpty = false := by simpa using hs
    simp only [chunks, hrest, Bool.false_eq_true, if_false, List.flatten_cons]
    rw [hbehind]
    simp only [List.append_assoc, List.takeWhile_append_dropWhile, behind]

lemma Filling.foldl_add {width : Nat} (overflow : Overflow) {words : List (List Char)} (f : Filling)
    (hplain : Plain words.flatten) (hfits : f.used + words.flatten.length ≤ width) :
    words.foldl (Filling.add width overflow) f =
      ⟨f.done, f.line ++ words.flatten, f.used + words.flatten.length⟩ := by
  induction words generalizing f with
  | nil => rw [List.flatten_nil, List.append_nil]; rfl
  | cons word words ih =>
    rw [List.flatten_cons, plain_append] at hplain
    rw [List.flatten_cons, List.length_append] at hfits
    have hends := dropTrailing_sublist isBlank word
    have hneeded : f.used + cellWidth (dropTrailing isBlank word) ≤ width := by
      rw [cellWidth_of_plain (hplain.1.of_sublist hends)]
      have hlength := hends.length_le
      omega
    have hadd : f.add width overflow word =
        { f with line := f.line ++ word, used := f.used + word.length } := by
      simp only [Filling.add, if_pos hneeded, cellWidth_of_plain hplain.1]
    rw [List.foldl_cons, hadd, ih _ hplain.2 (by dsimp only; omega), List.flatten_cons,
      List.length_append, List.append_assoc, Nat.add_assoc]

lemma trimEnd_of_le {width : Nat} {s : List Char} (h : s.length ≤ width) : trimEnd width s = s := by
  rw [trimEnd, Nat.sub_eq_zero_of_le h, Nat.min_zero, Nat.sub_zero, List.take_length]

lemma wrapLine_of_plain {width : Nat} (overflow : Overflow) {s : List Char} (h : Plain s)
    (hfits : s.length ≤ width) : wrapLine width overflow s = [s] := by
  have htabs : expandTabs s = s := by
    rw [expandTabs, tabParts_of_not_mem (h.not_mem (by decide)), joinTabs]
  have hpiece : truncate width overflow (trimEnd width s) = s := by
    rw [trimEnd_of_le hfits, truncate.eq_def, if_pos (by rwa [cellWidth_of_plain h])]
  rw [wrapLine, htabs]
  by_cases hblank : s.dropWhile isBlank = []
  · have hwords : chunks (s.length + 1) s = [] := by simp [chunks, hblank]
    simp only [hwords, List.isEmpty_nil, if_true, List.map_cons, List.map_nil, hpiece]
  · have hflatten := flatten_chunks s.length.lt_succ_self hblank
    have hwords : (chunks (s.length + 1) s).isEmpty = false := by
      rw [List.isEmpty_eq_false_iff]
      intro hnil
      rw [hnil, List.flatten_nil] at hflatten
      exact hblank (by rw [← hflatten]; rfl)
    have hfilled : (chunks (s.length + 1) s).foldl (Filling.add width overflow) ⟨[], [], 0⟩ =
        ⟨[], s, s.length⟩ := by
      rw [Filling.foldl_add overflow _ (by rwa [hflatten]) (by rwa [hflatten, Nat.zero_add]),
        hflatten, List.nil_append, Nat.zero_add]
    simp only [hwords, Bool.false_eq_true, if_false, hfilled,
      List.reverse_singleton, List.map_cons, List.map_nil, hpiece]

lemma printable_of_plain {s : String} (h : Plain s.toList) : printable s = s.toList := by
  rw [printable, List.filter_eq_self]
  intro c hc
  have hrange := h c hc
  simp only [isTerminalControl, Bool.not_eq_true', Bool.or_eq_false_iff, beq_eq_false_iff_ne]
  omega

end Text

lemma Render.print_of_plain {s : String} (h : Text.Plain s.toList)
    (hfits : s.length ≤ terminalWidth) : print s = s ++ "\n" := by
  have hline : Text.linesOf s.toList = [s.toList] := Text.linesOf_of_not_mem (h.not_mem (by decide))
  rw [print, Text.printable_of_plain h, Text.wrap, hline, List.flatMap_singleton,
    Text.wrapLine_of_plain .fold h hfits, List.flatMap_singleton, String.ofList_append,
    String.ofList_toList]

end LineShell
