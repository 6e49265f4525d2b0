import LineShell.Decimal.Layout
import LineShell.Text.Upper
import Mathlib

namespace LineShell

def closers (s : String) : Nat :=
  s.toList.count '\x7d'

def closersOf (tokens : List String) : Nat :=
  (tokens.flatMap String.toList).count '\x7d'

lemma closers_ofList (s : List Char) : closers (String.ofList s) = s.count '\x7d' := by
  rw [closers, String.toList_ofList]

lemma closers_append (s t : String) : closers (s ++ t) = closers s + closers t := by
  simp only [closers, String.toList_append, List.count_append]

lemma closersOf_cons (s : String) (tokens : List String) :
    closersOf (s :: tokens) = closers s + closersOf tokens := by
  rw [closersOf, List.flatMap_cons, List.count_append]
  rfl

lemma closersOf_reverse (tokens : List String) : closersOf tokens.reverse = closersOf tokens :=
  (tokens.reverse_perm.flatMap_right String.toList).count_eq _

lemma closersOf_eq_zero {tokens : List String} (h : ∀ s ∈ tokens, closers s = 0) :
    closersOf tokens = 0 := by
  induction tokens with
  | nil => rfl
  | cons s tokens ih =>
    have hs := h s List.mem_cons_self
    have hrest := ih fun t ht => h t (List.mem_cons_of_mem s ht)
    rw [closersOf_cons, hs, hrest]

lemma closers_intercalate {separator : String} (h : closers separator = 0) (tokens : List String) :
    closers (separator.intercalate tokens) = closersOf tokens := by
  induction tokens with
  | nil => rfl
  | cons s tokens ih =>
    cases tokens with
    | nil =>
      have hnil : closersOf [] = 0 := rfl
      rw [String.intercalate_singleton, closersOf_cons, hnil, Nat.add_zero]
    | cons t tokens =>
      rw [String.intercalate_cons_cons, closers_append, closers_append, h, ih, closersOf_cons s,
        Nat.add_zero]

lemma closers_eq_zero_of_sublist {s : String} (hs : closers s = 0) {t : List Char}
    (h : t.Sublist s.toList) : closers (String.ofList t) = 0 := by
  have hle : t.count '\x7d' ≤ closers s := h.count_le _
  rw [closers_ofList]
  omega

namespace Decimal

lemma closers_zeros (n : Nat) : closers (String.ofList (List.replicate n '0')) = 0 := by
  rw [closers_ofList, List.count_replicate]
  rfl

lemma isDigit_of_mem_natText {n : Nat} {c : Char} (h : c ∈ (natText n).toList) :
    c.isDigit = true := by
  rw [natText, String.toList_ofList] at h
  exact Nat.isDigit_of_mem_toDigits (by decide) (by decide) h

lemma closers_natText (n : Nat) : closers (natText n) = 0 := by
  rw [closers, List.count_eq_zero]
  intro h
  exact absurd (isDigit_of_mem_natText h) (by decide)

lemma closers_intText (n : Int) : closers (intText n) = 0 := by
  have hminus : closers "-" = 0 := by decide
  cases n with
  | ofNat n => exact closers_natText n
  | negSucc n => rw [intText, closers_append, hminus, closers_natText]

lemma closers_padZeros (width : Nat) {s : String} (h : closers s = 0) :
    closers (padZeros width s) = 0 := by
  rw [padZeros, closers_append, closers_zeros, h]

lemma closers_positional {ds : String} (h : closers ds = 0) (point : Int) :
    closers (positional ds point) = 0 := by
  have hstart : closers "0." = 0 := by decide
  have hpoint : closers "." = 0 := by decide
  have hend : closers ".0" = 0 := by decide
  rw [positional]
  dsimp only
  split
  · rw [closers_append, closers_append, hstart, closers_zeros, h]
  split
  · rw [closers_append, closers_append, h, closers_zeros, hend]
  · rw [closers_append, closers_append, hpoint,
      closers_eq_zero_of_sublist h (List.take_sublist _ _),
      closers_eq_zero_of_sublist h (List.drop_sublist _ _)]

lemma closers_decimal (l : Layout) (s : Scientific) : closers (l.decimal s) = 0 := by
  have hdigits := closers_natText s.digits
  have hpoint : closers "." = 0 := by decide
  have hexponent : closers "e" = 0 := by decide
  rw [Layout.decimal]
  dsimp only
  split
  · exact closers_positional hdigits _
  · have hsign : ∀ e : Int, closers (if e < 0 then "-" else "+") = 0 := by
      intro e
      split <;> decide
    rw [closers_append, closers_append, closers_append, hexponent, hsign,
      closers_padZeros _ (closers_natText _)]
    cases hrest : (natText s.digits).toList.drop 1 with
    | nil => exact hdigits
    | cons c rest =>
      dsimp only
      rw [closers_append, closers_append, hpoint,
        closers_eq_zero_of_sublist hdigits (List.take_sublist _ _), ← hrest,
        closers_eq_zero_of_sublist hdigits (List.drop_sublist _ _)]

lemma closers_floatText (x : Float) : closers (floatText x) = 0 := by
  rw [floatText, Layout.float]
  split
  · decide
  · split <;> decide
  · rename_i negative m e _
    have hsign : closers (if negative then "-" else "") = 0 := by
      split <;> decide
    have hvalue : closers (if m = 0 then "0.0" else Layout.plain.decimal (shortest m e)) = 0 := by
      split
      · decide
      · exact closers_decimal _ _
    rw [closers_append, hsign, hvalue]

lemma closers_numberText (x : Float) : closers (numberText x) = 0 := by
  rw [numberText]
  split
  · exact closers_intText _
  · exact closers_floatText x

end Decimal

namespace Text

lemma eq_of_ofNat_eq {n : Nat} (h : Char.ofNat n = '\x7d') : n = 125 := by
  by_cases hn : n.isValidChar
  · have htoNat : (Char.ofNat n).toNat = n := by
      simp only [Char.ofNat, hn, dif_pos]
      rfl
    rw [h] at htoNat
    exact htoNat.symm
  · simp only [Char.ofNat, hn, dif_neg, not_false_eq_true] at h
    exact absurd h (by decide)

lemma toUpper_avoids : ∀ n < 128, n ≠ 125 → (Char.ofNat n).toUpper ≠ '\x7d' := by
  decide

lemma capitalRuns_avoid : ∀ r ∈ capitalRuns,
    r.last < 128 ∨ r.last + r.shift < 125 ∨ 125 < (max r.first 128 : Nat) + r.shift := by
  decide +kernel

lemma capitalSequences_avoid : ∀ e ∈ capitalSequences, '\x7d' ∉ e.2.map Char.ofNat := by
  decide +kernel

lemma not_mem_upperChar {c : Char} (h : c ≠ '\x7d') : '\x7d' ∉ upperChar c := by
  have hc : c.toNat ≠ 125 := by
    intro hn
    rw [← Char.ofNat_toNat c, hn] at h
    exact h rfl
  rw [upperChar]
  split
  · rename_i hsmall
    have hupper := toUpper_avoids c.toNat hsmall hc
    rw [Char.ofNat_toNat] at hupper
    simpa only [List.mem_singleton] using hupper.symm
  split
  · rename_i hsmall r hr
    have hrange := List.find?_some hr
    simp only [Bool.and_eq_true, decide_eq_true_eq] at hrange
    have havoid := capitalRuns_avoid r (List.mem_of_find?_eq_some hr)
    rw [List.mem_singleton]
    intro hcapital
    have hvalue := eq_of_ofNat_eq hcapital.symm
    omega
  split
  · rename_i ns hns
    obtain ⟨l, r, hlist, -⟩ := List.lookup_eq_some_iff.mp hns
    apply capitalSequences_avoid (c.toNat, ns)
    rw [hlist]
    exact List.mem_append_right l List.mem_cons_self
  · simpa only [List.mem_singleton] using h.symm

lemma closers_upper (s : String) : closers (upper s) = closers s := by
  have hchar : ∀ c, (upperChar c).count '\x7d' = [c].count '\x7d' := by
    intro c
    by_cases hc : c = '\x7d'
    · rw [hc]
      rfl
    · rw [List.count_eq_zero.mpr (not_mem_upperChar hc), List.count_eq_zero.mpr]
      simpa only [List.mem_singleton] using Ne.symm hc
  rw [upper, closers_ofList, closers]
  induction s.toList with
  | nil => rfl
  | cons c cs ih => rw [List.flatMap_cons, List.count_append, hchar, ih, ← List.count_append]; rfl

end Text

end LineShell
