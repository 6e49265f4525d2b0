import LineShell.Entries
import Mathlib

namespace LineShell

namespace Entries

variable {α : Type}

lemma mem_keys_set {d : Entries α} {key other : String} {value : α} :
    other ∈ (d.set key value).keys ↔ other = key ∨ other ∈ d.keys := by
  induction d with
  | nil => simp [set, keys]
  | cons e d ih =>
    obtain ⟨k, v⟩ := e
    simp only [keys, List.map_cons, List.mem_cons] at ih ⊢
    rw [set]
    split
    · rename_i hk
      simp [hk]
    · simp only [List.map_cons, List.mem_cons, ih]
      tauto

lemma nodup_keys_set {d : Entries α} (h : d.keys.Nodup) (key : String) (value : α) :
    (d.set key value).keys.Nodup := by
  induction d with
  | nil => simp [set, keys]
  | cons e d ih =>
    obtain ⟨k, v⟩ := e
    rw [keys, List.map_cons, List.nodup_cons] at h
    rw [set]
    split
    · rename_i hk
      subst hk
      exact List.nodup_cons.mpr h
    · rename_i hk
      rw [keys, List.map_cons, List.nodup_cons]
      refine ⟨fun hmem => ?_, ih h.2⟩
      rcases mem_keys_set.mp hmem with heq | hmem
      · exact hk heq
      · exact h.1 hmem

lemma set_of_not_mem {d : Entries α} {key : String} (h : key ∉ d.keys) (value : α) :
    d.set key value = d ++ [(key, value)] := by
  induction d with
  | nil => rfl
  | cons e d ih =>
    obtain ⟨k, v⟩ := e
    rw [keys, List.map_cons, List.mem_cons, not_or] at h
    rw [set, if_neg (Ne.symm h.1), ih h.2]
    rfl

lemma foldl_set_eq {acc es : Entries α} (h : (acc ++ es).keys.Nodup) :
    es.foldl (fun d e => d.set e.1 e.2) acc = acc ++ es := by
  induction es generalizing acc with
  | nil => exact (List.append_nil acc).symm
  | cons e es ih =>
    have hassoc : acc ++ e :: es = (acc ++ [e]) ++ es := List.append_cons acc e es
    have hfree : e.1 ∉ acc.keys := by
      rw [keys, List.map_append, List.map_cons] at h
      exact fun hmem => List.disjoint_of_nodup_append h hmem List.mem_cons_self
    rw [List.foldl_cons, set_of_not_mem hfree, hassoc]
    exact ih (hassoc ▸ h)

lemma get?_eq_none_iff {d : Entries α} {key : String} : d.get? key = none ↔ key ∉ d.keys := by
  rw [← has_iff_mem_keys, has]
  simp

lemma get?_set (d : Entries α) (key other : String) (value : α) :
    (d.set key value).get? other = if other = key then some value else d.get? other := by
  split
  · rename_i h
    rw [h, get?_set_self]
  · rename_i h
    exact get?_set_of_ne d value h

end Entries

end LineShell
