namespace LineShell

abbrev Entries (α : Type) := List (String × α)

namespace Entries

variable {α : Type}

def get? : Entries α → String → Option α
  | [], _ => none
  | (k, v) :: rest, key => if key = k then some v else get? rest key

def has (d : Entries α) (key : String) : Bool :=
  (d.get? key).isSome

def keys (d : Entries α) : List String :=
  d.map Prod.fst

def set : Entries α → String → α → Entries α
  | [], key, value => [(key, value)]
  | (k, v) :: rest, key, value =>
    if k = key then (k, value) :: rest else (k, v) :: set rest key value

def erase (d : Entries α) (key : String) : Entries α :=
  d.filter fun e => e.1 ≠ key

@[simp] theorem get?_nil (key : String) : get? ([] : Entries α) key = none := rfl

theorem get?_cons (k : String) (v : α) (d : Entries α) (key : String) :
    get? ((k, v) :: d) key = if key = k then some v else get? d key := rfl

theorem get?_append (d e : Entries α) (key : String) :
    get? (d ++ e) key = (d.get? key).or (e.get? key) := by
  induction d with
  | nil => rfl
  | cons entry d ih =>
    obtain ⟨k, v⟩ := entry
    rw [List.cons_append, get?_cons, get?_cons, ih]
    by_cases h : key = k <;> simp [h]

theorem has_iff_mem_keys (d : Entries α) (key : String) : d.has key = true ↔ key ∈ d.keys := by
  induction d with
  | nil => simp [has, keys]
  | cons entry d ih =>
    obtain ⟨k, v⟩ := entry
    simp only [has, keys, get?_cons, List.map_cons, List.mem_cons] at ih ⊢
    by_cases h : key = k <;> simp [h, ih]

theorem get?_of_mem {d : Entries α} (hnodup : d.keys.Nodup) {e : String × α} (he : e ∈ d) :
    d.get? e.1 = some e.2 := by
  induction d with
  | nil => cases he
  | cons e' d ih =>
    rw [keys, List.map_cons, List.nodup_cons] at hnodup
    rw [get?_cons]
    rcases List.mem_cons.mp he with rfl | he
    · exact if_pos rfl
    · have hne : e.1 ≠ e'.1 := fun heq => hnodup.1 (heq ▸ List.mem_map_of_mem he)
      rw [if_neg hne]
      exact ih hnodup.2 he

theorem get?_set_self (d : Entries α) (key : String) (value : α) :
    (d.set key value).get? key = some value := by
  induction d with
  | nil => simp [set, get?_cons]
  | cons e d ih =>
    obtain ⟨k, v⟩ := e
    by_cases h : k = key
    · simp [set, h, get?_cons]
    · simp [set, h, get?_cons, Ne.symm h, ih]

theorem get?_set_of_ne (d : Entries α) {key other : String} (value : α) (h : other ≠ key) :
    (d.set key value).get? other = d.get? other := by
  induction d with
  | nil => simp [set, get?_cons, h]
  | cons e d ih =>
    obtain ⟨k, v⟩ := e
    by_cases hk : k = key
    · subst hk
      simp [set, get?_cons, h]
    · simp [set, hk, get?_cons, ih]

end Entries

end LineShell
