import LineShell.Proofs.Settings.Variables

namespace LineShell

namespace Settings

def fromVariable? (env : Environment) (key : String) : Except SettingsFailure (Option Datum) :=
  if (sectionKeys.lookup key).isSome then fromVariables? key env
  else .ok ((Entries.get? env (variableStart ++ key)).map .string)

def gather (env : Environment) : List String → Except SettingsFailure (Entries Datum)
  | [] => .ok []
  | key :: rest => do
    let found ← fromVariable? env key
    let others ← gather env rest
    return (found.map fun d => (key, d)).toList ++ others

def addFound (env : Environment) (key : String) (es : Entries Datum) :
    Except SettingsFailure (ForInStep (Entries Datum)) :=
  (fromVariable? env key).map fun found => .yield (es ++ (found.map fun d => (key, d)).toList)

lemma forIn_addFound (env : Environment) (names : List String) (es : Entries Datum) :
    forIn names es (addFound env) = (gather env names).map (es ++ ·) := by
  induction names generalizing es with
  | nil => exact congrArg Except.ok (List.append_nil es).symm
  | cons key names ih =>
    rw [List.forIn_cons, gather, addFound]
    cases fromVariable? env key with
    | error f => rfl
    | ok found =>
      refine (ih _).trans ?_
      cases gather env names with
      | error f => rfl
      | ok others => exact congrArg Except.ok (List.append_assoc es _ others)

lemma ofEnvironment_eq (env : Environment) : ofEnvironment env = gather (normalize env) keys := by
  have hloop : ofEnvironment env = forIn keys [] (addFound (normalize env)) := by
    rw [ofEnvironment]
    simp only [bind_pure]
    congr
    funext key es
    rw [addFound, fromVariable?]
    split
    · cases fromVariables? key (normalize env) with
      | error f => rfl
      | ok found =>
        cases found with
        | none => exact congrArg (Except.ok ∘ ForInStep.yield) (List.append_nil es).symm
        | some d => rfl
    · cases Entries.get? (normalize env) (variableStart ++ key) with
      | none => exact congrArg (Except.ok ∘ ForInStep.yield) (List.append_nil es).symm
      | some value => rfl
  rw [hloop, forIn_addFound]
  cases gather (normalize env) keys <;> rfl

section Gather

variable {env : Environment} {names : List String}

lemma gather_ok (hnames : names.Nodup) {es : Entries Datum} (h : gather env names = .ok es) :
    es.keys.Sublist names ∧ ∀ key ∈ names, fromVariable? env key = .ok (es.get? key) := by
  induction names generalizing es with
  | nil =>
    cases h
    exact ⟨List.Sublist.slnil, by simp⟩
  | cons key names ih =>
    rw [List.nodup_cons] at hnames
    rw [gather] at h
    obtain ⟨found, hfound, h⟩ := bind_eq_ok.mp h
    obtain ⟨others, hothers, h⟩ := bind_eq_ok.mp h
    obtain rfl := Except.ok.inj h
    obtain ⟨hsub, hget⟩ := ih hnames.2 hothers
    have hnew : others.get? key = none :=
      Entries.get?_eq_none_iff.mpr fun hmem => hnames.1 (hsub.subset hmem)
    constructor
    · cases found with
      | none => exact hsub.cons key
      | some d => exact hsub.cons_cons key
    · intro key' hkey'
      rw [Entries.get?_append]
      rcases List.mem_cons.mp hkey' with rfl | hmem
      · rw [hfound, hnew]
        cases found <;> simp [Entries.get?_cons]
      · have hne : key' ≠ key := fun heq => hnames.1 (heq ▸ hmem)
        rw [hget key' hmem]
        cases found <;> simp [Entries.get?_cons, hne]

lemma exists_gather (h : ∀ key ∈ names, ∃ found, fromVariable? env key = .ok found) :
    ∃ es, gather env names = .ok es := by
  induction names with
  | nil => exact ⟨[], rfl⟩
  | cons key names ih =>
    rw [List.forall_mem_cons] at h
    obtain ⟨found, hfound⟩ := h.1
    obtain ⟨others, hothers⟩ := ih h.2
    rw [gather, hfound, hothers]
    exact ⟨_, rfl⟩

end Gather

lemma mem_keys_of_section : ∀ part ∈ sectionKeys.map Prod.fst,
    part ∈ keys ∧ (sectionKeys.lookup part).isSome = true := by
  decide

lemma section_of_lookup : ∀ key ∈ keys, (sectionKeys.lookup key).isSome = true →
    key ∈ sectionKeys.map Prod.fst := by
  decide

end Settings

open Settings

namespace Leaf

def fromEnvironment (l : Leaf) (env : Environment) : Option (Except SettingsFailure Datum) :=
  match l.part? with
  | none => (lastNamed? env (variableStart ++ l.key)).map (.ok ∘ .string)
  | some part => (lastNamed? env (fieldName part l.key)).map (variableValue part [l.key])

lemma key_mem {l : Leaf} (h : l.part? = none) :
    l.key ∈ keys ∧ (sectionKeys.lookup l.key).isSome = false := by
  revert h
  cases l <;> decide

lemma exists_of_mem_listKeys : ∀ e ∈ listKeys, ∃ l : Leaf, l.part? = some e.1 ∧ l.key = e.2 := by
  intro e he
  simp only [listKeys, List.mem_cons, List.not_mem_nil, or_false] at he
  rcases he with rfl | rfl
  · exact ⟨.disabled, rfl, rfl⟩
  · exact ⟨.exitWords, rfl, rfl⟩

end Leaf

section Environment

variable {env : Environment} (henv : env.Plain)

include henv

lemma ofEnvironment_ok {es : Entries Datum} (h : ofEnvironment env = .ok es) :
    HasTables es ∧ Distinct es ∧ es.keys ⊆ keys ∧
      ∀ l : Leaf, (l.look es).map Except.ok = l.fromEnvironment env := by
  rw [ofEnvironment_eq] at h
  obtain ⟨hsub, hget⟩ := gather_ok (by decide) h
  have hpart : ∀ part ∈ sectionKeys.map Prod.fst,
      fromVariables? part (normalize env) = .ok (es.get? part) := by
    intro part hpart
    obtain ⟨hkey, hsection⟩ := mem_keys_of_section part hpart
    rw [← hget part hkey, fromVariable?, if_pos hsection]
  refine ⟨fun part hmem d hd => ?_, ⟨hsub.nodup (by decide), fun part hmem => ?_⟩, hsub.subset,
    fun l => ?_⟩
  · exact (fromVariables?_ok henv hmem (hpart part hmem)).1 d hd
  · exact (fromVariables?_ok henv hmem (hpart part hmem)).2.1
  · rw [Leaf.look, Leaf.fromEnvironment]
    cases hl : l.part? with
    | some part =>
      have hmem := Leaf.part_mem hl
      exact (fromVariables?_ok henv hmem (hpart part hmem)).2.2 l.key
    | none =>
      obtain ⟨hkey, hflag⟩ := Leaf.key_mem hl
      have hread := hget l.key hkey
      rw [fromVariable?, hflag, get?_normalize] at hread
      have hvalue : (lastNamed? env (variableStart ++ l.key)).map .string = es.get? l.key :=
        Except.ok.inj hread
      exact hvalue ▸ Option.map_map ..

lemma exists_variableValue (h : ∀ (l : Leaf) f, l.fromEnvironment env ≠ some (.error f))
    {part : String} (hpart : part ∈ sectionKeys.map Prod.fst) {field value : String}
    (hnamed : lastNamed? env (fieldName part field) = some value) :
    ∃ d, variableValue part [field] value = .ok d := by
  by_cases hlist : isListKey part field
  · obtain ⟨⟨p, k⟩, he, hmatch⟩ := List.any_eq_true.mp hlist
    simp only [Bool.and_eq_true, Bool.or_eq_true, beq_iff_eq] at hmatch
    obtain ⟨rfl, rfl | rfl⟩ := hmatch
    · obtain ⟨l, hl, hkey⟩ := Leaf.exists_of_mem_listKeys _ he
      dsimp only at hl hkey
      have hread := h l
      rw [Leaf.fromEnvironment, hl] at hread
      dsimp only at hread
      rw [hkey, hnamed] at hread
      cases hv : variableValue p [field] value with
      | error f => exact (hread f (congrArg some hv)).elim
      | ok d => exact ⟨d, rfl⟩
    · obtain ⟨e, hmem, hname, -⟩ := exists_of_lastNamed? hnamed
      refine ((henv.single e hmem p hpart _ hname).2 ?_).elim
      rw [String.toList_append]
      exact List.prefix_append _ _
  · refine ⟨.string value, ?_⟩
    simp [variableValue, hlist]

lemma exists_ofEnvironment (h : ∀ (l : Leaf) f, l.fromEnvironment env ≠ some (.error f)) :
    ∃ es, ofEnvironment env = .ok es := by
  rw [ofEnvironment_eq]
  refine exists_gather fun key hkey => ?_
  rw [fromVariable?]
  split
  · rename_i hsection
    have hpart := section_of_lookup key hkey hsection
    exact exists_fromVariables? henv hpart fun _ _ => exists_variableValue henv h hpart
  · exact ⟨_, rfl⟩

end Environment

end LineShell
