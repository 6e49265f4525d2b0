import LineShell.Proofs.Settings.Layers

namespace LineShell

namespace Settings

lemma foldCase_foldCase (s : String) : foldCase (foldCase s) = foldCase s := by
  simp [foldCase, Function.comp_def]

def lastNamed? (env : Environment) (name : String) : Option String :=
  (env.reverse.find? fun e => foldCase e.1 == name).map Prod.snd

lemma get?_normalize (env : Environment) (name : String) :
    Entries.get? (normalize env) name = lastNamed? env name := by
  have hfold : ∀ acc : Entries String,
      Entries.get? (env.foldl (fun es e => Entries.set es (foldCase e.1) e.2) acc) name
        = (lastNamed? env name).or (acc.get? name) := by
    induction env with
    | nil => exact fun acc => rfl
    | cons e env ih =>
      intro acc
      rw [List.foldl_cons, ih, Entries.get?_set, lastNamed?, lastNamed?, List.reverse_cons,
        List.find?_append]
      cases env.reverse.find? fun e => foldCase e.1 == name with
      | some e' => rfl
      | none =>
        by_cases hname : name = foldCase e.1
        · simp [hname]
        · simp [hname, Ne.symm hname]
  exact (hfold []).trans (Option.or_none)

lemma nodup_normalize (env : Environment) : (Entries.keys (normalize env)).Nodup := by
  have hfold : ∀ acc : Entries String, acc.keys.Nodup →
      (Entries.keys (env.foldl (fun es e => Entries.set es (foldCase e.1) e.2) acc)).Nodup := by
    induction env with
    | nil => exact fun acc h => h
    | cons e env ih => exact fun acc h => ih _ (Entries.nodup_keys_set h _ _)
  exact hfold [] List.nodup_nil

lemma exists_of_lastNamed? {env : Environment} {name value : String}
    (h : lastNamed? env name = some value) : ∃ e ∈ env, foldCase e.1 = name ∧ e.2 = value := by
  rw [lastNamed?, Option.map_eq_some_iff] at h
  obtain ⟨e, he, hvalue⟩ := h
  have hname := List.find?_some he
  rw [beq_iff_eq] at hname
  exact ⟨e, List.mem_reverse.mp (List.mem_of_find?_eq_some he), hname, hvalue⟩

lemma exists_of_mem_normalize {env : Environment} {name : String}
    (h : name ∈ Entries.keys (normalize env)) : ∃ e ∈ env, foldCase e.1 = name := by
  rw [← Entries.has_iff_mem_keys, Entries.has, get?_normalize] at h
  obtain ⟨value, hvalue⟩ := Option.isSome_iff_exists.mp h
  obtain ⟨e, he, hname, -⟩ := exists_of_lastNamed? hvalue
  exact ⟨e, he, hname⟩

def fieldName (part field : String) : String :=
  variableStart ++ part ++ "__" ++ field

lemma splitName_eq {s : List Char} (h : ¬ delimiter <:+: s) : splitName s = [String.ofList s] := by
  have hgo : ∀ (s part : List Char), ¬ delimiter <:+: s →
      splitName.go part s = [String.ofList (part.reverse ++ s)] := by
    intro s part h
    fun_induction splitName.go part s with
    | case1 part rest ih => exact (h ⟨[], rest, rfl⟩).elim
    | case2 part c rest hne ih =>
      rw [ih fun hrest => h (hrest.trans (List.suffix_cons c rest).isInfix)]
      simp
    | case3 part => simp
  exact hgo s [] h

end Settings

open Settings

/-- The variables of sections set single fields: none sets a section as a whole, or something
inside of a field. -/
structure Environment.Plain (env : Environment) : Prop where
  noSection : ∀ e ∈ env, ∀ part ∈ sectionKeys.map Prod.fst, foldCase e.1 ≠ variableStart ++ part
  single : ∀ e ∈ env, ∀ part ∈ sectionKeys.map Prod.fst, ∀ field,
    foldCase e.1 = fieldName part field →
      ¬ delimiter <:+: field.toList ∧ ¬ variableStart.toList <+: field.toList

namespace Settings

lemma fieldName_toList (part field : String) :
    (fieldName part field).toList =
      (variableStart ++ part).toList ++ delimiter ++ field.toList := by
  simp [fieldName, String.toList_append, delimiter]

lemma fieldName_injective (part : String) : Function.Injective (fieldName part) := by
  intro field field' h
  have hlist := congrArg String.toList h
  rw [fieldName_toList, fieldName_toList] at hlist
  exact String.toList_inj.mp (List.append_cancel_left hlist)

lemma exists_field_iff (part name : String) :
    ((variableStart ++ part).toList ++ delimiter).isPrefixOf name.toList = true ↔
      ∃ field, name = fieldName part field := by
  rw [List.isPrefixOf_iff_prefix]
  constructor
  · rintro ⟨rest, hrest⟩
    refine ⟨String.ofList rest, String.toList_inj.mp ?_⟩
    rw [fieldName_toList, ← hrest, String.toList_ofList]
  · rintro ⟨field, rfl⟩
    exact ⟨field.toList, (fieldName_toList part field).symm⟩

def addVariable (part : String) (es : Entries Datum) (e : String × String) :
    Except SettingsFailure (Entries Datum) :=
  let start := (variableStart ++ part).toList ++ delimiter
  if start.isPrefixOf e.1.toList then
    let keys := splitName (e.1.toList.drop start.length)
    (variableValue part keys e.2).map fun d => setNested keys d es
  else .ok es

lemma fromKeys_eq (part : String) (env : Environment) :
    fromKeys part env = env.foldlM (addVariable part) [] := rfl

section Fields

variable {part : String} {es es' : Entries Datum} {field value : String} {e : String × String}

lemma addVariable_field (h : ¬ delimiter <:+: field.toList) :
    addVariable part es (fieldName part field, value) =
      (variableValue part [field] value).map fun d => es.set field d := by
  rw [addVariable]
  dsimp only
  rw [if_pos ((exists_field_iff part _).mpr ⟨field, rfl⟩), fieldName_toList, List.drop_left,
    splitName_eq h, String.ofList_toList]
  rfl

lemma addVariable_other (h : ∀ field, e.1 ≠ fieldName part field) :
    addVariable part es e = .ok es := by
  rw [addVariable]
  refine if_neg fun hstart => ?_
  obtain ⟨field, hfield⟩ := (exists_field_iff part e.1).mp hstart
  exact h field hfield

lemma addVariable_eq_ok
    (hsingle : ∀ field, e.1 = fieldName part field → ¬ delimiter <:+: field.toList)
    (h : addVariable part es e = .ok es') :
    (∃ field d, e.1 = fieldName part field ∧ variableValue part [field] e.2 = .ok d ∧
      es' = es.set field d) ∨ (∀ field, e.1 ≠ fieldName part field) ∧ es' = es := by
  obtain ⟨name, value⟩ := e
  by_cases hfor : ∃ field, name = fieldName part field
  · obtain ⟨field, rfl⟩ := hfor
    rw [addVariable_field (hsingle field rfl)] at h
    obtain ⟨d, hd, hset⟩ := map_eq_ok.mp h
    exact .inl ⟨field, d, rfl, hd, hset.symm⟩
  · have hother : ∀ field, name ≠ fieldName part field := fun field hf => hfor ⟨field, hf⟩
    rw [addVariable_other hother] at h
    exact .inr ⟨hother, (Except.ok.inj h).symm⟩

variable {env : Environment}
  (hsingle : ∀ e ∈ env, ∀ field, e.1 = fieldName part field → ¬ delimiter <:+: field.toList)

include hsingle

lemma foldlM_addVariable (hnodup : (Entries.keys env).Nodup)
    (h : env.foldlM (addVariable part) es = .ok es') (hes : es.keys.Nodup) :
    es'.keys.Nodup ∧ ∀ field, (es'.get? field).map Except.ok =
      ((Entries.get? env (fieldName part field)).map (variableValue part [field])).or
        ((es.get? field).map .ok) := by
  induction env generalizing es with
  | nil =>
    cases h
    exact ⟨hes, fun _ => rfl⟩
  | cons e env ih =>
    rw [Entries.keys, List.map_cons, List.nodup_cons] at hnodup
    rw [List.forall_mem_cons] at hsingle
    rw [List.foldlM_cons] at h
    obtain ⟨mid, hadded, hrest⟩ := bind_eq_ok.mp h
    rcases addVariable_eq_ok hsingle.1 hadded with ⟨own, d, hname, hd, rfl⟩ | ⟨hother, rfl⟩
    · obtain ⟨hkeys, hget⟩ := ih hsingle.2 hnodup.2 hrest (Entries.nodup_keys_set hes own d)
      refine ⟨hkeys, fun field => ?_⟩
      rw [hget, Entries.get?_set, Entries.get?_cons]
      by_cases hown : field = own
      · -- no variable behind this one has its name, so that it stands
        rw [hown, if_pos rfl, if_pos hname.symm, ← hname, Entries.get?_eq_none_iff.mpr hnodup.1]
        simp [hd]
      · have hne : fieldName part field ≠ e.1 :=
          fun heq => hown (fieldName_injective part (heq.trans hname))
        rw [if_neg hown, if_neg hne]
    · obtain ⟨hkeys, hget⟩ := ih hsingle.2 hnodup.2 hrest hes
      refine ⟨hkeys, fun field => ?_⟩
      rw [hget, Entries.get?_cons, if_neg (hother field).symm]

lemma exists_foldlM_addVariable
    (hvalue : ∀ e ∈ env, ∀ field, e.1 = fieldName part field →
      ∃ d, variableValue part [field] e.2 = .ok d) (es : Entries Datum) :
    ∃ es', env.foldlM (addVariable part) es = .ok es' := by
  induction env generalizing es with
  | nil => exact ⟨es, rfl⟩
  | cons e env ih =>
    obtain ⟨name, value⟩ := e
    rw [List.forall_mem_cons] at hsingle hvalue
    rw [List.foldlM_cons]
    by_cases hfor : ∃ field, name = fieldName part field
    · obtain ⟨field, rfl⟩ := hfor
      obtain ⟨d, hd⟩ := hvalue.1 field rfl
      rw [addVariable_field (hsingle.1 field rfl), hd]
      exact ih hsingle.2 hvalue.2 _
    · rw [addVariable_other fun field hf => hfor ⟨field, hf⟩]
      exact ih hsingle.2 hvalue.2 es

end Fields

lemma properCase_eq {part : String} {es : Entries Datum} (hnodup : es.keys.Nodup)
    (hfolded : ∀ key ∈ es.keys, foldCase key = key) : properCase part es = es := by
  have hset : properCase part es =
      es.foldl (fun (out : Entries Datum) e => out.set e.1 e.2) [] := by
    refine List.foldl_ext _ _ _ fun out e he => ?_
    have hkey : foldCase e.1 = e.1 := hfolded e.1 (List.mem_map_of_mem he)
    cases hfound : ((sectionKeys.lookup part).getD []).find? fun k => k == foldCase e.1 with
    | none => rfl
    | some k =>
      have hk := List.find?_some hfound
      rw [beq_iff_eq, hkey] at hk
      rw [hk]
      rfl
  exact hset.trans (Entries.foldl_set_eq hnodup)

lemma foldCase_field {part field : String}
    (h : foldCase (fieldName part field) = fieldName part field) : foldCase field = field := by
  have hlist := congrArg String.toList h
  simp only [foldCase, String.toList_ofList, fieldName_toList, List.map_append] at hlist
  have hfield := (List.append_inj hlist (by simp)).2
  rw [foldCase, hfield, String.ofList_toList]

end Settings

open Settings

instance Environment.decidablePlain (env : Environment) : Decidable env.Plain :=
  decidable_of_iff (∀ e ∈ env, ∀ part ∈ sectionKeys.map Prod.fst,
      let start := (variableStart ++ part).toList ++ delimiter
      let field := (foldCase e.1).toList.drop start.length
      foldCase e.1 ≠ variableStart ++ part ∧
        (start.isPrefixOf (foldCase e.1).toList →
          ¬ delimiter <:+: field ∧ ¬ variableStart.toList <+: field)) <| by
    constructor
    · refine fun h => ⟨fun e he part hpart => (h e he part hpart).1, ?_⟩
      intro e he part hpart field hfield
      have hsingle := (h e he part hpart).2
      rw [hfield, fieldName_toList, List.drop_left, ← fieldName_toList] at hsingle
      exact hsingle ((exists_field_iff part _).mpr ⟨field, rfl⟩)
    · intro h e he part hpart
      refine ⟨h.noSection e he part hpart, fun hstart => ?_⟩
      obtain ⟨field, hfield⟩ := (exists_field_iff part _).mp hstart
      rw [hfield, fieldName_toList, List.drop_left]
      exact h.single e he part hpart field hfield

section Environment

variable {env : Environment} (henv : env.Plain) {part : String}
  (hpart : part ∈ sectionKeys.map Prod.fst)

include henv hpart

lemma Environment.Plain.single_normalize :
    ∀ e ∈ normalize env, ∀ field, e.1 = fieldName part field → ¬ delimiter <:+: field.toList := by
  intro e he field hfield
  obtain ⟨e', he', hname⟩ := exists_of_mem_normalize (List.mem_map_of_mem he)
  exact (henv.single e' he' part hpart field (hname.trans hfield)).1

lemma fromVariables?_eq :
    fromVariables? part (normalize env) = (fromKeys part (normalize env)).map fun single =>
      if single.isEmpty then none else some (.object (properCase part single)) := by
  have hnone : (normalize env).find? (fun e => e.1 == variableStart ++ part) = none := by
    rw [List.find?_eq_none]
    intro e he hname
    obtain ⟨e', he', hfold⟩ := exists_of_mem_normalize (List.mem_map_of_mem he)
    exact henv.noSection e' he' part hpart (hfold.trans (beq_iff_eq.mp hname))
  rw [fromVariables?, hnone]
  cases fromKeys part (normalize env) <;> rfl

lemma fromVariables?_ok {found : Option Datum}
    (h : fromVariables? part (normalize env) = .ok found) :
    (∀ d, found = some d → ∃ table, d = .object table) ∧
      (Entries.keys ((found.map Datum.entries).getD [])).Nodup ∧
      ∀ field, (Entries.get? ((found.map Datum.entries).getD []) field).map Except.ok =
        (lastNamed? env (fieldName part field)).map (variableValue part [field]) := by
  rw [fromVariables?_eq henv hpart] at h
  obtain ⟨es, hkeys, hfound⟩ := map_eq_ok.mp h
  obtain ⟨hnodup, hget⟩ := foldlM_addVariable (henv.single_normalize hpart)
    (nodup_normalize env) hkeys List.nodup_nil
  have hget' : ∀ field, (es.get? field).map Except.ok =
      (lastNamed? env (fieldName part field)).map (variableValue part [field]) := by
    intro field
    rw [hget, get?_normalize]
    exact Option.or_none
  -- names of variables are in lower case, and so are the keys: each is in its proper case
  have hfolded : ∀ key ∈ es.keys, foldCase key = key := by
    intro key hkey
    obtain ⟨d, hd⟩ := Option.isSome_iff_exists.mp ((Entries.has_iff_mem_keys es key).mpr hkey)
    have hsome := hget' key
    rw [hd] at hsome
    obtain ⟨value, hvalue, -⟩ := Option.map_eq_some_iff.mp hsome.symm
    obtain ⟨e, -, hname, -⟩ := exists_of_lastNamed? hvalue
    exact foldCase_field (by rw [← hname, foldCase_foldCase])
  rw [properCase_eq hnodup hfolded] at hfound
  subst hfound
  cases es with
  | nil => exact ⟨by rintro _ ⟨⟩, hnodup, hget'⟩
  | cons e es =>
    refine ⟨?_, hnodup, hget'⟩
    rintro _ ⟨⟩
    exact ⟨_, rfl⟩

lemma exists_fromVariables?
    (hvalue : ∀ field value, lastNamed? env (fieldName part field) = some value →
      ∃ d, variableValue part [field] value = .ok d) :
    ∃ found, fromVariables? part (normalize env) = .ok found := by
  have hread : ∀ e ∈ normalize env, ∀ field, e.1 = fieldName part field →
      ∃ d, variableValue part [field] e.2 = .ok d := by
    intro e he field hfield
    refine hvalue field e.2 ?_
    rw [← get?_normalize, ← hfield]
    exact Entries.get?_of_mem (nodup_normalize env) he
  obtain ⟨es, hes⟩ := exists_foldlM_addVariable (henv.single_normalize hpart) hread []
  rw [fromVariables?_eq henv hpart, fromKeys_eq, hes]
  exact ⟨_, rfl⟩

end Environment

end LineShell
