import LineShell.Proofs.Parameter.FirstFault

namespace LineShell

namespace Schema

def Sound (schema : List ParameterSpec) : Prop :=
  (schema.map (·.name)).Nodup ∧
    schema.Pairwise fun p q => p.isOptional = true → q.isOptional = true

instance (schema : List ParameterSpec) : Decidable (Sound schema) :=
  inferInstanceAs (Decidable (_ ∧ _))

/-- What is wrong with a slot behind others. A repeated name is told first. -/
inductive Fault (front : List ParameterSpec) (p : ParameterSpec) : DefinitionFault → Prop
  | repeated : p.name ∈ front.map (·.name) → Fault front p (.repeatedParameter p.name)
  | late : p.name ∉ front.map (·.name) → p.isOptional = false →
      (∃ q ∈ front, q.isOptional = true) → Fault front p .requiredAfterOptional

def counts (schema : List ParameterSpec) : Arity :=
  ⟨schema.countP fun p => !p.isOptional, schema.countP fun p => p.isOptional⟩

variable {front : List ParameterSpec} {p : ParameterSpec} {fault : DefinitionFault}

lemma sound_append_singleton :
    Sound (front ++ [p]) ↔ Sound front ∧ ∀ fault, ¬ Fault front p fault := by
  have hfault : (∀ fault, ¬ Fault front p fault) ↔ p.name ∉ front.map (·.name) ∧
      ∀ q ∈ front, q.isOptional = true → p.isOptional = true := by
    constructor
    · intro hnone
      have hname : p.name ∉ front.map (·.name) := fun hmem => hnone _ (.repeated hmem)
      refine ⟨hname, fun q hq hopt => ?_⟩
      by_contra hreq
      exact hnone _ (.late hname (Bool.not_eq_true _ ▸ hreq) ⟨q, hq, hopt⟩)
    · rintro ⟨hname, hlast⟩ fault hfault
      cases hfault with
      | repeated hmem => exact hname hmem
      | late _ hreq hopt =>
        obtain ⟨q, hq, hopt⟩ := hopt
        rw [hlast q hq hopt] at hreq
        cases hreq
  rw [hfault, Sound, Sound, List.map_append, List.map_singleton, List.nodup_append_comm]
  simp only [List.singleton_append, List.nodup_cons, List.pairwise_append, List.pairwise_singleton,
    List.mem_singleton, forall_eq]
  tauto

def arityBehind (front rest : List ParameterSpec) : Except DefinitionFault Arity :=
  arityFrom (front.map (·.name)).reverse (counts front) rest

lemma arityBehind_cons_of_fault {rest : List ParameterSpec} (h : Fault front p fault) :
    arityBehind front (p :: rest) = .error fault := by
  rw [arityBehind, arityFrom]
  cases h with
  | repeated hmem => rw [if_pos (List.mem_reverse.mpr hmem)]
  | late hname hreq hopt =>
    have hcount : (counts front).optional ≠ 0 := by
      obtain ⟨q, hq, hopt⟩ := hopt
      exact (List.countP_pos_iff.mpr ⟨q, hq, hopt⟩).ne'
    rw [if_neg (fun hmem => hname (List.mem_reverse.mp hmem)), if_neg (by simp [hreq]),
      if_pos hcount]

lemma arityBehind_cons {rest : List ParameterSpec} (h : ∀ fault, ¬ Fault front p fault) :
    arityBehind front (p :: rest) = arityBehind (front ++ [p]) rest := by
  have hname : p.name ∉ (front.map (·.name)).reverse :=
    fun hmem => h _ (.repeated (List.mem_reverse.mp hmem))
  rw [arityBehind, arityFrom, if_neg hname, arityBehind]
  cases hp : p.isOptional with
  | true => simp [counts, hp]
  | false =>
    have hcount : (counts front).optional = 0 := by
      by_contra hne
      obtain ⟨q, hq, hopt⟩ := List.countP_pos_iff.mp (Nat.pos_of_ne_zero hne)
      exact h _ (.late (fun hmem => hname (List.mem_reverse.mpr hmem)) hp ⟨q, hq, hopt⟩)
    rw [if_neg Bool.false_ne_true, if_neg (not_not.mpr hcount)]
    simp [counts, hp]

lemma arity_append {front : List ParameterSpec} (h : Sound front) (rest : List ParameterSpec) :
    arity (front ++ rest) = arityBehind front rest := by
  induction front using List.reverseRecOn generalizing rest with
  | nil => rfl
  | append_singleton front p ih =>
    obtain ⟨hfront, hp⟩ := sound_append_singleton.mp h
    rw [List.append_assoc, List.singleton_append, ih hfront, arityBehind_cons hp]

lemma arity_of_sound {schema : List ParameterSpec} (h : Sound schema) :
    arity schema = .ok (counts schema) := by
  have hall := arity_append h []
  rwa [List.append_nil] at hall

lemma arity_of_fault {behind : List ParameterSpec} (hfront : Sound front)
    (h : Fault front p fault) : arity (front ++ p :: behind) = .error fault :=
  (arity_append hfront _).trans (arityBehind_cons_of_fault h)

lemma sound_or_fault (schema : List ParameterSpec) :
    Sound schema ∨ ∃ front p behind fault, schema = front ++ p :: behind ∧ Sound front ∧
      Fault front p fault := by
  induction schema using List.reverseRecOn with
  | nil => exact .inl ⟨List.nodup_nil, List.Pairwise.nil⟩
  | append_singleton schema p ih =>
    rcases ih with hsound | ⟨front, q, behind, fault, rfl, hfront, hfault⟩
    · by_cases hp : ∃ fault, Fault schema p fault
      · obtain ⟨fault, hfault⟩ := hp
        exact .inr ⟨schema, p, [], fault, rfl, hsound, hfault⟩
      · exact .inl (sound_append_singleton.mpr ⟨hsound, not_exists.mp hp⟩)
    · exact .inr ⟨front, q, behind ++ [p], fault, by simp, hfront, hfault⟩

lemma arity_eq_ok_iff {schema : List ParameterSpec} {a : Arity} :
    arity schema = .ok a ↔ Sound schema ∧ a = counts schema := by
  constructor
  · intro h
    rcases sound_or_fault schema with hsound | ⟨front, p, behind, fault, rfl, hfront, hfault⟩
    · rw [arity_of_sound hsound] at h
      exact ⟨hsound, (Except.ok.inj h).symm⟩
    · rw [arity_of_fault hfront hfault] at h
      cases h
  · rintro ⟨hsound, rfl⟩
    exact arity_of_sound hsound

lemma arity_eq_error_iff {schema : List ParameterSpec} :
    arity schema = .error fault ↔ ∃ front p behind, schema = front ++ p :: behind ∧ Sound front ∧
      Fault front p fault := by
  constructor
  · intro h
    rcases sound_or_fault schema with hsound | ⟨front, p, behind, other, rfl, hfront, hfault⟩
    · rw [arity_of_sound hsound] at h
      cases h
    · obtain rfl : other = fault := Except.error.inj ((arity_of_fault hfront hfault).symm.trans h)
      exact ⟨front, p, behind, rfl, hfront, hfault⟩
  · rintro ⟨front, p, behind, rfl, hfront, hfault⟩
    exact arity_of_fault hfront hfault

lemma required_iff_lt {schema : List ParameterSpec}
    (h : schema.Pairwise fun p q => p.isOptional = true → q.isOptional = true) {i : Nat}
    (hp : schema[i]? = some p) : p.isOptional = false ↔ i < (counts schema).required := by
  induction schema generalizing i with
  | nil => cases hp
  | cons q schema ih =>
    rw [List.pairwise_cons] at h
    cases hq : q.isOptional with
    | true =>
      have hopt : ∀ r ∈ q :: schema, r.isOptional = true :=
        List.forall_mem_cons.mpr ⟨hq, fun r hr => h.1 r hr hq⟩
      have hnone : (counts (q :: schema)).required = 0 :=
        List.countP_eq_zero.mpr fun r hr => by simp [hopt r hr]
      simp [hnone, hopt p (List.mem_of_getElem? hp)]
    | false =>
      have hcount : (counts (q :: schema)).required = (counts schema).required + 1 := by
        simp [counts, hq]
      rw [hcount]
      cases i with
      | zero =>
        cases hp
        simp [hq]
      | succ i =>
        rw [ih h.2 hp]
        omega

end Schema

variable {types : TypeTable} {schema : List ParameterSpec} {tokens : List String}

def AllParse (types : TypeTable) (schema : List ParameterSpec) (tokens : List String) : Prop :=
  ∀ slot ∈ schema.zip tokens, ∃ value, types.parse slot.1.typeName slot.2 = .ok value

lemma AllParse.not_fault (h : AllParse types schema tokens) {i : Nat} {p : ParameterSpec}
    (hp : schema[i]? = some p) (hi : i < tokens.length) (e : ParameterError) :
    ¬ p.Fault types tokens[i]? e := by
  have htoken : tokens[i]? = some tokens[i] := List.getElem?_eq_getElem hi
  have hmem : (p, tokens[i]) ∈ schema.zip tokens :=
    List.mem_of_getElem? (List.getElem?_zip_eq_some.mpr ⟨hp, htoken⟩)
  obtain ⟨value, hvalue⟩ := h _ hmem
  have hparse : p.parse types tokens[i] = .ok value := by
    rw [ParameterSpec.parse, hvalue]
  rw [htoken]
  intro hfault
  rw [ParameterSpec.parse_of_fault hfault] at hparse
  cases hparse

lemma bind_missing (hsound : Schema.Sound schema) (hparse : AllParse types schema tokens)
    (hfew : tokens.length < (Schema.counts schema).required) (rawLine : String) :
    ∃ p, schema[tokens.length]? = some p ∧
      bind types schema tokens rawLine = .error (.missing p.name) := by
  have hbound : tokens.length < schema.length := hfew.trans_le List.countP_le_length
  have hp : schema[tokens.length]? = some schema[tokens.length] := List.getElem?_eq_getElem hbound
  have hrequired := (Schema.required_iff_lt hsound.2 hp).mpr hfew
  refine ⟨_, hp, bind_eq_error_iff.mpr ⟨tokens.length, _, hp, ?_, fun j q hj hq => ?_⟩⟩
  · rw [List.getElem?_eq_none (Nat.le_refl _)]
    exact .missing hrequired
  · exact hparse.not_fault hq hj

lemma exists_bind (hsound : Schema.Sound schema) (hparse : AllParse types schema tokens)
    (henough : (Schema.counts schema).required ≤ tokens.length) (rawLine : String) :
    ∃ bound, bind types schema tokens rawLine = .ok bound := by
  cases hbind : bind types schema tokens rawLine with
  | ok bound => exact ⟨bound, rfl⟩
  | error e =>
    obtain ⟨i, p, hp, hfault, -⟩ := bind_eq_error_iff.mp hbind
    rcases Nat.lt_or_ge i tokens.length with hi | hi
    · exact absurd hfault (hparse.not_fault hp hi e)
    · rw [List.getElem?_eq_none hi, ParameterSpec.fault_none_iff] at hfault
      have hlt := (Schema.required_iff_lt hsound.2 hp).mp hfault.1
      omega

/-- A schema is accepted just if it is sound, with the numbers of its required and its optional
slots; else the first slot at fault is told. With an accepted schema, tokens of the right types are
bound just if there are as many as required slots, and the first slot without one is missed
otherwise. -/
theorem arity_decides_binding (schema : List ParameterSpec) :
    (∀ a, Schema.arity schema = .ok a ↔ Schema.Sound schema ∧ a = Schema.counts schema) ∧
      (∀ fault, Schema.arity schema = .error fault ↔
        ∃ front p behind, schema = front ++ p :: behind ∧ Schema.Sound front ∧
          Schema.Fault front p fault) ∧
      ∀ a types tokens rawLine, Schema.arity schema = .ok a → AllParse types schema tokens →
        ((∃ bound, bind types schema tokens rawLine = .ok bound) ↔ a.required ≤ tokens.length) ∧
          (tokens.length < a.required → ∃ p, schema[tokens.length]? = some p ∧
            bind types schema tokens rawLine = .error (.missing p.name)) := by
  refine ⟨fun a => Schema.arity_eq_ok_iff, fun fault => Schema.arity_eq_error_iff, ?_⟩
  intro a types tokens rawLine haccepted hparse
  obtain ⟨hsound, rfl⟩ := Schema.arity_eq_ok_iff.mp haccepted
  refine ⟨⟨?_, fun henough => exists_bind hsound hparse henough rawLine⟩,
    fun hfew => bind_missing hsound hparse hfew rawLine⟩
  rintro ⟨bound, hbound⟩
  by_contra hfew
  obtain ⟨p, -, hmissing⟩ := bind_missing hsound hparse (Nat.lt_of_not_ge hfew) rawLine
  rw [hmissing] at hbound
  cases hbound

def positional : List ParameterSpec :=
  [.required stringTypeName "from" "", .required stringTypeName "to" "",
    .optional stringTypeName "via" ""]

lemma positional_allParse (tokens : List String) : AllParse .builtin positional tokens := by
  intro slot hslot
  have htype : ∀ p ∈ positional, p.typeName = stringTypeName := by decide
  rw [htype slot.1 (List.of_mem_zip hslot).1]
  exact ⟨.text slot.2, rfl⟩

theorem positional_bind :
    Schema.arity positional = .ok ⟨2, 1⟩ ∧ AllParse .builtin positional ["here"] ∧
      bind .builtin positional ["here"] " here" = .error (.missing "to") ∧
      (∃ bound, bind .builtin positional ["here", "there"] " here there" = .ok bound) ∧
      Schema.arity (positional ++ [.required stringTypeName "via" ""]) =
        .error (.repeatedParameter "via") := by
  have haccepted : Schema.arity positional = .ok ⟨2, 1⟩ :=
    ((arity_decides_binding positional).1 _).mpr ⟨by decide, rfl⟩
  have hbinds := fun tokens rawLine => (arity_decides_binding positional).2.2 _ .builtin tokens
    rawLine haccepted (positional_allParse tokens)
  obtain ⟨p, hp, hmissing⟩ := (hbinds ["here"] " here").2 (by decide)
  cases hp
  refine ⟨haccepted, positional_allParse _, hmissing,
    (hbinds ["here", "there"] " here there").1.mpr (by decide), ?_⟩
  exact ((arity_decides_binding _).2.1 _).mpr
    ⟨positional, .required stringTypeName "via" "", [], rfl, by decide, .repeated (by decide)⟩

end LineShell
