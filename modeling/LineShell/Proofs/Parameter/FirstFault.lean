import LineShell.Parameter.Binding
import LineShell.Proofs.Entries

/-! What binding tells of a slot. The first slot with a fault decides how binding fails; without one
the tokens in the slots' places are the values, under the slots' names. -/

namespace LineShell

def Exception.reason : Exception → String
  | .command (.parameter (.mismatch _ _ reason _)) => reason
  | .raised _ message => message
  | e => e.message

namespace ParameterSpec

inductive Fault (types : TypeTable) (p : ParameterSpec) : Option String → ParameterError → Prop
  | missing : p.isOptional = false → Fault types p none (.missing p.name)
  | unknownType {token : String} : p.typeName ∉ types.names →
      Fault types p (some token) (.unknownType p.typeName)
  | refused {token : String} {parser : Parser} {failure : Exception} :
      types.parsers.get? p.typeName = some parser → parser token = .error failure →
      Fault types p (some token) (.mismatch p.name token failure.reason p.typeName)

/-- The value that a token becomes: what the parse function of the slot's type returns if that is
typed, else the plain result under the name of the type. -/
inductive Takes (types : TypeTable) (p : ParameterSpec) (token : String) : ParameterValue → Prop
  | typed {parser : Parser} {value : ParameterValue} :
      types.parsers.get? p.typeName = some parser → parser token = .ok (.typed value) →
      Takes types p token value
  | plain {parser : Parser} {d : Datum} :
      types.parsers.get? p.typeName = some parser → parser token = .ok (.plain d) →
      Takes types p token (.custom p.typeName d)

variable {types : TypeTable} {p : ParameterSpec} {token : String}

lemma parse_of_unknown (h : p.typeName ∉ types.names) :
    p.parse types token = .error (.unknownType p.typeName) := by
  have hnone := Entries.get?_eq_none_iff.mpr h
  rw [parse, TypeTable.parse, hnone]

lemma parse_of_error {parser : Parser} {failure : Exception}
    (h : types.parsers.get? p.typeName = some parser) (hfailure : parser token = .error failure) :
    p.parse types token = .error (.mismatch p.name token failure.reason p.typeName) := by
  rw [parse, TypeTable.parse, h]
  dsimp only
  rw [hfailure]
  cases failure with
  | command e =>
    cases e with
    | parameter e => cases e <;> rfl
    | _ => rfl
  | _ => rfl

lemma parse_of_ok {parser : Parser} {parsed : Parsed}
    (h : types.parsers.get? p.typeName = some parser) (hparsed : parser token = .ok parsed) :
    p.parse types token = .ok (parsed.value p.typeName) := by
  rw [parse, TypeTable.parse, h]
  dsimp only
  rw [hparsed]

lemma fault_or_takes (types : TypeTable) (p : ParameterSpec) (token : String) :
    (∃ e, p.Fault types (some token) e) ∨ ∃ value, p.Takes types token value := by
  by_cases hname : p.typeName ∈ types.names
  · obtain ⟨parser, hparser⟩ :=
      Option.isSome_iff_exists.mp ((Entries.has_iff_mem_keys types.parsers _).mpr hname)
    cases hparsed : parser token with
    | error failure => exact .inl ⟨_, .refused hparser hparsed⟩
    | ok parsed =>
      cases parsed with
      | typed value => exact .inr ⟨value, .typed hparser hparsed⟩
      | plain d => exact .inr ⟨_, .plain hparser hparsed⟩
  · exact .inl ⟨_, .unknownType hname⟩

lemma parse_of_fault {e : ParameterError} (h : p.Fault types (some token) e) :
    p.parse types token = .error e := by
  cases h with
  | unknownType hname => exact parse_of_unknown hname
  | refused hparser hfailure => exact parse_of_error hparser hfailure

lemma parse_of_takes {value : ParameterValue} (h : p.Takes types token value) :
    p.parse types token = .ok value := by
  cases h with
  | typed hparser hparsed => exact parse_of_ok hparser hparsed
  | plain hparser hparsed => exact parse_of_ok hparser hparsed

lemma parse_eq_error_iff {e : ParameterError} :
    p.parse types token = .error e ↔ p.Fault types (some token) e := by
  refine ⟨fun h => ?_, parse_of_fault⟩
  rcases fault_or_takes types p token with ⟨e', hfault⟩ | ⟨value, htakes⟩
  · obtain rfl : e' = e := Except.error.inj ((parse_of_fault hfault).symm.trans h)
    exact hfault
  · rw [parse_of_takes htakes] at h
    cases h

lemma parse_eq_ok_iff {value : ParameterValue} :
    p.parse types token = .ok value ↔ p.Takes types token value := by
  refine ⟨fun h => ?_, parse_of_takes⟩
  rcases fault_or_takes types p token with ⟨e, hfault⟩ | ⟨value', htakes⟩
  · rw [parse_of_fault hfault] at h
    cases h
  · obtain rfl : value' = value := Except.ok.inj ((parse_of_takes htakes).symm.trans h)
    exact htakes

lemma fault_none_iff {e : ParameterError} :
    p.Fault types none e ↔ p.isOptional = false ∧ e = .missing p.name := by
  constructor
  · rintro ⟨h⟩
    exact ⟨h, rfl⟩
  · rintro ⟨h, rfl⟩
    exact .missing h

end ParameterSpec

variable {types : TypeTable} {schema : List ParameterSpec} {tokens : List String}

def FirstFault (types : TypeTable) (schema : List ParameterSpec) (tokens : List String)
    (e : ParameterError) : Prop :=
  ∃ (i : Nat) (p : ParameterSpec), schema[i]? = some p ∧ p.Fault types tokens[i]? e ∧
    ∀ (j : Nat) (q : ParameterSpec), j < i → schema[j]? = some q →
      ∀ e', ¬ q.Fault types tokens[j]? e'

lemma firstFault_cons {p : ParameterSpec} {e : ParameterError} :
    FirstFault types (p :: schema) tokens e ↔
      p.Fault types tokens[0]? e ∨
        (∀ e', ¬ p.Fault types tokens[0]? e') ∧ FirstFault types schema tokens.tail e := by
  constructor
  · rintro ⟨i, q, hq, hfault, hbefore⟩
    cases i with
    | zero =>
      cases hq
      exact .inl hfault
    | succ i =>
      refine .inr ⟨hbefore 0 p (Nat.zero_lt_succ i) rfl, i, q, hq, ?_, fun j q' hj hq' => ?_⟩
      · rwa [List.getElem?_tail]
      · rw [List.getElem?_tail]
        exact hbefore (j + 1) q' (Nat.succ_lt_succ hj) hq'
  · rintro (hfault | ⟨hfirst, i, q, hq, hfault, hbefore⟩)
    · exact ⟨0, p, rfl, hfault, fun j q hj => absurd hj (Nat.not_lt_zero j)⟩
    · rw [List.getElem?_tail] at hfault
      refine ⟨i + 1, q, hq, hfault, fun j q' hj hq' => ?_⟩
      cases j with
      | zero =>
        cases hq'
        exact hfirst
      | succ j =>
        have hrest := hbefore j q' (Nat.lt_of_succ_lt_succ hj) hq'
        rwa [List.getElem?_tail] at hrest

lemma bindValues_eq_error_iff {e : ParameterError} :
    bindValues types schema tokens = .error e ↔ FirstFault types schema tokens e := by
  induction schema generalizing tokens with
  | nil => simp [bindValues, FirstFault]
  | cons p schema ih =>
    rw [firstFault_cons]
    cases tokens with
    | nil =>
      simp only [bindValues, List.getElem?_nil, ParameterSpec.fault_none_iff, List.tail_nil, ← ih]
      cases p.isOptional <;> simp [eq_comm]
    | cons token tokens =>
      simp only [bindValues, List.getElem?_cons_zero, List.tail_cons, ← ih,
        ← ParameterSpec.parse_eq_error_iff]
      cases p.parse types token with
      | error e' => simp
      | ok value =>
        cases bindValues types schema tokens <;> simp [Except.map]

lemma bind_eq_error_iff {rawLine : String} {e : ParameterError} :
    bind types schema tokens rawLine = .error e ↔ FirstFault types schema tokens e := by
  rw [← bindValues_eq_error_iff, bind]
  cases bindValues types schema tokens <;> simp [Except.map]

def Fills (types : TypeTable) (slot : ParameterSpec × String) (entry : String × ParameterValue) :
    Prop :=
  entry.1 = slot.1.name ∧ slot.1.Takes types slot.2 entry.2

lemma bindValues_cons_eq_ok {p : ParameterSpec} {token : String} {bound : Entries ParameterValue} :
    bindValues types (p :: schema) (token :: tokens) = .ok bound ↔
      ∃ value rest, p.Takes types token value ∧ bindValues types schema tokens = .ok rest ∧
        (p.name, value) :: rest = bound := by
  simp only [bindValues, ← ParameterSpec.parse_eq_ok_iff]
  cases p.parse types token with
  | error e => simp
  | ok value => cases bindValues types schema tokens <;> simp [Except.map]

lemma fills_of_bindValues {bound : Entries ParameterValue}
    (h : bindValues types schema tokens = .ok bound) :
    List.Forall₂ (Fills types) (schema.zip tokens) bound := by
  induction schema generalizing tokens bound with
  | nil =>
    cases h
    exact .nil
  | cons p schema ih =>
    cases tokens with
    | nil =>
      rw [bindValues] at h
      split at h
      · simpa using ih h
      · cases h
    | cons token tokens =>
      obtain ⟨value, rest, htakes, hrest, rfl⟩ := bindValues_cons_eq_ok.mp h
      exact .cons ⟨rfl, htakes⟩ (ih hrest)

lemma keys_of_fills {bound : Entries ParameterValue}
    (h : List.Forall₂ (Fills types) (schema.zip tokens) bound) :
    bound.keys = (schema.map (·.name)).take tokens.length := by
  induction schema generalizing tokens bound with
  | nil =>
    cases h
    exact List.take_nil.symm
  | cons p schema ih =>
    cases tokens with
    | nil =>
      cases h
      rfl
    | cons token tokens =>
      cases h with
      | cons hfills hrest =>
        rw [List.map_cons, List.length_cons, List.take_succ_cons, ← ih hrest, ← hfills.1]
        rfl

lemma Entries.ofList_eq {α : Type} {es : Entries α} (h : es.keys.Nodup) : ofList es = es :=
  foldl_set_eq h

def Faulty (types : TypeTable) (schema : List ParameterSpec) (tokens : List String) : Prop :=
  ∃ (i : Nat) (p : ParameterSpec) (e : ParameterError),
    schema[i]? = some p ∧ p.Fault types tokens[i]? e

lemma exists_firstFault (h : Faulty types schema tokens) :
    ∃ e, FirstFault types schema tokens e := by
  obtain ⟨i, p, e, hp, hfault⟩ := h
  induction schema generalizing tokens i with
  | nil => cases hp
  | cons q schema ih =>
    by_cases hfirst : ∃ e', q.Fault types tokens[0]? e'
    · obtain ⟨e', hfirst⟩ := hfirst
      exact ⟨e', firstFault_cons.mpr (.inl hfirst)⟩
    · rw [not_exists] at hfirst
      cases i with
      | zero =>
        cases hp
        exact absurd hfault (hfirst e)
      | succ i =>
        rw [← List.getElem?_tail] at hfault
        obtain ⟨e', hrest⟩ := ih i hp hfault
        exact ⟨e', firstFault_cons.mpr (.inr ⟨hfirst, hrest⟩)⟩

inductive ParameterValue.Bare : ParameterValue → Datum → Prop
  | integer (n : Int) : Bare (.integer n) (.int n)
  | float (x : Float) : Bare (.float x) (.float x)
  | text (s : String) : Bare (.text s) (.string s)
  | custom (kind : String) (d : Datum) : Bare (.custom kind d) d

lemma ParameterValue.bare_plain (value : ParameterValue) : value.Bare value.plain := by
  cases value with
  | integer n => exact .integer n
  | float x => exact .float x
  | text s => exact .text s
  | custom kind d => exact .custom kind d

/-- The parameters bound by a schema without faults. A null value is a value: only a name that is
not bound leaves the choice to the default. -/
structure BoundParameters.Matches (bound : BoundParameters) (types : TypeTable)
    (schema : List ParameterSpec) (tokens : List String) (rawLine : String) : Prop where
  tokens_eq : bound.tokens = tokens
  rawLine_eq : bound.rawLine = rawLine
  values : List.Forall₂ (fun slot value => slot.1.Takes types slot.2 value) (schema.zip tokens)
    bound.values
  named : (schema.map (·.name)).Nodup →
    bound.named = ((schema.map (·.name)).take tokens.length).zip bound.values
  get_bound : (schema.map (·.name)).Nodup → ∀ (name : String) (value : ParameterValue),
    (name, value) ∈ bound.named → ∃ d, value.Bare d ∧ ∀ default : Datum,
      (bound.get? name).getD default = d
  get_default : (schema.map (·.name)).Nodup → ∀ name : String,
    (∀ default : Datum, (bound.get? name).getD default = default) ↔
      name ∉ (schema.map (·.name)).take tokens.length

lemma forall_getD_iff {o : Option Datum} : (∀ default, o.getD default = default) ↔ o = none := by
  constructor
  · intro h
    cases o with
    | none => rfl
    | some d =>
      -- a value is not both of two defaults that differ
      have hnull : d = .null := h .null
      have htrue : d = .bool true := h (.bool true)
      rw [hnull] at htrue
      cases htrue
  · rintro rfl default
    rfl

lemma matches_of_bindValues {entries : Entries ParameterValue} (rawLine : String)
    (h : bindValues types schema tokens = .ok entries) :
    (BoundParameters.mk (entries.map Prod.snd) (Entries.ofList entries) tokens rawLine).Matches
      types schema tokens rawLine := by
  have hfills := fills_of_bindValues h
  have hkeys := keys_of_fills hfills
  have hnamed : (schema.map (·.name)).Nodup →
      entries.keys.Nodup ∧ Entries.ofList entries = entries := by
    intro hnodup
    have hentries : entries.keys.Nodup := hkeys ▸ hnodup.sublist (List.take_sublist _ _)
    exact ⟨hentries, Entries.ofList_eq hentries⟩
  refine ⟨rfl, rfl, ?_, fun hnodup => ?_, fun hnodup name value hmem => ?_,
    fun hnodup name => ?_⟩
  · exact List.forall₂_map_right_iff.mpr (hfills.imp fun _ _ hfill => hfill.2)
  · exact (hnamed hnodup).2.trans (List.zip_of_prod hkeys rfl)
  · obtain ⟨hentries, heq⟩ := hnamed hnodup
    rw [heq] at hmem
    have hget := Entries.get?_of_mem hentries hmem
    refine ⟨value.plain, value.bare_plain, fun default => ?_⟩
    rw [BoundParameters.get?, heq, hget]
    rfl
  · obtain ⟨hentries, heq⟩ := hnamed hnodup
    rw [forall_getD_iff, BoundParameters.get?, heq, Option.map_eq_none_iff,
      Entries.get?_eq_none_iff, hkeys]

/-- Binding fails with the fault of the first slot that has one and with nothing else; it fails if
there is one, and gives the values of the tokens in the slots' places if there is none. -/
theorem bind_first_fault (types : TypeTable) (schema : List ParameterSpec) (tokens : List String)
    (rawLine : String) :
    (∀ e, bind types schema tokens rawLine = .error e ↔ FirstFault types schema tokens e) ∧
      (Faulty types schema tokens → ∃ e, bind types schema tokens rawLine = .error e) ∧
      (¬ Faulty types schema tokens →
        ∃ bound, bind types schema tokens rawLine = .ok bound ∧
          bound.Matches types schema tokens rawLine) := by
  refine ⟨fun e => bind_eq_error_iff, fun hfaulty => ?_, fun hnone => ?_⟩
  · obtain ⟨e, hfirst⟩ := exists_firstFault hfaulty
    exact ⟨e, bind_eq_error_iff.mpr hfirst⟩
  · cases hvalues : bindValues types schema tokens with
    | error e =>
      obtain ⟨i, p, hp, hfault, -⟩ := bindValues_eq_error_iff.mp hvalues
      exact absurd ⟨i, p, e, hp, hfault⟩ hnone
    | ok entries =>
      exact ⟨_, by rw [bind, hvalues]; rfl, matches_of_bindValues rawLine hvalues⟩

-- values of one type are null and of the next are typed; the third refuses every literal itself
def pickyTypes : TypeTable :=
  ⟨[("null", fun _ => .ok (.plain .null)),
    ("length", fun literal => .ok (.typed (.integer literal.length))),
    ("picky", fun _ => .error (.command (.parameter (.mismatch "here" "this" "too plain" "it"))))]⟩

def pickySchema : List ParameterSpec :=
  [.required "null" "key" "", .required "length" "size" "", .optional "picky" "value" "",
    .optional "ghost" "rest" ""]

lemma pickySchema_firstFault :
    FirstFault pickyTypes pickySchema ["a", "bc", "d", "e"]
      (.mismatch "value" "d" "too plain" "picky") := by
  refine ⟨2, .optional "picky" "value" "", rfl, ParameterSpec.parse_eq_error_iff.mp rfl,
    fun j p hj hp e hfault => ?_⟩
  obtain rfl | rfl : j = 0 ∨ j = 1 := by omega
  all_goals
    cases hp
    cases ParameterSpec.parse_eq_error_iff.mpr hfault

lemma not_faulty_pickySchema : ¬ Faulty pickyTypes pickySchema ["a", "bc"] := by
  rintro ⟨i, p, e, hp, hfault⟩
  rcases i with _ | _ | _ | _ | i
  · cases hp
    cases ParameterSpec.parse_eq_error_iff.mpr hfault
  · cases hp
    cases ParameterSpec.parse_eq_error_iff.mpr hfault
  · cases hp
    cases (ParameterSpec.fault_none_iff.mp hfault).1
  · cases hp
    cases (ParameterSpec.fault_none_iff.mp hfault).1
  · cases hp

theorem picky_bind :
    bind pickyTypes pickySchema ["a", "bc", "d", "e"] "a bc d e" =
        .error (.mismatch "value" "d" "too plain" "picky") ∧
      (∃ e, bind pickyTypes pickySchema ["a", "bc", "d", "e"] "a bc d e" = .error e) ∧
      ∃ bound, bind pickyTypes pickySchema ["a", "bc"] "a bc" = .ok bound ∧
        bound.Matches pickyTypes pickySchema ["a", "bc"] "a bc" ∧
        bound.values = [.custom "null" .null, .integer 2] ∧
        bound.get? "key" = some .null ∧ bound.get? "value" = none := by
  have hfirst := pickySchema_firstFault
  obtain ⟨hiff, hfails, -⟩ :=
    bind_first_fault pickyTypes pickySchema ["a", "bc", "d", "e"] "a bc d e"
  obtain ⟨i, p, hp, hfault, -⟩ := pickySchema_firstFault
  obtain ⟨bound, hbound, hmatches⟩ :=
    (bind_first_fault pickyTypes pickySchema ["a", "bc"] "a bc").2.2 not_faulty_pickySchema
  obtain rfl : _ = bound := Except.ok.inj hbound
  exact ⟨(hiff _).mpr hfirst, hfails ⟨i, p, _, hp, hfault⟩, _, hbound, hmatches, rfl, rfl, rfl⟩

end LineShell
