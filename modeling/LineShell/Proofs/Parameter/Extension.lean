import LineShell.Proofs.Parameter.FirstFault
import LineShell.Proofs.Parameter.Registration

namespace LineShell

def TypeTable.Keeps (types types' : TypeTable) : Prop :=
  ∀ name ∈ types.names, types'.parsers.get? name = types.parsers.get? name

variable {types types' : TypeTable}

lemma TypeTable.registerAll_keeps (types : TypeTable) (calls : List (String × Option Parser)) :
    types.Keeps (types.registerAll calls).2 :=
  (registerAll_firstWins types calls).kept

lemma ParameterSpec.parse_of_keeps (hkeeps : types.Keeps types') {p : ParameterSpec}
    (hname : p.typeName ∈ types.names) (token : String) :
    p.parse types' token = p.parse types token := by
  rw [parse, parse, TypeTable.parse, TypeTable.parse, hkeeps p.typeName hname]

variable {schema : List ParameterSpec} {tokens : List String}

lemma bindValues_of_keeps (hkeeps : types.Keeps types')
    (hunknown : ∀ name, bindValues types schema tokens = .error (.unknownType name) →
      name ∉ types'.names) :
    bindValues types' schema tokens = bindValues types schema tokens := by
  induction schema generalizing tokens with
  | nil => rfl
  | cons p schema ih =>
    cases tokens with
    | nil =>
      rw [bindValues] at hunknown
      rw [bindValues, bindValues]
      cases hp : p.isOptional with
      | false => rfl
      | true =>
        rw [hp] at hunknown
        exact ih hunknown
    | cons token tokens =>
      by_cases hname : p.typeName ∈ types.names
      · rw [bindValues, bindValues, ParameterSpec.parse_of_keeps hkeeps hname]
        cases hparse : p.parse types token with
        | error e => rfl
        | ok value =>
          refine congrArg (Except.map _) (ih fun name hrest => hunknown name ?_)
          rw [bindValues, hparse, hrest]
          rfl
      · have hstop : p.parse types token = _ := ParameterSpec.parse_of_unknown hname
        have hstill : p.typeName ∉ types'.names := hunknown _ (by rw [bindValues, hstop])
        rw [bindValues, bindValues, hstop, ParameterSpec.parse_of_unknown hstill]

lemma bind_of_keeps (hkeeps : types.Keeps types') {rawLine : String}
    (hunknown : ∀ name, bind types schema tokens rawLine = .error (.unknownType name) →
      name ∉ types'.names) :
    bind types' schema tokens rawLine = bind types schema tokens rawLine := by
  refine congrArg (Except.map _) (bindValues_of_keeps hkeeps fun name h => hunknown name ?_)
  rw [bind, h]
  rfl

lemma not_mem_of_bind_eq_error {rawLine name : String}
    (h : bind types schema tokens rawLine = .error (.unknownType name)) : name ∉ types.names := by
  obtain ⟨i, p, hp, hfault, -⟩ := bind_eq_error_iff.mp h
  generalize tokens[i]? = token at hfault
  cases hfault with
  | unknownType hname => exact hname

/-- Types that are registered later change nothing about tokens that could be bound, or that were
refused for another reason than an unknown type. That outcome changes just if the type is there
now. -/
theorem bind_after_registerAll (types : TypeTable) (calls : List (String × Option Parser))
    (schema : List ParameterSpec) (tokens : List String) (rawLine : String) :
    let types' := (types.registerAll calls).2
    (∀ bound, bind types schema tokens rawLine = .ok bound →
        bind types' schema tokens rawLine = .ok bound) ∧
      (∀ name, bind types schema tokens rawLine = .error (.missing name) →
        bind types' schema tokens rawLine = .error (.missing name)) ∧
      (∀ name literal reason typeName,
        bind types schema tokens rawLine = .error (.mismatch name literal reason typeName) →
          bind types' schema tokens rawLine = .error (.mismatch name literal reason typeName)) ∧
      (∀ name, bind types schema tokens rawLine = .error (.unknownType name) →
        (bind types' schema tokens rawLine ≠ bind types schema tokens rawLine ↔
          name ∈ types'.names)) ∧
      (bind types' schema tokens rawLine ≠ bind types schema tokens rawLine →
        ∃ name, bind types schema tokens rawLine = .error (.unknownType name)) := by
  intro types'
  have hkeeps : types.Keeps types' := types.registerAll_keeps calls
  have hsame : ∀ {outcome}, bind types schema tokens rawLine = outcome →
      (∀ name, outcome ≠ .error (.unknownType name)) →
        bind types' schema tokens rawLine = outcome := by
    rintro outcome rfl hknown
    exact bind_of_keeps hkeeps fun name h => absurd h (hknown name)
  refine ⟨fun bound h => hsame h (by simp), fun name h => hsame h (by simp),
    fun name literal reason typeName h => hsame h (by simp), fun name h => ?_, fun hchanged => ?_⟩
  · constructor
    · intro hchanged
      by_contra hname
      refine hchanged (bind_of_keeps hkeeps fun other hother => ?_)
      rw [h] at hother
      cases hother
      exact hname
    · intro hname heq
      exact not_mem_of_bind_eq_error (heq.trans h) hname
  · by_contra! hknown
    exact hchanged (hsame rfl hknown)

def fewTypes : TypeTable :=
  ⟨[("plain", Parser.string), ("closed", fun _ => Parser.refuse "no entry")]⟩

-- a blank name, one that is taken, and one whose first offer is no function
def latecomers : List (String × Option Parser) :=
  [("", some Parser.string), ("plain", some fun _ => Parser.refuse "too late"), ("tint", none),
    ("tint", some Parser.string)]

def slotOf (typeName : String) : ParameterSpec :=
  .required typeName "x" ""

theorem latecomers_bind :
    let types' := (fewTypes.registerAll latecomers).2
    (∃ bound, bind fewTypes [slotOf "plain"] ["a"] "" = .ok bound ∧
        bind types' [slotOf "plain"] ["a"] "" = .ok bound) ∧
      bind types' [slotOf "tint"] [] "" = .error (.missing "x") ∧
      bind types' [slotOf "closed", slotOf "tint"] ["a", "b"] "" =
        .error (.mismatch "x" "a" "no entry" "closed") ∧
      bind types' [slotOf "tint"] ["a"] "" ≠ bind fewTypes [slotOf "tint"] ["a"] "" ∧
      ¬ bind types' [slotOf "hue"] ["a"] "" ≠ bind fewTypes [slotOf "hue"] ["a"] "" := by
  have hlaw := bind_after_registerAll fewTypes latecomers
  have htint : "tint" ∈ (fewTypes.registerAll latecomers).2.names := by decide
  have hhue : "hue" ∉ (fewTypes.registerAll latecomers).2.names := by decide
  refine ⟨⟨_, rfl, (hlaw _ _ _).1 _ rfl⟩, (hlaw _ _ _).2.1 _ rfl, (hlaw _ _ _).2.2.1 _ _ _ _ rfl,
    ((hlaw _ _ _).2.2.2.1 "tint" rfl).mpr htint, fun hchanged => hhue ?_⟩
  exact ((hlaw _ _ _).2.2.2.1 "hue" rfl).mp hchanged

end LineShell
