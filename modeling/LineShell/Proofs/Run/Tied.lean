import LineShell.Execution
import Mathlib

/-! Two computations side by side. They are tied if they take related sessions to related sessions
and end in the same failure or in related values; what runs built from them do follows. -/

namespace LineShell

inductive Outcomes {α β : Type} (V : α → β → Prop) : Except Failure α → Except Failure β → Prop
  | ok {a : α} {b : β} : V a b → Outcomes V (.ok a) (.ok b)
  | error (f : Failure) : Outcomes V (.error f) (.error f)

lemma Outcomes.mono {α β : Type} {V W : α → β → Prop} {a : Except Failure α} {b : Except Failure β}
    (h : Outcomes V a b) (hv : ∀ a b, V a b → W a b) : Outcomes W a b := by
  cases h with
  | ok hab => exact .ok (hv _ _ hab)
  | error f => exact .error f

lemma Outcomes.refl {α : Type} (a : Except Failure α) : Outcomes Eq a a := by
  cases a with
  | ok a => exact .ok rfl
  | error f => exact .error f

lemma eq_ok_of_toOption {ε α : Type} {x : Except ε α} {a : α} (h : x.toOption = some a) :
    x = .ok a := by
  cases x with
  | ok b => exact congrArg Except.ok (Option.some.inj h)
  | error e => cases h

lemma Outcomes.eq {α : Type} {a b : Except Failure α} (h : Outcomes Eq a b) : a = b := by
  cases h with
  | ok h => rw [h]
  | error f => rfl

def Failure.Known (f : Failure) : Prop :=
  ∀ name, f ≠ .notFound name

namespace Command

def substitute (text : String) : Except Failure String → Except Failure String
  | .error (.command (.notFound _)) => .ok (literal text)
  | outcome => outcome

lemma orLiteral_apply (text : String) (x : Run String) (s : Session) :
    resolveNested.orLiteral text x s = (substitute text (x s).1, (x s).2) := by
  simp only [resolveNested.orLiteral, substitute]
  rcases x s with ⟨a, t⟩
  split
  · rename_i he
    obtain ⟨rfl, rfl⟩ := Prod.mk.inj he
    rfl
  · rename_i hne
    split
    · rename_i name ha
      exact (hne name t (Prod.ext ha rfl)).elim
    · rfl

lemma substitute_error (text : String) (f : Failure) :
    substitute text (.error f) = .ok (literal text) ∨ substitute text (.error f) = .error f := by
  simp only [substitute]
  split
  · exact .inl rfl
  · exact .inr rfl

lemma substitute_known (text : String) {f : Failure} (h : f.Known) :
    substitute text (.error f) = .error f := by
  simp only [substitute]
  split
  · rename_i name hname
    exact absurd (Except.error.inj hname) (h name)
  · rfl

end Command

namespace Run

variable {α β γ δ : Type}

lemma bind_apply (x : Run α) (f : α → Run β) (s : Session) :
    (x >>= f) s = ExceptT.bindCont f (x s).1 (x s).2 := rfl

lemma bind_error {x : Run α} {s : Session} {f : Failure} (h : (x s).1 = .error f)
    (g : α → Run β) : ((x >>= g) s).1 = .error f := by
  rw [bind_apply, h]
  rfl

lemma caught_apply (x : Run α) (s : Session) : caught x s = (handled (x s).1, (x s).2) := rfl

lemma caught_bind_ok {x : Run α} {s t : Session} {a : α} (h : x s = (.ok a, t))
    (f : Except Exception α → Run β) : (caught x >>= f) s = f (.ok a) t := by
  rw [bind_apply, caught, h]
  rfl

lemma caught_bind_exception {x : Run α} {s t : Session} {e : Exception}
    (h : x s = (.error (.exception e), t)) (f : Except Exception α → Run β) :
    (caught x >>= f) s = f (.error e) t := by
  rw [bind_apply, caught, h]
  rfl

lemma registry_bind (f : Registry → Run β) (s : Session) :
    (registry >>= f) s = f s.registry s := rfl

lemma declare_of_ok {d : Definition Script} {s : Session} {made : Command × Registry}
    (h : s.registry.create d = .ok made) :
    declare d s = (.ok (), { s with registry := made.2 }) := by
  simp only [declare, create, bind_assoc]
  rw [registry_bind, h]
  rfl

lemma declare_of_error {d : Definition Script} {s : Session} {e : CommandError}
    (h : s.registry.create d = .error e) : declare d s = (.error (.command e), s) := by
  simp only [declare, create, bind_assoc]
  rw [registry_bind, h]
  rfl

lemma remove_of_ok {name : String} {s : Session} {r : Registry}
    (h : s.registry.remove name = .ok r) :
    remove name s = (.ok (), { s with registry := r }) := by
  rw [remove, registry_bind, h]
  rfl

lemma remove_of_error {name : String} {s : Session} {e : CommandError}
    (h : s.registry.remove name = .error e) : remove name s = (.error (.command e), s) := by
  rw [remove, registry_bind, h]
  rfl

lemma inSpan_of_none {name : String} {notes : List (String × Datum)} {s : Session}
    (h : s.telemetry.enter? name = none) (x : Run α) : inSpan name notes x s = x s := by
  simp only [inSpan, h]

lemma inSpan_of_some {name : String} {notes : List (String × Datum)} {s : Session} {u : Telemetry}
    (h : s.telemetry.enter? name = some u) (x : Run α) :
    inSpan name notes x s =
      let inner := x { s with telemetry := notes.foldl (fun u a => u.annotate a.1 a.2) u }
      (inner.1, { inner.2 with telemetry := inner.2.telemetry.leave }) := by
  simp only [inSpan, h]
  rfl

lemma inSpan_of_disabled {name : String} {notes : List (String × Datum)} {s : Session}
    (h : s.telemetry.enabled = false) (x : Run α) : inSpan name notes x s = x s := by
  have henter : s.telemetry.enter? name = none := by
    simp only [Telemetry.enter?, Telemetry.current?, h, if_false, Bool.false_eq_true,
      Option.map_none]
  exact inSpan_of_none henter x

def Tied (R : Session → Session → Prop) (V : α → β → Prop) (x : Run α) (y : Run β) : Prop :=
  ∀ ⦃s t : Session⦄, R s t → Outcomes V (x s).1 (y t).1 ∧ R (x s).2 (y t).2

namespace Tied

variable {R : Session → Session → Prop} {U : α → β → Prop} {V : γ → δ → Prop}

lemma pure {a : γ} {b : δ} (h : V a b) : Tied R V (pure a) (pure b) :=
  fun _ _ hr => ⟨.ok h, hr⟩

lemma throw (f : Failure) : Tied R V (throw f) (throw f) :=
  fun _ _ hr => ⟨.error f, hr⟩

lemma bind {x : Run α} {y : Run β} {f : α → Run γ} {g : β → Run δ} (hx : Tied R U x y)
    (hf : ∀ a b, U a b → Tied R V (f a) (g b)) : Tied R V (x >>= f) (y >>= g) := by
  intro s t hr
  obtain ⟨ho, hr'⟩ := hx hr
  rw [bind_apply, bind_apply]
  generalize (x s).1 = a at ho
  generalize (y t).1 = b at ho
  cases ho with
  | ok hab => exact hf _ _ hab hr'
  | error f => exact ⟨.error f, hr'⟩

lemma bind_eq {x y : Run α} {f : α → Run γ} {g : α → Run δ} (hx : Tied R Eq x y)
    (hf : ∀ a, Tied R V (f a) (g a)) : Tied R V (x >>= f) (y >>= g) :=
  hx.bind fun a _ h => h ▸ hf a

lemma mono {x : Run γ} {y : Run δ} {W : γ → δ → Prop} (h : Tied R V x y)
    (hv : ∀ a b, V a b → W a b) : Tied R W x y := by
  intro s t hr
  obtain ⟨ho, hr'⟩ := h hr
  exact ⟨ho.mono hv, hr'⟩

lemma record {e : Event} (hR : ∀ ⦃s t⦄, R s t → R (s.record e) (t.record e)) :
    Tied R Eq (Run.record e) (Run.record e) :=
  fun _ _ hr => ⟨.ok rfl, hR hr⟩

lemma registry (hR : ∀ ⦃s t⦄, R s t → s.registry = t.registry) :
    Tied R Eq Run.registry Run.registry :=
  fun _ _ hr => ⟨.ok (hR hr), hr⟩

lemma ofExcept (e : Except CommandError α) : Tied R Eq (Run.ofExcept e) (Run.ofExcept e) := by
  cases e with
  | error e => exact .throw _
  | ok a => exact .pure rfl

lemma caught {x y : Run γ} (h : Tied R Eq x y) : Tied R Eq (Run.caught x) (Run.caught y) := by
  intro s t hr
  obtain ⟨ho, hr'⟩ := h hr
  refine ⟨?_, hr'⟩
  change Outcomes Eq (handled (x s).1) (handled (y t).1)
  rw [ho.eq]
  exact .refl _

lemma orLiteral {x y : Run String} {V : String → String → Prop} {text : String}
    (h : Tied R V x y) (hl : V (Command.literal text) (Command.literal text)) :
    Tied R V (Command.resolveNested.orLiteral text x) (Command.resolveNested.orLiteral text y) := by
  intro s t hr
  obtain ⟨ho, hr'⟩ := h hr
  rw [Command.orLiteral_apply, Command.orLiteral_apply]
  refine ⟨?_, hr'⟩
  generalize (x s).1 = a at ho
  generalize (y t).1 = b at ho
  cases ho with
  | ok hab => exact .ok hab
  | error f =>
    rcases Command.substitute_error text f with hf | hf <;> rw [hf]
    · exact .ok hl
    · exact .error f

lemma inSpan_left {x : Run γ} {y : Run δ} {name : String} {notes : List (String × Datum)}
    (hR : ∀ ⦃s t⦄, R s t → ∀ u, R { s with telemetry := u } t) (h : Tied R V x y) :
    Tied R V (inSpan name notes x) y := by
  intro s t hr
  simp only [inSpan]
  split
  · exact h hr
  · obtain ⟨ho, hr'⟩ := h (hR hr _)
    exact ⟨ho, hR hr' _⟩

lemma inSpan_right {x : Run γ} {y : Run δ} {name : String} {notes : List (String × Datum)}
    (hR : ∀ ⦃s t⦄, R s t → ∀ u, R s { t with telemetry := u }) (h : Tied R V x y) :
    Tied R V x (inSpan name notes y) := by
  intro s t hr
  simp only [inSpan]
  split
  · exact h hr
  · obtain ⟨ho, hr'⟩ := h (hR hr _)
    exact ⟨ho, hR hr' _⟩

lemma inSpan {x : Run γ} {y : Run δ} {name : String} {notes : List (String × Datum)}
    (h : Tied R V x y) (htelemetry : ∀ ⦃s t⦄, R s t → s.telemetry = t.telemetry)
    (hset : ∀ ⦃s t⦄, R s t → ∀ u, R { s with telemetry := u } { t with telemetry := u }) :
    Tied R V (inSpan name notes x) (inSpan name notes y) := by
  intro s t hr
  have hst := htelemetry hr
  cases ht : t.telemetry.enter? name with
  | none =>
    rw [inSpan_of_none (hst ▸ ht), inSpan_of_none ht]
    exact h hr
  | some u =>
    obtain ⟨ho, hr'⟩ := h (hset hr (notes.foldl (fun u a => u.annotate a.1 a.2) u))
    rw [inSpan_of_some (hst ▸ ht), inSpan_of_some ht]
    refine ⟨ho, ?_⟩
    dsimp only
    rw [htelemetry hr']
    exact hset hr' _

end Tied

end Run

end LineShell
