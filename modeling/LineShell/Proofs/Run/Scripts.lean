import LineShell.Proofs.Run.Tied
import LineShell.Proofs.Scan.Invariants

namespace LineShell

@[elab_as_elim]
theorem Script.induction {motive : Script → Prop}
    (done : ∀ result, motive (.done result))
    (fail : ∀ f, motive (.fail f))
    (execute : ∀ line rest, (∀ result, motive (rest result)) → motive (.execute line rest))
    (attempt : ∀ line rest, (∀ outcome, motive (rest outcome)) → motive (.attempt line rest))
    (create : ∀ d rest, (∀ made, motive (rest made)) → motive (.create d rest))
    (remove : ∀ name rest, (∀ removed, motive (rest removed)) → motive (.remove name rest))
    (survey : ∀ rest, (∀ signatures, motive (rest signatures)) → motive (.survey rest))
    (note : ∀ label content rest, motive rest → motive (.note label content rest)) :
    ∀ σ, motive σ
  | .done result => done result
  | .fail f => fail f
  | .execute line rest =>
    execute line rest fun r =>
      Script.induction done fail execute attempt create remove survey note (rest r)
  | .attempt line rest =>
    attempt line rest fun o =>
      Script.induction done fail execute attempt create remove survey note (rest o)
  | .create d rest =>
    create d rest fun o =>
      Script.induction done fail execute attempt create remove survey note (rest o)
  | .remove name rest =>
    remove name rest fun o =>
      Script.induction done fail execute attempt create remove survey note (rest o)
  | .survey rest =>
    survey rest fun l =>
      Script.induction done fail execute attempt create remove survey note (rest l)
  | .note label content rest =>
    note label content rest
      (Script.induction done fail execute attempt create remove survey note rest)

def Event.OfRun : Event → Prop
  | .observed .. => False
  | _ => True

namespace Run.Tied

variable {R : Session → Session → Prop} {call call' : String → Run String}

structure Stable (R : Session → Session → Prop) : Prop where
  registry : ∀ ⦃s t⦄, R s t → s.registry = t.registry
  defaults : ∀ ⦃s t⦄, R s t → s.defaults = t.defaults
  record : ∀ ⦃s t⦄, R s t → ∀ e : Event, e.OfRun → R (s.record e) (t.record e)
  setRegistry : ∀ ⦃s t⦄, R s t → ∀ r, R { s with registry := r } { t with registry := r }

lemma Stable.typesOf (hR : Stable R) ⦃s t : Session⦄ (h : R s t) (c : Command) :
    s.typesOf c = t.typesOf c := by
  rw [Session.typesOf, Session.typesOf, hR.registry h, hR.defaults h]

lemma of_ofRun (hR : Stable R) {e : Event} (he : e.OfRun) :
    Tied R Eq (Run.record e) (Run.record e) :=
  record fun _ _ hr => hR.record hr e he

lemma setRegistry (hR : Stable R) (r : Registry) :
    Tied R Eq (Run.setRegistry r) (Run.setRegistry r) :=
  fun _ _ hr => ⟨.ok rfl, hR.setRegistry hr r⟩

lemma script (hR : Stable R) (hcall : ∀ line, Tied R Eq (call line) (call' line)) (σ : Script) :
    Tied R Eq (σ.run call) (σ.run call') := by
  induction σ using Script.induction with
  | done result => exact .pure rfl
  | fail f => exact .throw f
  | execute line rest ih => exact (hcall line).bind_eq ih
  | attempt line rest ih => exact (hcall line).caught.bind_eq ih
  | create d rest ih =>
    have hcreate : Tied R Eq (Run.create d) (Run.create d) :=
      (registry hR.registry).bind_eq fun r => (ofExcept _).bind_eq fun c =>
        (setRegistry hR c.2).bind_eq fun _ => .pure rfl
    have hdeclare : Tied R Eq (Run.declare d) (Run.declare d) := hcreate.bind_eq fun _ => .pure rfl
    exact hdeclare.caught.bind_eq ih
  | remove name rest ih =>
    have hremove : Tied R Eq (Run.remove name) (Run.remove name) :=
      (registry hR.registry).bind_eq fun r => (ofExcept _).bind_eq (setRegistry hR)
    exact hremove.caught.bind_eq ih
  | survey rest ih => exact (registry hR.registry).bind_eq fun r => ih _
  | note label content rest ih => exact (of_ofRun hR (by trivial)).bind_eq fun _ => ih

end Run.Tied

namespace Scan

open Run

variable {R : Session → Session → Prop} {resolve resolve' : String → Run String}

lemma run_tied {maxDepth : Int} {P : State → List Char → Prop} (hP : Keeps maxDepth P)
    (hresolve : ∀ ⦃st c rest text andThen⦄, P st (c :: rest) →
      step maxDepth st c = .resolve text andThen →
        Tied R (fun a b => a = b ∧ P (andThen a) rest) (resolve text) (resolve' text))
    (s : List Char) (st : State) (h : P st s) :
    Tied R (fun a b => a = b ∧ ∀ st', a = .ok st' → P st' [])
      (run maxDepth resolve st s) (run maxDepth resolve' st s) := by
  induction s generalizing st with
  | nil =>
    refine .pure ⟨rfl, ?_⟩
    rintro st' ⟨⟩
    exact h
  | cons c rest ih =>
    simp only [run]
    cases hs : step maxDepth st c with
    | next st' => exact ih st' (hP h hs)
    | limit => exact .pure ⟨rfl, by rintro st' ⟨⟩⟩
    | resolve text andThen =>
      apply (hresolve h hs).bind
      rintro a _ ⟨rfl, ha⟩
      exact ih _ ha

end Scan

open Run

variable {R : Session → Session → Prop}

lemma scan_tied (maxDepth : Int) {P : Scan.State → List Char → Prop} (hP : Scan.Keeps maxDepth P)
    {resolve resolve' : String → Run String}
    (hresolve : ∀ ⦃st c rest text andThen⦄, P st (c :: rest) →
      Scan.step maxDepth st c = .resolve text andThen →
        Tied R (fun a b => a = b ∧ P (andThen a) rest) (resolve text) (resolve' text))
    (line : String) (h : P .start line.toList) :
    Tied R (fun a b => a = b ∧ ∀ tokens, a = .ok tokens → ∃ st, P st [] ∧ tokens = st.finish)
      (scan maxDepth resolve line) (scan maxDepth resolve' line) := by
  apply (Scan.run_tied hP hresolve line.toList .start h).bind
  rintro (e | st) _ ⟨rfl, hst⟩
  · exact .pure ⟨rfl, by rintro tokens ⟨⟩⟩
  · refine .pure ⟨rfl, ?_⟩
    rintro tokens ⟨⟩
    exact ⟨st, hst st rfl, rfl⟩

namespace Command

open LineShell.Text

def readTokens (call : String → Run String) (c : Command) (text : String) :
    Run (Except ParameterError BoundParameters) := do
  match ← scan c.maxDepth (c.resolveNested call) text with
  | .error reached => refuse (.nestingLimit reached.limit)
  | .ok tokens =>
    let types ← typesOf c
    pure (bind types c.parameters tokens text)

def readLine (call : String → Run String) (c : Command) (line : String) :
    Run (Except ParameterError BoundParameters) :=
  if isBlankText line then refuse .emptyLine
  else if c.answersTo line then c.readTokens call (parameterText line)
  else refuse (.wrongName c.name (leadingWord line))

def answer (c : Command) : Except ParameterError BoundParameters → Script
  | .ok p => c.action p
  | .error e => c.onParameterError e

def entry (c : Command) : Except ParameterError BoundParameters → Event
  | .ok p => .acted c.name p
  | .error e => .consulted c.name e

lemma entry_ofRun (c : Command) (bound : Except ParameterError BoundParameters) :
    (c.entry bound).OfRun := by
  cases bound <;> trivial

def settle (call : String → Run String) (c : Command)
    (bound : Except ParameterError BoundParameters) : Run String := do
  record (c.entry bound)
  (c.answer bound).run call

lemma refuse_bind {α β : Type} (e : CommandError) (f : α → Run β) :
    (refuse e >>= f) = refuse e := rfl

lemma run_eq (call : String → Run String) (c : Command) (line : String) :
    c.run call line = c.readLine call line >>= c.settle call := by
  rw [run, readLine]
  by_cases hb : isBlankText line
  · simp only [hb, if_true, refuse_bind]
  by_cases ha : c.answersTo line
  · simp only [hb, ha, if_true, if_false, Bool.false_eq_true, readTokens]
    rw [bind_assoc]
    congr 1
    funext scanned
    rcases scanned with reached | tokens
    · rfl
    · dsimp only
      rw [bind_assoc]
      congr 1
      funext types
      rw [pure_bind]
      cases bind types c.parameters tokens (parameterText line) <;> rfl
  · simp only [hb, ha, if_false, Bool.false_eq_true, refuse_bind]

lemma run_error {call : String → Run String} {c : Command} {line : String} {s : Session}
    {f : Failure} (hb : isBlankText line = false) (ha : c.answersTo line = true)
    (h : (scan c.maxDepth (c.resolveNested call) (parameterText line) s).1 = .error f) :
    (c.run call line s).1 = .error f := by
  rw [run_eq]
  apply bind_error
  simp only [readLine, hb, ha, if_true, if_false, Bool.false_eq_true]
  exact bind_error h _

lemma resolveNested_tied {call call' : String → Run String} {c : Command} {text : String}
    {V : String → String → Prop} (hl : V (literal text) (literal text))
    (hcall : Tied R V (call text) (call' text))
    (houtside : ∀ f, c.delegate = .outside f →
      Tied R V (Run.record (.asked text) >>= fun _ => (f text).run call)
        (Run.record (.asked text) >>= fun _ => (f text).run call')) :
    Tied R V (c.resolveNested call text) (c.resolveNested call' text) := by
  simp only [resolveNested]
  cases hd : c.delegate with
  | none => exact .pure hl
  | registry => exact .orLiteral hcall hl
  | outside f => exact .orLiteral (houtside f hd) hl

lemma readTokens_tied {call call' : String → Run String} {c : Command} {text : String}
    {U : List String → Prop} (htypes : ∀ ⦃s t⦄, R s t → s.typesOf c = t.typesOf c)
    (hscan : Tied R (fun a b => a = b ∧ ∀ tokens, a = .ok tokens → U tokens)
      (scan c.maxDepth (c.resolveNested call) text)
      (scan c.maxDepth (c.resolveNested call') text)) :
    Tied R (fun a b => a = b ∧ ∃ s t tokens, R s t ∧ U tokens ∧
        a = bind (s.typesOf c) c.parameters tokens text)
      (c.readTokens call text) (c.readTokens call' text) := by
  apply hscan.bind
  rintro (reached | tokens) _ ⟨rfl, hu⟩
  · exact .throw _
  · intro s t hr
    refine ⟨.ok ⟨?_, s, t, tokens, hr, hu tokens rfl, rfl⟩, hr⟩
    rw [htypes hr]

lemma readLine_tied {call call' : String → Run String} {c : Command} {line : String}
    {V : Except ParameterError BoundParameters → Except ParameterError BoundParameters → Prop}
    (h : Tied R V (c.readTokens call (parameterText line))
      (c.readTokens call' (parameterText line))) :
    Tied R V (c.readLine call line) (c.readLine call' line) := by
  simp only [readLine]
  split
  · exact .throw _
  · split
    · exact h
    · exact .throw _

lemma settle_tied {call call' : String → Run String} {c : Command}
    {bound : Except ParameterError BoundParameters} {V : String → String → Prop}
    (hrecord : ∀ ⦃s t⦄, R s t → R (s.record (c.entry bound)) (t.record (c.entry bound)))
    (h : Tied R V ((c.answer bound).run call) ((c.answer bound).run call')) :
    Tied R V (c.settle call bound) (c.settle call' bound) :=
  (Tied.record hrecord).bind_eq fun _ => h

lemma run_tied {call call' : String → Run String} (hR : Tied.Stable R)
    (hcall : ∀ line, Tied R Eq (call line) (call' line)) (c : Command) (line : String) :
    Tied R Eq (c.run call line) (c.run call' line) := by
  have hresolve : ∀ text, Tied R Eq (c.resolveNested call text) (c.resolveNested call' text) :=
    fun text => resolveNested_tied rfl (hcall text) fun f _ =>
      (Tied.of_ofRun hR (by trivial)).bind_eq fun _ => Tied.script hR hcall (f text)
  have hscan := scan_tied (R := R) (P := fun _ _ => True) c.maxDepth
    (fun _ _ _ _ _ _ => trivial)
    (fun _ _ _ text _ _ _ => (hresolve text).mono fun _ _ h => ⟨h, trivial⟩)
    (parameterText line) trivial
  have htokens := readTokens_tied (U := fun _ => True) (fun _ _ hr => hR.typesOf hr c)
    (hscan.mono fun _ _ h => ⟨h.1, fun _ _ => trivial⟩)
  rw [run_eq, run_eq]
  refine (readLine_tied (htokens.mono fun _ _ h => h.1)).bind_eq fun bound => ?_
  exact settle_tied (fun _ _ hr => hR.record hr _ (entry_ofRun c bound)) (Tied.script hR hcall _)

end Command

end LineShell
