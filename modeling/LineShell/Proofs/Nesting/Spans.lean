import LineShell.Interpreter
import LineShell.Proofs.Run.Level

namespace LineShell

mutual

def Span.height : Span → Nat
  | ⟨_, _, _, _, children⟩ => Span.levels children

def Span.levels : List Span → Nat
  | [] => 0
  | s :: rest => max (s.height + 1) (Span.levels rest)

end

lemma Span.height_eq (s : Span) : s.height = Span.levels s.children := by
  obtain ⟨name, start, finish, annotations, children⟩ := s
  rw [Span.height]

lemma Span.levels_append (a b : List Span) :
    Span.levels (a ++ b) = max (Span.levels a) (Span.levels b) := by
  induction a with
  | nil => rw [List.nil_append, Span.levels, Nat.zero_max]
  | cons s a ih => rw [List.cons_append, Span.levels, Span.levels, ih, Nat.max_assoc]

namespace Telemetry

/-- From `t` to `u`, the innermost open span has got at most that many levels of spans below it, or
it had more before. -/
def Grows (k : Nat) (t u : Telemetry) : Prop :=
  u.enabled = t.enabled ∧ u.time = t.time ∧
    match t.active with
    | [] => u.active = []
    | s :: rest => ∃ s' : Span, u.active = s' :: rest ∧ s'.height ≤ max s.height k

lemma Grows.refl (k : Nat) (t : Telemetry) : Grows k t t := by
  refine ⟨rfl, rfl, ?_⟩
  cases h : t.active with
  | nil => rfl
  | cons s rest => exact ⟨s, rfl, Nat.le_max_left _ _⟩

lemma Grows.mono {j k : Nat} {t u : Telemetry} (h : Grows j t u) (hjk : j ≤ k) : Grows k t u := by
  obtain ⟨henabled, htime, hactive⟩ := h
  refine ⟨henabled, htime, ?_⟩
  cases ht : t.active with
  | nil => simpa only [ht] using hactive
  | cons s rest =>
    simp only [ht] at hactive
    obtain ⟨s', hs', hheight⟩ := hactive
    exact ⟨s', hs', by omega⟩

lemma Grows.trans {k : Nat} {t u v : Telemetry} (h : Grows k t u) (h' : Grows k u v) :
    Grows k t v := by
  obtain ⟨henabled, htime, hactive⟩ := h
  obtain ⟨henabled', htime', hactive'⟩ := h'
  refine ⟨henabled'.trans henabled, htime'.trans htime, ?_⟩
  cases ht : t.active with
  | nil =>
    simp only [ht] at hactive
    simpa only [hactive] using hactive'
  | cons s rest =>
    simp only [ht] at hactive
    obtain ⟨s', hs', hheight⟩ := hactive
    simp only [hs'] at hactive'
    obtain ⟨s'', hs'', hheight'⟩ := hactive'
    exact ⟨s'', hs'', by omega⟩

lemma annotate_grows (t : Telemetry) (key : String) (value : Datum) :
    Grows 0 t (t.annotate key value) := by
  rw [annotate]
  split
  · rename_i s rest henabled hactive
    refine ⟨rfl, rfl, ?_⟩
    simp only [hactive]
    refine ⟨_, rfl, ?_⟩
    rw [Span.height_eq, Span.height_eq]
    exact Nat.le_max_left _ _
  · exact .refl 0 t

lemma annotateAll_grows (t : Telemetry) (notes : List (String × Datum)) :
    Grows 0 t (notes.foldl (fun t a => t.annotate a.1 a.2) t) := by
  induction notes generalizing t with
  | nil => exact .refl 0 t
  | cons a notes ih => exact (annotate_grows t a.1 a.2).trans (ih _)

lemma enter?_eq_some {t u : Telemetry} {name : String} (h : t.enter? name = some u) :
    ∃ s rest, t.active = s :: rest ∧
      u = { t with
        clock := t.clock + 1
        active := ⟨name, t.clock, none, [], []⟩ :: s :: rest } := by
  rw [enter?, current?] at h
  cases hactive : t.active with
  | nil =>
    rw [hactive] at h
    split at h <;> cases h
  | cons s rest =>
    rw [hactive] at h
    split at h <;> cases h
    exact ⟨s, rest, rfl, rfl⟩

lemma leave_grows {k : Nat} {t u v : Telemetry} {name : String} (henter : t.enter? name = some u)
    (h : Grows k u v) : Grows (k + 1) t v.leave := by
  obtain ⟨s, rest, hactive, rfl⟩ := enter?_eq_some henter
  obtain ⟨henabled, htime, s', hs', hheight⟩ := h
  have hopened : s'.height ≤ k := by
    simpa only [Span.height, Span.levels, Nat.zero_max] using hheight
  rw [leave]
  simp only [hs']
  refine ⟨henabled, htime, ?_⟩
  simp only [hactive]
  refine ⟨_, rfl, ?_⟩
  have hclosed : Span.height { s' with finish := some v.clock } = s'.height := by
    rw [Span.height_eq, Span.height_eq]
  rw [Span.height_eq, Span.levels_append, ← Span.height_eq s, Span.levels, Span.levels, hclosed]
  omega

end Telemetry

open Run

lemma inSpan_grows {α : Type} {k : Nat} {name : String} {notes : List (String × Datum)}
    {x : Run α} (h : ∀ s : Session, s.telemetry.Grows k (x s).2.telemetry) (s : Session) :
    s.telemetry.Grows (k + 1) (inSpan name notes x s).2.telemetry := by
  cases henter : s.telemetry.enter? name with
  | none =>
    rw [inSpan_of_none henter]
    exact (h s).mono (Nat.le_succ k)
  | some u =>
    rw [inSpan_of_some henter]
    have hnotes := (Telemetry.annotateAll_grows u notes).mono (Nat.zero_le k)
    exact Telemetry.leave_grows henter (hnotes.trans (h _))

def GrownFrom (k : Nat) (t : Telemetry) (s s' : Session) : Prop :=
  s = s' ∧ t.Grows k s.telemetry

lemma grownFrom_stable (k : Nat) (t : Telemetry) : Tied.Stable (GrownFrom k t) where
  registry _ _ h := by rw [h.1]
  defaults _ _ h := by rw [h.1]
  record _ _ h _ _ := ⟨by rw [h.1], h.2⟩
  setRegistry _ _ h _ := ⟨by rw [h.1], h.2⟩

lemma Command.run_grows {k : Nat} {call : String → Run String}
    (hcall : ∀ line (s : Session), s.telemetry.Grows k (call line s).2.telemetry) (c : Command)
    (line : String) (s : Session) : s.telemetry.Grows k (c.run call line s).2.telemetry := by
  have htied : ∀ line, Tied (GrownFrom k s.telemetry) Eq (call line) (call line) := by
    rintro line t _ ⟨rfl, ht⟩
    exact ⟨.refl _, rfl, ht.trans (hcall line t)⟩
  have hrun := Command.run_tied (grownFrom_stable k s.telemetry) htied c line
  exact (hrun ⟨rfl, .refl k s.telemetry⟩).2.2

lemma execute_grows (budget : Nat) (line : String) (s : Session) :
    s.telemetry.Grows budget (execute budget line s).2.telemetry := by
  induction budget generalizing line s with
  | zero =>
    rw [execute]
    rw [registry_bind]
    cases s.registry.dispatch line <;> exact .refl 0 _
  | succ n ih =>
    rw [execute]
    rw [registry_bind]
    cases s.registry.dispatch line with
    | error e => exact .refl _ _
    | ok c => exact inSpan_grows (Command.run_grows ih c.clone line) s

def Untracked {α : Type} (x : StateM Session α) : Prop :=
  ∀ s, (x s).2.telemetry = s.telemetry

def Blind {α : Type} (x : StateM Session α) : Prop :=
  ∀ s t, x { s with telemetry := t } = ((x s).1, { (x s).2 with telemetry := t })

lemma Blind.untracked {α : Type} {x : StateM Session α} (hx : Blind x) : Untracked x :=
  fun s => congrArg (fun r => r.2.telemetry) (hx s s.telemetry)

lemma Blind.bind {α β : Type} {x : StateM Session α} {f : α → StateM Session β}
    (hx : Blind x) (hf : ∀ a, Blind (f a)) : Blind (x >>= f) := by
  intro s t
  change f (x { s with telemetry := t }).1 (x { s with telemetry := t }).2 = _
  rw [hx s t]
  exact hf _ _ t

lemma blind_record (e : Event) : Blind (modify (·.record e)) :=
  fun _ _ => rfl

namespace PluginManager

lemma notes_blind (notes : List Datum) :
    Blind (forIn notes PUnit.unit fun d _ => do
      modify (·.record (.noted "observed" d))
      pure (ForInStep.yield PUnit.unit)) := by
  induction notes with
  | nil => exact fun _ _ => rfl
  | cons d notes ih =>
    rw [List.forIn_cons, bind_assoc]
    refine (blind_record _).bind fun _ => ?_
    rw [pure_bind]
    exact ih

lemma tell_blind (line : String) (ok : Bool) (output : Option String)
    (plugins : List (String × Plugin)) : Blind (tell line ok output plugins) := by
  induction plugins with
  | nil => exact fun _ _ => rfl
  | cons e plugins ih =>
    obtain ⟨name, p⟩ := e
    rw [tell]
    cases p.isClass with
    | true => exact fun _ _ => rfl
    | false =>
      cases p.observer with
      | none => exact ih
      | some observer =>
        refine (blind_record _).bind fun _ => (notes_blind _).bind fun _ => ?_
        cases (observer line ok output).failure with
        | none => exact ih
        | some f => exact fun _ _ => rfl

end PluginManager

namespace Interpreter

def opened (i : Interpreter) (line : String) : Session :=
  { i.session with
    telemetry := (i.session.telemetry.enterRoot "Interpreter.execute").annotate "command"
      (.string (leadingWord line)) }

lemma opened_grows (i : Interpreter) (line : String) :
    (i.session.telemetry.enterRoot "Interpreter.execute").Grows 0 (i.opened line).telemetry :=
  Telemetry.annotate_grows _ _ _

def settled (line : String) (result : Except Exception String) (warnings : List String) :
    Except Failure Outcome :=
  match outcomeOf line result with
  | .ok outcome => .ok { outcome with warnings }
  | .error e => .error (.exception e)

def ending (line : String) (result : Except Exception String) :
    Option Failure → Except Failure Outcome
  | none => settled line result []
  | some (.exception _) => settled line result [observerWarning]
  | some (.exit code) => .error (.exit code)

def conclude (plugins : PluginManager) (line : String) (run : Except Failure String × Session) :
    Except Failure Outcome × Session :=
  match Run.handled run.1 with
  | .error f => (.error f, run.2)
  | .ok result =>
    let told := plugins.notify line result.isOk result.toOption run.2
    (ending line result told.1, told.2)

lemma postExecute_apply (plugins : PluginManager) (line : String) (ok : Bool)
    (output : Option String) (s : Session) :
    postExecute plugins line ok output s =
      let told := plugins.notify line ok output s
      (match told.1 with
        | none => .ok []
        | some (.exception _) => .ok [observerWarning]
        | some (.exit code) => .error (.exit code), told.2) := by
  have hlift : (liftM (plugins.notify line ok output) : Run (Option Failure)) s
      = (.ok (plugins.notify line ok output s).1, (plugins.notify line ok output s).2) := rfl
  rw [postExecute, bind_apply, hlift]
  generalize plugins.notify line ok output s = told
  rcases told with ⟨_ | _ | _, t⟩ <;> rfl

lemma perform_apply (budget : Nat) (plugins : PluginManager) (line : String) (s : Session) :
    perform budget plugins line s =
      conclude plugins line (LineShell.execute budget line
        { s with telemetry := s.telemetry.annotate "command" (.string (leadingWord line)) }) := by
  rw [perform]
  change (Run.caught (LineShell.execute budget line) >>= _)
    { s with telemetry := s.telemetry.annotate "command" (.string (leadingWord line)) } = _
  rw [bind_apply, caught_apply, conclude]
  cases Run.handled (LineShell.execute budget line
    { s with telemetry := s.telemetry.annotate "command" (.string (leadingWord line)) }).1 with
  | error f => rfl
  | ok result =>
    change (postExecute plugins line result.isOk result.toOption >>= _) _ = _
    rw [bind_apply, postExecute_apply]
    dsimp only
    generalize plugins.notify line result.isOk result.toOption _ = told
    rcases told with ⟨_ | _ | _, t⟩
    · simp only [ending, settled, ExceptT.bindCont]
      cases outcomeOf line result <;> rfl
    · simp only [ending, settled, ExceptT.bindCont]
      cases outcomeOf line result <;> rfl
    · rfl

lemma conclude_telemetry (plugins : PluginManager) (line : String)
    (run : Except Failure String × Session) :
    (conclude plugins line run).2.telemetry = run.2.telemetry := by
  rw [conclude]
  cases Run.handled run.1 with
  | error f => rfl
  | ok result => exact (PluginManager.tell_blind line _ _ plugins.observers).untracked _

lemma perform_telemetry (i : Interpreter) (line : String) :
    (perform i.budget i.plugins line { i.session with
        telemetry := i.session.telemetry.enterRoot "Interpreter.execute" }).2.telemetry
      = (LineShell.execute i.budget line (i.opened line)).2.telemetry := by
  rw [perform_apply, conclude_telemetry]
  rfl

lemma outcomeOf_meta {line : String} {result : Except Exception String} {o : Outcome}
    (h : outcomeOf line result = .ok o) : o.meta? = none := by
  cases result with
  | ok text =>
    cases h
    rfl
  | error e =>
    rw [outcomeOf] at h
    cases he : OutcomeError.ofException (leadingWord line) e with
    | error e' =>
      rw [he] at h
      cases h
    | ok error =>
      rw [he] at h
      cases h
      rfl

lemma settled_meta {line : String} {result : Except Exception String} {warnings : List String}
    {o : Outcome} (h : settled line result warnings = .ok o) : o.meta? = none := by
  rw [settled] at h
  split at h
  · rename_i ho
    cases h
    exact (outcomeOf_meta ho :)
  · cases h

lemma ending_meta {line : String} {result : Except Exception String} {told : Option Failure}
    {o : Outcome} (h : ending line result told = .ok o) : o.meta? = none := by
  rcases told with _ | _ | _
  · exact settled_meta h
  · exact settled_meta h
  · cases h

lemma perform_meta {budget : Nat} {plugins : PluginManager} {line : String} {s : Session}
    {o : Outcome} (h : (perform budget plugins line s).1 = .ok o) : o.meta? = none := by
  rw [perform_apply, conclude] at h
  split at h
  · cases h
  · exact ending_meta h

def closeRoot (before : List Span) (p : Except Failure Outcome × Session) :
    Except Failure Outcome × Session :=
  match p with
  | (.error (.exit code), s) => (.error (.exit code), s)
  | (result, s) =>
    let root := s.telemetry.leaveRoot before
    (result.map fun o => root.1.elim o fun span => o.withSpan (span.toDatum root.2.time),
      { s with telemetry := root.2 })

lemma closeRoot_ok (before : List Span) (o : Outcome) (s : Session) :
    closeRoot before (.ok o, s) =
      let root := s.telemetry.leaveRoot before
      (.ok (root.1.elim o fun span => o.withSpan (span.toDatum root.2.time)),
        { s with telemetry := root.2 }) :=
  rfl

lemma execute_of_enabled {i : Interpreter} (h : i.session.telemetry.enabled = true)
    (line : String) :
    i.execute line =
      let p := closeRoot i.session.telemetry.active
        (perform i.budget i.plugins line { i.session with
          telemetry := i.session.telemetry.enterRoot "Interpreter.execute" })
      (p.1, { i with session := p.2 }) := by
  rw [execute, traced]
  simp only [h, if_true]
  generalize perform i.budget i.plugins line _ = p
  rcases p with ⟨(_ | _) | _, s⟩ <;> rfl

lemma execute_of_disabled {i : Interpreter} (h : i.session.telemetry.enabled = false)
    (line : String) :
    i.execute line =
      let p := perform i.budget i.plugins line i.session
      (p.1, { i with session := p.2 }) := by
  rw [execute, traced]
  simp only [h, if_false, Bool.false_eq_true]
  rfl

lemma execute_meta {i : Interpreter} {line : String} {root : Span} {rest : List Span} {o : Outcome}
    (h : i.session.telemetry.enabled = true)
    (hactive : (LineShell.execute i.budget line (i.opened line)).2.telemetry.active = root :: rest)
    (ho : (i.execute line).1 = .ok o) :
    let after := (LineShell.execute i.budget line (i.opened line)).2.telemetry
    o.meta? = some [("telemetry",
      Span.toDatum after.time { root with finish := some after.clock })] := by
  have htelemetry := perform_telemetry i line
  rw [execute_of_enabled h line] at ho
  dsimp only at ho ⊢
  rw [← htelemetry] at hactive ⊢
  generalize hp : perform i.budget i.plugins line { i.session with
    telemetry := i.session.telemetry.enterRoot "Interpreter.execute" } = p at ho hactive ⊢
  obtain ⟨(_ | _) | outcome, s⟩ := p
  · cases ho
  · cases ho
  · have hmeta := perform_meta (congrArg Prod.fst hp)
    dsimp only at hactive
    rw [closeRoot_ok, Telemetry.leaveRoot] at ho
    simp only [hactive, Option.elim, Outcome.withSpan, hmeta] at ho
    cases ho
    rfl

lemma exists_span_le {i : Interpreter} {line : String} {k : Nat}
    (h : i.session.telemetry.enabled = true)
    (hk : LineShell.execute i.budget line (i.opened line)
      = LineShell.execute k line (i.opened line)) {o : Outcome} (ho : (i.execute line).1 = .ok o) :
    ∃ span : Span, o.meta? = some [("telemetry", span.toDatum i.session.telemetry.time)] ∧
      span.height ≤ k := by
  have hgrows := ((opened_grows i line).mono (Nat.zero_le k)).trans
    (execute_grows k line (i.opened line))
  rw [← hk] at hgrows
  obtain ⟨-, htime, root, hactive, hheight⟩ := hgrows
  have hmeta := execute_meta h hactive ho
  dsimp only at hmeta
  rw [htime] at hmeta
  refine ⟨_, hmeta, ?_⟩
  rw [Span.height_eq, ← Span.height_eq root]
  simpa only [Span.height, Span.levels, Nat.zero_max] using hheight

end Interpreter

end LineShell
