import LineShell.Proofs.Run.Confined

/-! Executing a line through the registry and running it on the stored command itself. What runs is
a copy, and the two differ exactly where the override that a copy does without would show. -/

namespace LineShell

open Run

structure SameWork (s t : Session) : Prop where
  registry : s.registry = t.registry
  defaults : s.defaults = t.defaults
  journal : s.journal = t.journal

lemma SameWork.refl (s : Session) : SameWork s s :=
  ⟨rfl, rfl, rfl⟩

lemma SameWork.symm {s t : Session} (h : SameWork s t) : SameWork t s :=
  ⟨h.registry.symm, h.defaults.symm, h.journal.symm⟩

lemma SameWork.trans {s t u : Session} (h : SameWork s t) (h' : SameWork t u) : SameWork s u :=
  ⟨h.registry.trans h'.registry, h.defaults.trans h'.defaults, h.journal.trans h'.journal⟩

lemma SameWork.setTelemetry {s t : Session} (h : SameWork s t) (u v : Telemetry) :
    SameWork { s with telemetry := u } { t with telemetry := v } :=
  ⟨h.registry, h.defaults, h.journal⟩

lemma sameWork_stable : Tied.Stable SameWork where
  registry _ _ h := h.registry
  defaults _ _ h := h.defaults
  record _ _ h e _ := ⟨h.registry, h.defaults, congrArg (e :: ·) h.journal⟩
  setRegistry _ _ h _ := ⟨rfl, h.defaults, h.journal⟩

/-- The same text or failure, after the same events and with the same registry. -/
def Alike (a b : Except Failure String × Session) : Prop :=
  a.1 = b.1 ∧ SameWork a.2 b.2

lemma Alike.refl (a : Except Failure String × Session) : Alike a a :=
  ⟨rfl, .refl _⟩

lemma Alike.trans {a b c : Except Failure String × Session} (h : Alike a b) (h' : Alike b c) :
    Alike a c :=
  ⟨h.1.trans h'.1, h.2.trans h'.2⟩

lemma Alike.symm {a b : Except Failure String × Session} (h : Alike a b) : Alike b a :=
  ⟨h.1.symm, h.2.symm⟩

namespace Command

def definition (c : Command) : Definition Script where
  name := c.name
  action := some c.action
  parameters := c.parameters
  description := c.description
  maxDepth := some c.maxDepth
  nested := none
  hook := c.hook

lemma ofDefinition_definition (c : Command) :
    ofDefinition c.definition c.delegate c.types c.maxDepth = .ok c.clone := by
  have hblank := not_isBlankText_of_isWord c.name_isWord
  have hdepth : ¬ (c.maxDepth : Int) < 0 := by omega
  rw [ofDefinition]
  simp only [definition, hblank, c.name_isWord, hdepth, Bool.false_eq_true, if_false, dif_pos]
  split
  · rename_i fault hfault
    rw [c.parameters_arity] at hfault
    cases hfault
  · rename_i arity harity
    obtain rfl : c.arity = arity := Except.ok.inj (c.parameters_arity.symm.trans harity)
    rfl

/-- The line does not bind on the command, and what the override makes of that is not what a copy
makes of it, which has the hook alone. -/
def OverrideShows (call : String → Run String) (c : Command) (line : String) (s : Session) : Prop :=
  ∃ f e, c.override = some f ∧ (c.readLine call line s).1 = .ok (.error e) ∧
    ¬ Alike
      ((c.clone.onParameterError e).run call
        ((c.readLine call line s).2.record (c.entry (.error e))))
      ((f e).run call ((c.readLine call line s).2.record (c.entry (.error e))))

lemma clone_run_alike_iff (call : String → Run String) (c : Command) (line : String)
    (s : Session) :
    Alike (c.clone.run call line s) (c.run call line s) ↔ ¬ c.OverrideShows call line s := by
  cases ho : c.override with
  | none =>
    have hc : c.clone = c := by
      cases c
      simp only at ho
      rw [ho]
      rfl
    simp [OverrideShows, ho, hc, Alike.refl]
  | some f =>
    have hread : c.clone.readLine call line = c.readLine call line := rfl
    rw [run_eq, run_eq, hread, bind_apply, bind_apply, OverrideShows]
    rcases c.readLine call line s with ⟨failure | e | p, t⟩
    · simp [ExceptT.bindCont, Alike.refl]
    · have hclone : c.clone.settle call (.error e) t
          = (c.clone.onParameterError e).run call (t.record (c.entry (.error e))) := rfl
      have hown : c.settle call (.error e) t = (f e).run call (t.record (c.entry (.error e))) := by
        change (c.onParameterError e).run call _ = _
        rw [onParameterError, ho]
      simp [ExceptT.bindCont, ho, hclone, hown]
    · have hp : c.clone.settle call (.ok p) t = c.settle call (.ok p) t := rfl
      simp [ExceptT.bindCont, hp, Alike.refl]

end Command

def Untimed (call : String → Run String) : Prop :=
  ∀ line, Tied SameWork Eq (call line) (call line)

lemma untimed_execute (budget : Nat) : Untimed (execute budget) :=
  execute_tied sameWork_stable (fun _ t h u => h.setTelemetry u t.telemetry)
    (fun s _ h u => h.setTelemetry s.telemetry u) budget

lemma within_one_alike_clone_run {s : Session} {c : Command} {line : String}
    (hc : s.registry.get? c.name = some c) (hl : leadingWord line = c.name)
    {call : String → Run String} (hcall : Untimed call) :
    Alike (within call 1 line s) (c.clone.run call line s) := by
  cases hb : Text.isBlankText line with
  | true =>
    have hd : s.registry.dispatch line = .error .emptyLine := by
      simp only [Registry.dispatch, hb, if_true]
    simp only [within, Command.run, hb, if_true]
    rw [registry_bind, hd]
    exact .refl _
  | false =>
    have hrun : Tied SameWork Eq
        (inSpan ("execute:" ++ leadingWord line) [("line", .string line)] (c.clone.run call line))
        (c.clone.run call line) :=
      .inSpan_left (fun _ t h u => h.setTelemetry u t.telemetry)
        (Command.run_tied sameWork_stable hcall c.clone line)
    obtain ⟨ho, hs⟩ := hrun (.refl s)
    rw [within_succ_apply call 0 (Registry.dispatch_of_get? hc hl hb)]
    exact ⟨ho.eq, hs⟩

lemma within_one_alike_run_iff {s : Session} {c : Command} {line : String}
    (hc : s.registry.get? c.name = some c) (hl : leadingWord line = c.name)
    {call : String → Run String} (hcall : Untimed call) :
    Alike (within call 1 line s) (c.run call line s) ↔ ¬ c.OverrideShows call line s := by
  have hclone := within_one_alike_clone_run hc hl hcall
  rw [← Command.clone_run_alike_iff]
  exact ⟨hclone.symm.trans, hclone.trans⟩

lemma clone_of_mem_list {r : Registry} {i : Nat} {name : String} {c copy : Command}
    (hc : r.commands[i]? = some (name, c)) (hcopy : r.list[i]? = some copy) : copy = c.clone := by
  simp only [Registry.list, List.getElem?_map, hc, Option.map_some, Option.some.injEq] at hcopy
  exact hcopy.symm

def friendly : Command where
  name := "move"
  action := fun p => .done ("moved " ++ " ".intercalate (p.values.map ParameterValue.toText))
  parameters := [.required "steps" "x" ""]
  description := ""
  delegate := .none
  maxDepth := defaultMaxDepth
  hook := none
  types := .own ⟨[("steps", Parser.integer)]⟩
  override := some fun _ => .done "usage: move <x:steps>"
  arity := ⟨1, 0⟩
  name_isWord := by decide
  parameters_arity := by decide

def friendlySession : Session :=
  .start ⟨.builtin, [("move", friendly)], defaultMaxDepth, true⟩

def plainSession : Session :=
  .start ⟨.builtin, [("move", friendly.clone)], defaultMaxDepth, true⟩

/-- What executing a line does is what the command that is registered does by itself, whatever
nested lines make of the registry meanwhile, and so with its copies, unless its override shows. -/
theorem dispatch_alike_run_iff (s : Session) (c : Command)
    (hc : s.registry.get? c.name = some c) :
    Command.ofDefinition c.definition c.delegate c.types c.maxDepth = .ok c.clone ∧
    (∀ budget line, leadingWord line = c.name →
      (Alike (execute (budget + 1) line s) (c.run (execute budget) line s) ↔
        ¬ c.OverrideShows (execute budget) line s)) ∧
    (∀ call line, Untimed call → leadingWord line = c.name →
      (Alike (within call 1 line s) (c.run call line s) ↔ ¬ c.OverrideShows call line s)) ∧
    (∀ call line t,
      Alike (c.clone.run call line t) (c.run call line t) ↔ ¬ c.OverrideShows call line t) ∧
    (∀ (i : Nat) name (copy : Command) call line t, s.registry.commands[i]? = some (name, c) →
      s.registry.list[i]? = some copy →
      (Alike (copy.run call line t) (c.run call line t) ↔ ¬ c.OverrideShows call line t)) := by
  refine ⟨c.ofDefinition_definition, fun budget line hl => ?_,
    fun call line hcall hl => within_one_alike_run_iff hc hl hcall,
    fun call line t => c.clone_run_alike_iff call line t, ?_⟩
  · rw [execute_add budget 1]
    exact within_one_alike_run_iff hc hl (untimed_execute budget)
  · intro i name copy call line t hi hcopy
    rw [clone_of_mem_list hi hcopy]
    exact c.clone_run_alike_iff call line t

theorem dispatch_alike_run_clone :
    plainSession.registry.get? friendly.clone.name = some friendly.clone ∧
      Alike (execute 1 "move 3" plainSession)
        (friendly.clone.run (execute 0) "move 3" plainSession) ∧
      (execute 1 "move 3" plainSession).1 = .ok "moved 3" ∧
      Alike (execute 1 "move" plainSession)
        (friendly.clone.run (execute 0) "move" plainSession) := by
  have hc : plainSession.registry.get? friendly.clone.name = some friendly.clone := rfl
  have hshows : ∀ line, ¬ friendly.clone.OverrideShows (execute 0) line plainSession := by
    rintro line ⟨f, e, hf, -⟩
    cases hf
  obtain ⟨-, hexecute, -⟩ := dispatch_alike_run_iff plainSession friendly.clone hc
  exact ⟨hc, (hexecute 0 "move 3" (by cbv)).mpr (hshows _), by cbv,
    (hexecute 0 "move" (by cbv)).mpr (hshows _)⟩

/-- A stored command that treats failures to bind itself is not what is executed, nor are its
copies. -/
theorem friendly_not_dispatched_alike :
    (Registry.empty .builtin defaultMaxDepth true).add friendly = .ok friendlySession.registry ∧
      friendlySession.registry.list[0]? = some friendly.clone ∧
      leadingWord "move" = friendly.name ∧
      ¬ Alike (execute 1 "move" friendlySession)
        (friendly.run (execute 0) "move" friendlySession) ∧
      ¬ Alike (friendly.clone.run (execute 0) "move" friendlySession)
        (friendly.run (execute 0) "move" friendlySession) := by
  have hown : (friendly.run (execute 0) "move" friendlySession).1
      = .ok "usage: move <x:steps>" := by
    cbv
  have hexecute : (execute 1 "move" friendlySession).1 = .error (.parameter (.missing "x")) := by
    cbv
  have hclone : (friendly.clone.run (execute 0) "move" friendlySession).1
      = .error (.parameter (.missing "x")) := by
    cbv
  refine ⟨rfl, rfl, by cbv, ?_, ?_⟩
  · rintro ⟨h, -⟩
    rw [hexecute, hown] at h
    cases h
  · rintro ⟨h, -⟩
    rw [hclone, hown] at h
    cases h

end LineShell
