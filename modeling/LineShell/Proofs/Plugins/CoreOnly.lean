import LineShell.Proofs.Nesting.Descent
import LineShell.Proofs.Observers.Outcome
import LineShell.Proofs.Parameter.FirstFault
import LineShell.Proofs.Plugins.Builtin

namespace LineShell

open Run PluginManager

def CommandError.refusals : List String :=
  ["EMPTY_COMMAND", "COMMAND_NOT_FOUND", "MISSING_PARAMETER", "PARAMETER_TYPE_MISMATCH",
    "NESTING_LIMIT_EXCEEDED"]

def CommandError.IsRefusal (e : CommandError) : Prop :=
  ∃ code detail, e.code = .string code ∧ e.detail = .object detail ∧ code ∈ refusals

def Failure.Refuses (f : Failure) : Prop :=
  ∃ e : CommandError, f = .command e ∧ e.IsRefusal

namespace CommandError

lemma isRefusal_emptyLine : emptyLine.IsRefusal :=
  ⟨_, _, rfl, rfl, by decide⟩

lemma isRefusal_notFound (name : String) : (notFound name).IsRefusal :=
  ⟨_, _, rfl, rfl, by simp [refusals]⟩

lemma isRefusal_nestingLimit (limit : Int) : (nestingLimit limit).IsRefusal :=
  ⟨_, _, rfl, rfl, by simp [refusals]⟩

end CommandError

lemma Registry.dispatch_isRefusal {r : Registry} {line : String} {e : CommandError}
    (h : r.dispatch line = .error e) : e.IsRefusal := by
  rw [Registry.dispatch] at h
  split at h
  · cases h
    exact CommandError.isRefusal_emptyLine
  · split at h
    · cases h
    · cases h
      exact CommandError.isRefusal_notFound _

def Script.FailsOnly (F : Failure → Prop) : Script → Prop
  | .done _ => True
  | .fail f => F f
  | .execute _ _ => False
  | .attempt _ _ => False
  | .create _ _ => False
  | .remove _ _ => False
  | .survey rest => ∀ signatures, (rest signatures).FailsOnly F
  | .note _ _ rest => rest.FailsOnly F

variable {I : Registry → Prop} {F : Failure → Prop} {types : TypeTable}

lemma Script.FailsOnly.ensures {σ : Script} (h : σ.FailsOnly F) (call : String → Run String) :
    Ensures I (fun _ => True) F (σ.run call) := by
  induction σ using Script.induction with
  | done result => exact .pure trivial
  | fail f => exact .throw h
  | execute line rest ih => exact h.elim
  | attempt line rest ih => exact h.elim
  | create d rest ih => exact h.elim
  | remove name rest ih => exact h.elim
  | survey rest ih => exact Ensures.registry.bind fun r _ => ih _ (h _)
  | note label content rest ih => exact (Ensures.record _).bind fun _ _ => ih h

lemma ParameterSpec.Fault.isRefusal {p : ParameterSpec} {token : Option String}
    {e : ParameterError} (hp : types.contains p.typeName = true) (h : p.Fault types token e) :
    (CommandError.parameter e).IsRefusal := by
  refine ⟨e.code, e.detail, rfl, rfl, ?_⟩
  cases h with
  | missing _ => simp [ParameterError.code, CommandError.refusals]
  | unknownType hname => exact absurd ((Entries.has_iff_mem_keys types.parsers _).mp hp) hname
  | refused _ _ => simp [ParameterError.code, CommandError.refusals]

lemma bind_isRefusal {parameters : List ParameterSpec} {tokens : List String} {raw : String}
    {e : ParameterError} (hparameters : ∀ p ∈ parameters, types.contains p.typeName = true)
    (h : bind types parameters tokens raw = .error e) : (CommandError.parameter e).IsRefusal := by
  obtain ⟨i, p, hp, hfault, -⟩ := bind_eq_error_iff.mp h
  exact hfault.isRefusal (hparameters p (List.mem_of_getElem? hp))

namespace CorePlugin

lemma action_failsOnly {d : Definition Script} (hd : d ∈ definitions)
    {action : BoundParameters → Script} (ha : d.action = some action) (p : BoundParameters) :
    (action p).FailsOnly Failure.Refuses := by
  simp only [definitions, List.mem_cons, List.not_mem_nil, or_false] at hd
  rcases hd with rfl | rfl | rfl | rfl | rfl | rfl | rfl <;> cases ha
  iterate 6 trivial
  rw [help]
  intro signatures
  split
  · dsimp only
    split
    · trivial
    · exact ⟨_, rfl, CommandError.isRefusal_notFound _⟩
  · trivial

lemma definitions_types : ∀ d ∈ definitions, ∀ p ∈ d.parameters,
    TypeTable.builtin.contains p.typeName = true := by
  decide

lemma registry_types (maxDepth : Int) (nested : Bool) :
    (registry .builtin maxDepth nested).types = .builtin := by
  obtain ⟨more, hmore⟩ := declare_extends (definitions.map .ok) (.empty .builtin maxDepth nested)
  rw [registry, hmore]
  rfl

variable {maxDepth : Int} {nested : Bool}

lemma registry_get? {name : String} {c : Command}
    (h : (registry .builtin maxDepth nested).get? name = some c) :
    c.Declared ∧ c.name = name ∧
      ∀ tokens raw, (c.answer (bind .builtin c.parameters tokens raw)).FailsOnly
        Failure.Refuses := by
  have hmem := Entries.mem_of_get? h
  have hkeyed : (registry .builtin maxDepth nested).Keyed :=
    declare_keyed _ (by rintro e ⟨⟩)
  obtain ⟨d, hd, r, hb⟩ := exists_definition hmem
  obtain ⟨action, arity, hname, harity, ha, hc⟩ := Registry.build_eq_ok hb
  refine ⟨⟨r, d, hb⟩, (hkeyed _ hmem).symm, fun tokens raw => ?_⟩
  dsimp only at hc
  subst hc
  cases hbound : bind .builtin d.parameters tokens raw with
  | ok p => exact action_failsOnly hd ha p
  | error e =>
    simp only [Command.answer, Command.onParameterError, definitions_hook d hd]
    exact ⟨_, rfl, bind_isRefusal (definitions_types d hd) hbound⟩

lemma within_ensures (hF : ∀ f : Failure, f.Refuses → F f) {beyond : String → Run String}
    (hbeyond : ∀ line, Ensures (· = registry .builtin maxDepth nested) (fun _ => True) F
      (beyond line)) (k : Nat) (line : String) :
    Ensures (· = registry .builtin maxDepth nested) (fun _ => True) F (within beyond k line) := by
  have hrefuse : ∀ e : CommandError, e.IsRefusal → F (.command e) :=
    fun e he => hF _ ⟨e, rfl, he⟩
  induction k generalizing line with
  | zero => exact hbeyond line
  | succ k ih =>
    rw [within]
    refine Ensures.registry.bind fun r hr => ?_
    cases hd : r.dispatch line with
    | error e => exact .throw (hrefuse e (Registry.dispatch_isRefusal hd))
    | ok c =>
      have hc := Registry.get?_of_dispatch hd
      rw [hr] at hc
      obtain ⟨hdeclared, hname, hanswer⟩ := registry_get? hc
      have hresolve : ∀ text, Ensures (· = registry .builtin maxDepth nested) (fun _ => True) F
          (c.resolveNested (within beyond k) text) :=
        fun text => .resolveNested hdeclared ((ih text).orLiteral_kept text)
      have hrun : Ensures (· = registry .builtin maxDepth nested) (fun _ => True) F
          (c.run (within beyond k) line) := by
        have htypes : ∀ r, r = registry .builtin maxDepth nested → r.types = .builtin := by
          rintro _ rfl
          exact registry_types maxDepth nested
        refine .command hdeclared htypes (hrefuse _ CommandError.isRefusal_emptyLine) ?_ ?_
          hresolve ?_
        · intro hother
          rw [Command.answersTo, hname, beq_self_eq_true] at hother
          cases hother
        · intro limit
          exact hrefuse _ (CommandError.isRefusal_nestingLimit limit)
        · exact fun tokens => ((hanswer tokens _).ensures _).mono hF
      simp only [Run.ofExcept, pure_bind, hdeclared.clone_eq]
      exact hrun.inSpan _ _

lemma refuses_of_closers_lt {s : Session} (hs : s.registry = registry .builtin maxDepth nested)
    {budget : Nat} {line : String} (hroom : closers line < budget) {f : Failure}
    (h : (execute budget line s).1 = .error f) : f.Refuses := by
  obtain ⟨spare, rfl⟩ : ∃ spare, budget = spare + (closers line + 1) :=
    ⟨budget - (closers line + 1), by omega⟩
  obtain ⟨I, hI, hr⟩ := registry_restrained .builtin maxDepth nested
  have hsame : OneOf I s s := ⟨rfl, hs ▸ hr⟩
  -- Nothing gets to the levels beyond, so that these may as well be levels that refuse all lines.
  let beyond : String → Run String := fun _ => refuse .emptyLine
  have hbeyond : ∀ line, Ensures (· = registry .builtin maxDepth nested) (fun _ => True)
      Failure.Refuses (beyond line) :=
    fun _ => .throw ⟨_, rfl, CommandError.isRefusal_emptyLine⟩
  have hkept := within_ensures (fun _ hf => hf) hbeyond (closers line + 1) line s hs
  obtain ⟨ho, -⟩ := hI.within_of_le (execute spare) beyond (Nat.le_refl (closers line)) hsame
  have hlive := (ho.mono fun _ _ hab => hab.1).eq
  rw [execute_add, hlive] at h
  exact hkept.2.2 f h

lemma execute_ensures (budget : Nat) (line : String) :
    Ensures (· = registry .builtin maxDepth nested) (fun _ => True)
      (fun f => f.Refuses ∨ f = .tooDeep) (execute budget line) := by
  have hzero : ∀ line, Ensures (· = registry .builtin maxDepth nested) (fun _ => True)
      (fun f => f.Refuses ∨ f = .tooDeep) (execute 0 line) := by
    intro line
    rw [execute]
    refine Ensures.registry.bind fun r _ => ?_
    cases hd : r.dispatch line with
    | error e => exact .throw (.inl ⟨e, rfl, Registry.dispatch_isRefusal hd⟩)
    | ok c => exact .throw (.inr rfl)
  have hwithin := within_ensures (fun _ hf => .inl hf) hzero budget line
  rwa [← execute_add, Nat.zero_add] at hwithin

lemma execute_failure {s : Session} (hs : s.registry = registry .builtin maxDepth nested)
    {budget : Nat} {line : String} {f : Failure} (h : (execute budget line s).1 = .error f) :
    f.Refuses ∨ (f = .tooDeep ∧ budget ≤ closers line) := by
  by_cases hroom : closers line < budget
  · exact .inl (refuses_of_closers_lt hs hroom h)
  · rcases (execute_ensures budget line s hs).2.2 f h with hf | hf
    · exact .inl hf
    · exact .inr ⟨hf, by omega⟩

lemma execute_handled {s : Session} (hs : s.registry = registry .builtin maxDepth nested)
    (budget : Nat) (line : String) :
    ∃ result : Except Exception String, handled (execute budget line s).1 = .ok result ∧
      ∀ e, result = .error e → (∃ c, e = .command c ∧ c.IsRefusal) ∨
        (e = .tooDeep ∧ budget ≤ closers line) := by
  cases hrun : (execute budget line s).1 with
  | ok text => exact ⟨_, rfl, by rintro e ⟨⟩⟩
  | error f =>
    rcases execute_failure hs hrun with ⟨c, rfl, hc⟩ | ⟨rfl, hclosers⟩
    · refine ⟨_, rfl, ?_⟩
      rintro _ ⟨⟩
      exact .inl ⟨c, rfl, hc⟩
    · refine ⟨_, rfl, ?_⟩
      rintro _ ⟨⟩
      exact .inr ⟨rfl, hclosers⟩

end CorePlugin

lemma execute_congr {s t : Session} (h : s.registry = t.registry) (hd : s.defaults = t.defaults)
    (budget : Nat) (line : String) :
    (execute budget line s).1 = (execute budget line t).1 ∧
      (execute budget line s).2.defaults = s.defaults := by
  have hstable : Tied.Stable fun s' t' : Session =>
      s'.registry = t'.registry ∧ s'.defaults = t'.defaults ∧ s'.defaults = s.defaults :=
    ⟨fun _ _ h => h.1, fun _ _ h => h.2.1, fun _ _ h _ _ => h, fun _ _ h _ => ⟨rfl, h.2⟩⟩
  have htied := execute_tied hstable (fun _ _ h _ => h) (fun _ _ h _ => h) budget line
  obtain ⟨ho, -, -, hdefaults⟩ := htied ⟨h, hd, rfl⟩
  exact ⟨ho.eq, hdefaults⟩

namespace Interpreter

lemma conclude_congr (plugins : PluginManager) (line : String)
    {run run' : Except Failure String × Session} (h : run.1 = run'.1) :
    (conclude plugins line run).1 = (conclude plugins line run').1 := by
  cases hrun : handled run.1 with
  | error f => rw [conclude, conclude, ← h, hrun]
  | ok result => rw [conclude_eq plugins hrun, conclude_eq plugins (h ▸ hrun)]

structure Equipped (i j : Interpreter) : Prop where
  registry : i.session.registry = j.session.registry
  defaults : i.session.defaults = j.session.defaults
  plugins : i.plugins = j.plugins
  budget : i.budget = j.budget
  off : i.session.telemetry.enabled = false

lemma execute_eq_conclude {i : Interpreter} (h : i.session.telemetry.enabled = false)
    (line : String) : (i.execute line).1 =
      (conclude i.plugins line (LineShell.execute i.budget line i.session)).1 := by
  rw [← (i.execute_concluded line).1]
  cases ho : (i.execute line).1 with
  | error f => rfl
  | ok o =>
    have hmeta := execute_isSome_meta ho
    rw [h, Option.isSome_eq_false_iff, Option.isNone_iff_eq_none] at hmeta
    rw [Except.map, Outcome.bare, ← hmeta]

lemma execute_of_equipped {i j : Interpreter} (h : i.Equipped j)
    (hj : j.session.telemetry.enabled = false) (line : String) :
    (i.execute line).1 = (j.execute line).1 := by
  rw [execute_eq_conclude h.off, execute_eq_conclude hj, h.plugins, h.budget]
  exact conclude_congr j.plugins line (execute_congr h.registry h.defaults j.budget line).1

lemma run_of_equipped {i : Interpreter} {maxDepth : Int} {nested : Bool}
    (hi : i.session.registry = CorePlugin.registry .builtin maxDepth nested)
    (hoff : i.session.telemetry.enabled = false) (lines : List String) {j : Interpreter}
    (h : j.Equipped i) :
    (j.run (lines.map .execute)).1 = lines.map (fun line => (i.execute line).1) ∧
      (j.run (lines.map .execute)).2.session.registry = i.session.registry := by
  induction lines generalizing j with
  | nil => exact ⟨rfl, h.registry⟩
  | cons line lines ih =>
    have hrun := CorePlugin.execute_ensures j.budget line j.session (h.registry.trans hi)
    obtain ⟨-, hsame, hplugins, hbudget⟩ := j.execute_concluded line
    have hregistry : (j.execute line).2.session.registry = i.session.registry := by
      rw [hsame.registry, conclude_snd]
      exact hrun.1.trans hi.symm
    have hdefaults : (j.execute line).2.session.defaults = i.session.defaults := by
      rw [hsame.defaults, conclude_snd]
      exact (execute_congr h.registry h.defaults j.budget line).2.trans h.defaults
    have hnext : (j.execute line).2.Equipped i :=
      ⟨hregistry, hdefaults, hplugins.trans h.plugins, hbudget.trans h.budget,
        (execute_enabled j line).trans h.off⟩
    obtain ⟨houtcomes, hend⟩ := ih hnext
    exact ⟨congrArg₂ List.cons (execute_of_equipped h hoff line) houtcomes, hend⟩

lemma build_coreOnly {installed : Installed} {settings : Option Settings}
    {plugins : Option PluginManager} {files : FileTree} {log : List String}
    (h : (buildAmong installed settings plugins files log).1.plugins.entries
      = [(CorePlugin.name, CorePlugin.plugin)]) :
    let config := settings.elim .default (·.interpreter)
    (buildAmong installed settings plugins files log).1.session
      = .start (CorePlugin.registry .builtin config.maxDepth config.nested) := by
  obtain ⟨log', hloaded⟩ := buildAmong_loaded installed settings plugins files log
  rw [hloaded, load_fst]
  dsimp only
  rw [loadTypes, h]
  rfl

lemma execute_coreOnly {i : Interpreter} {maxDepth : Int} {nested : Bool}
    (hregistry : i.session.registry = CorePlugin.registry .builtin maxDepth nested)
    (hobservers : i.plugins.observers = []) (line : String) :
    ∃ o, (i.execute line).1 = .ok o ∧ ∀ e, o.error = some e →
      e.code ∈ CommandError.refusals ∨
        (e.code = "ACTION_FAILED" ∧ e.detail = [("name", .string (leadingWord line)),
          ("exception", .string "RecursionError")] ∧ i.budget ≤ closers line) := by
  obtain ⟨result, hresult, hcauses⟩ := CorePlugin.execute_handled hregistry i.budget line
  have hquiet : ∀ code, i.plugins.ending? (.of line result) ≠ some (.exit code) := by
    rw [PluginManager.ending?, hobservers]
    rintro code ⟨⟩
  obtain ⟨o, ho⟩ : ∃ o, (i.execute line).1 = .ok o := by
    refine (execute_ok_iff hresult hquiet).mpr fun c hc => ?_
    rcases hcauses _ hc with ⟨c', hsame, code, detail, hcode, hdetail, -⟩ | ⟨hsame, -⟩
    · cases hsame
      exact ⟨code, detail, hcode, hdetail⟩
    · cases hsame
  refine ⟨o, ho, fun e he => ?_⟩
  obtain ⟨result', hresult', htells⟩ := exists_tells ho
  obtain rfl := Except.ok.inj (hresult.symm.trans hresult')
  cases result with
  | ok text =>
    rw [(htells.output text rfl).1] at he
    cases he
  | error cause =>
    rcases hcauses cause rfl with ⟨c, rfl, code, detail, hcode, -, hmem⟩ | ⟨rfl, hclosers⟩
    · obtain ⟨-, code', detail', hcode', -, htold⟩ := htells.refusal c rfl
      obtain rfl : code = code' := Datum.string.inj (hcode.symm.trans hcode')
      rw [htold] at he
      cases he
      exact .inl hmem
    · rw [(htells.fault .tooDeep rfl (by rintro e ⟨⟩)).2] at he
      cases he
      exact .inr ⟨rfl, rfl, hclosers⟩

end Interpreter

/-- With the core commands alone, lines leave the registry as it was, each comes to what it comes
to on an interpreter that has just been built, and a line that fails is refused, unless it has as
many closing braces as lines may be under way at once. -/
theorem coreOnly_closed (installed : Installed) (settings : Option Settings)
    (plugins : Option PluginManager) (files : FileTree) (log : List String) (budget : Nat)
    (lines : List String)
    (h : (Interpreter.buildAmong installed settings plugins files log).1.plugins.entries
      = [(CorePlugin.name, CorePlugin.plugin)]) :
    let i := { (Interpreter.buildAmong installed settings plugins files log).1 with budget }
    let ran := i.run (lines.map .execute)
    ran.2.session.registry = i.session.registry ∧
      ran.1 = lines.map (fun line => (i.execute line).1) ∧
      ∀ line, ∃ o, (i.execute line).1 = .ok o ∧ ∀ e, o.error = some e →
        e.code ∈ ["EMPTY_COMMAND", "COMMAND_NOT_FOUND", "MISSING_PARAMETER",
            "PARAMETER_TYPE_MISMATCH", "NESTING_LIMIT_EXCEEDED"] ∨
          (e.code = "ACTION_FAILED" ∧ e.detail = [("name", .string (leadingWord line)),
            ("exception", .string "RecursionError")] ∧ budget ≤ closers line) := by
  intro i ran
  have hsession : i.session = _ := Interpreter.build_coreOnly h
  have hregistry := congrArg Session.registry hsession
  have hoff : i.session.telemetry.enabled = false := by
    rw [hsession]
    rfl
  have hobservers : i.plugins.observers = [] := by
    rw [PluginManager.observers, h]
    rfl
  obtain ⟨houtcomes, hend⟩ :=
    Interpreter.run_of_equipped hregistry hoff lines ⟨rfl, rfl, rfl, rfl, hoff⟩
  exact ⟨hend, houtcomes, Interpreter.execute_coreOnly hregistry hobservers⟩

def builtInterpreter : Interpreter :=
  (Interpreter.build none none .empty []).1

theorem builtInterpreter_closed :
    builtInterpreter.plugins.entries = [(CorePlugin.name, CorePlugin.plugin)] ∧
      let i := { builtInterpreter with budget := 4 }
      (i.run (["add 1 x", "help echo"].map .execute)).1
        = ["add 1 x", "help echo"].map fun line => (i.execute line).1 := by
  have hentries : builtInterpreter.plugins.entries = [(CorePlugin.name, CorePlugin.plugin)] := rfl
  obtain ⟨-, hsame, -⟩ :=
    coreOnly_closed [] none none .empty [] 4 ["add 1 x", "help echo"] hentries
  exact ⟨hentries, hsame⟩

def boundless : Interpreter :=
  (Interpreter.build (some
    { projectRoot := ⟨"/", []⟩
      configPath := none
      jsonOutput := false
      quiet := false
      verbose := false
      logJson := false
      interpreter := ⟨0, true⟩
      plugins := { PluginsConfig.default with discover := false }
      shell := .default }) none .empty []).1

/-- Without a nesting limit the levels run out: the action of the line fails. -/
theorem boundless_descent_failed :
    boundless.plugins.entries = [(CorePlugin.name, CorePlugin.plugin)] ∧
      boundless.session = .start (CorePlugin.registry .builtin 0 true) ∧
      ∃ o, (boundless.execute (descentLine boundless.budget)).1 = .ok o ∧
        o.error = some ⟨"ACTION_FAILED",
          "Command 'echo' failed: maximum recursion depth exceeded",
          [("name", .string "echo"), ("exception", .string "RecursionError")]⟩ := by
  have hsession : boundless.session = .start (CorePlugin.registry .builtin 0 true) :=
    Interpreter.build_coreOnly rfl
  have hecho : ∃ c, Bottomless c boundless.session.registry := by
    rw [hsession]
    exact ⟨_, rfl, rfl, rfl, rfl, rfl, rfl⟩
  obtain ⟨c, hc⟩ := hecho
  have hoff : boundless.session.telemetry.enabled = false := by
    rw [hsession]
    rfl
  have hrun : (execute boundless.budget (descentLine boundless.budget) boundless.session).1 =
      .error .tooDeep := descentLine_fails hc hoff (Nat.le_refl _)
  have hresult : handled
      (execute boundless.budget (descentLine boundless.budget) boundless.session).1 =
        .ok (.error .tooDeep) := by
    rw [hrun]
    rfl
  have hoperation := Interpreter.execute_eq_conclude hoff (descentLine boundless.budget)
  rw [Interpreter.conclude_eq boundless.plugins hresult] at hoperation
  refine ⟨rfl, hsession, _, hoperation, ?_⟩
  simp only [OutcomeError.actionFailed, leadingWord_descentLine]
  rfl

end LineShell
