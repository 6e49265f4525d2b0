import LineShell.Proofs.Trace.Muted

/-! What an executed line comes to: a result that tells what became of it, and one dispatch to the
observers once that is settled. Two things get past it: the end of the program, and an error of a
command whose code or detail no record can hold. -/

namespace LineShell

open Run

def RunSince (base : List Event) (s t : Session) : Prop :=
  SameWork s t ∧ ∃ inner, s.journal = inner ++ base ∧ ∀ e ∈ inner, e.OfRun

lemma runSince_stable (base : List Event) : Tied.Stable (RunSince base) where
  registry _ _ h := h.1.registry
  defaults _ _ h := h.1.defaults
  setRegistry _ _ h r := ⟨sameWork_stable.setRegistry h.1 r, h.2⟩
  record := by
    rintro s t ⟨hsame, inner, hjournal, hinner⟩ e he
    refine ⟨sameWork_stable.record hsame e he, e :: inner, ?_, ?_⟩
    · rw [List.cons_append, ← hjournal]
      rfl
    · intro e' he'
      rcases List.mem_cons.mp he' with rfl | he'
      · exact he
      · exact hinner e' he'

lemma execute_journal (budget : Nat) (line : String) (s : Session) :
    ∃ inner, (execute budget line s).2.journal = inner ++ s.journal ∧ ∀ e ∈ inner, e.OfRun := by
  have htied : Tied (RunSince s.journal) Eq (execute budget line) (execute budget line) :=
    execute_tied (runSince_stable s.journal) (fun _ _ h _ => ⟨h.1.setTelemetry _ _, h.2⟩)
      (fun _ _ h _ => ⟨h.1.setTelemetry _ _, h.2⟩) budget line
  have hs : RunSince s.journal s s := ⟨.refl s, [], rfl, by simp⟩
  exact (htied hs).2.2

lemma handled_cases {α : Type} (r : Except Failure α) :
    (∃ code, r = .error (.exit code)) ∨ ∃ result, handled r = .ok result := by
  rcases r with (e | code) | a
  · exact .inr ⟨_, rfl⟩
  · exact .inl ⟨code, rfl⟩
  · exact .inr ⟨_, rfl⟩

lemma handled_eq_ok {α : Type} {r : Except Failure α} {a : α} (h : handled r = .ok (.ok a)) :
    r = .ok a := by
  rcases r with (e | code) | b <;> cases h
  rfl

namespace CommandError

/-- A record can be made of the error. -/
def Presentable (e : CommandError) : Prop :=
  ∃ code detail, e.code = .string code ∧ e.detail = .object detail

end CommandError

namespace OutcomeError

lemma ofCommandError_ok {e : CommandError} {code : String} {detail : Entries Datum}
    (hcode : e.code = .string code) (hdetail : e.detail = .object detail) :
    ofCommandError e = .ok ⟨code, e.message, detail⟩ := by
  rw [ofCommandError, hcode, hdetail]
  rfl

lemma ofCommandError_error {e : CommandError} (h : ¬e.Presentable) :
    ∃ issues, ofCommandError e = .error (.invalid recordName issues) := by
  rw [CommandError.Presentable] at h
  rw [ofCommandError]
  generalize e.code = code at h ⊢
  generalize e.detail = detail at h ⊢
  cases code with
  | string code =>
    cases detail with
    | object detail => exact absurd ⟨code, detail, rfl, rfl⟩ h
    | _ => exact ⟨_, rfl⟩
  | _ => cases detail <;> exact ⟨_, rfl⟩

end OutcomeError

/-- The outcome of a line tells what came of running it. -/
structure Outcome.Tells (o : Outcome) (line : String) (result : Except Exception String) :
    Prop where
  op : o.op = "execute"
  ok : o.ok = true ↔ ∃ text, result = .ok text
  output : ∀ text, result = .ok text → o.error = none ∧
    o.data = [("command", .string (leadingWord line)), ("line", .string line),
      ("output", .string text)]
  refusal : ∀ e, result = .error (.command e) → o.data = [] ∧
    ∃ code detail, e.code = .string code ∧ e.detail = .object detail ∧
      o.error = some ⟨code, e.message, detail⟩
  fault : ∀ f, result = .error f → (∀ e, f ≠ .command e) → o.data = [] ∧
    o.error = some ⟨"ACTION_FAILED", "Command '" ++ leadingWord line ++ "' failed: " ++ f.message,
      [("name", .string (leadingWord line)), ("exception", .string f.kind)]⟩

lemma Outcome.Tells.amended {o : Outcome} {line : String} {result : Except Exception String}
    (h : o.Tells line result) (warnings : List String) (meta? : Option (Entries Datum)) :
    Outcome.Tells { o with warnings, meta? } line result :=
  ⟨h.op, h.ok, h.output, h.refusal, h.fault⟩

def Outcome.unwarned (o : Outcome) : Outcome :=
  { o with warnings := [] }

def Notice.of (line : String) (result : Except Exception String) : Notice :=
  ⟨line, result.isOk, result.toOption⟩

namespace PluginManager

/-- How a dispatch of the notice ends, if it breaks off at one of the observers. -/
def ending? (m : PluginManager) (r : Notice) : Option Failure :=
  m.observers.findSome? fun e => e.2.breaksOff r

def unobserved (m : PluginManager) : PluginManager :=
  { m with entries := m.entries.map fun e => (e.1, { e.2 with observer := none }) }

lemma observers_unobserved (m : PluginManager) : m.unobserved.observers = [] := by
  rw [observers, List.filter_eq_nil_iff]
  intro e he
  rw [unobserved, List.mem_reverse, List.mem_map] at he
  obtain ⟨e', -, rfl⟩ := he
  simp

end PluginManager

namespace Interpreter

lemma outcomeOf_ok_iff (line : String) (result : Except Exception String) :
    (∃ o, outcomeOf line result = .ok o) ↔
      ∀ e, result = .error (.command e) → e.Presentable := by
  cases result with
  | ok text => exact ⟨fun _ => by rintro e ⟨⟩, fun _ => ⟨_, rfl⟩⟩
  | error f =>
    cases f with
    | command e =>
      constructor
      · rintro ⟨o, ho⟩ _ ⟨⟩
        by_contra hpresent
        obtain ⟨issues, hissues⟩ := OutcomeError.ofCommandError_error hpresent
        rw [outcomeOf, OutcomeError.ofException, hissues] at ho
        cases ho
      · intro h
        obtain ⟨code, detail, hcode, hdetail⟩ := h e rfl
        rw [outcomeOf, OutcomeError.ofException, OutcomeError.ofCommandError_ok hcode hdetail]
        exact ⟨_, rfl⟩
    | _ => exact ⟨fun _ => by rintro e ⟨⟩, fun _ => ⟨_, rfl⟩⟩

lemma outcomeOf_tells {line : String} {result : Except Exception String} {o : Outcome}
    (h : outcomeOf line result = .ok o) : o.Tells line result := by
  cases result with
  | ok text =>
    obtain rfl := Except.ok.inj h
    refine ⟨rfl, ⟨fun _ => ⟨text, rfl⟩, fun _ => rfl⟩, ?_, ?_, ?_⟩
    · rintro _ ⟨⟩
      exact ⟨rfl, rfl⟩
    · rintro e ⟨⟩
    · rintro f ⟨⟩
  | error f =>
    have hpresent := (outcomeOf_ok_iff line (.error f)).mp ⟨o, h⟩
    have herror : ∃ e, OutcomeError.ofException (leadingWord line) f = .ok e ∧
        o = .failure "execute" e := by
      rw [outcomeOf] at h
      cases he : OutcomeError.ofException (leadingWord line) f with
      | error e =>
        rw [he] at h
        cases h
      | ok e =>
        rw [he] at h
        exact ⟨e, rfl, (Except.ok.inj h).symm⟩
    obtain ⟨error, herror, rfl⟩ := herror
    refine ⟨rfl, ⟨by rintro ⟨⟩, by rintro ⟨text, ⟨⟩⟩⟩, by rintro text ⟨⟩, ?_, ?_⟩
    · rintro e ⟨⟩
      obtain ⟨code, detail, hcode, hdetail⟩ := hpresent e rfl
      rw [OutcomeError.ofException, OutcomeError.ofCommandError_ok hcode hdetail] at herror
      exact ⟨rfl, code, detail, hcode, hdetail, congrArg some (Except.ok.inj herror).symm⟩
    · rintro _ ⟨⟩ hf
      refine ⟨rfl, congrArg some ?_⟩
      cases f with
      | command e => exact (hf e rfl).elim
      | _ => exact (Except.ok.inj herror).symm

def warningsOf (ending : Option Failure) : List String :=
  if ending.isSome then [observerWarning] else []

lemma ending_eq {told : Option Failure} (h : ∀ code, told ≠ some (.exit code)) (line : String)
    (result : Except Exception String) :
    ending line result told = settled line result (warningsOf told) := by
  rcases told with _ | _ | code
  · rfl
  · rfl
  · exact absurd rfl (h code)

lemma settled_eq (line : String) (result : Except Exception String) (warnings : List String) :
    settled line result warnings =
      ((outcomeOf line result).map fun o => { o with warnings }).mapError .exception := by
  rw [settled]
  cases outcomeOf line result <;> rfl

lemma settled_ok_iff (line : String) (result : Except Exception String)
    (warnings : List String) :
    (∃ o, settled line result warnings = .ok o) ↔
      ∀ e, result = .error (.command e) → e.Presentable := by
  rw [← outcomeOf_ok_iff line, settled_eq]
  cases outcomeOf line result with
  | ok o => exact ⟨fun _ => ⟨o, rfl⟩, fun _ => ⟨_, rfl⟩⟩
  | error e => exact ⟨by rintro ⟨o, ⟨⟩⟩, by rintro ⟨o, ⟨⟩⟩⟩

lemma settled_tells {line : String} {result : Except Exception String} {warnings : List String}
    {o : Outcome} (h : settled line result warnings = .ok o) :
    o.Tells line result ∧ o.warnings = warnings := by
  rw [settled_eq] at h
  cases ho : outcomeOf line result with
  | error e =>
    rw [ho] at h
    cases h
  | ok o' =>
    rw [ho] at h
    obtain rfl := Except.ok.inj h
    exact ⟨(outcomeOf_tells ho).amended warnings o'.meta?, rfl⟩

lemma settled_error {line : String} {result : Except Exception String} {warnings : List String}
    {f : Failure} (h : settled line result warnings = .error f) :
    ∃ e issues, result = .error (.command e) ∧ ¬e.Presentable ∧
      f = .exception (.invalid "ServiceError" issues) := by
  have hnone : ¬∀ e, result = .error (.command e) → e.Presentable := by
    rw [← settled_ok_iff line result warnings, h]
    rintro ⟨o, ⟨⟩⟩
  push Not at hnone
  obtain ⟨e, rfl, hpresent⟩ := hnone
  obtain ⟨issues, hissues⟩ := OutcomeError.ofCommandError_error hpresent
  rw [settled_eq, outcomeOf, OutcomeError.ofException, hissues] at h
  exact ⟨e, issues, rfl, hpresent, (Except.error.inj h).symm⟩

lemma ending_cases (line : String) (result : Except Exception String) (told : Option Failure) :
    (∃ code, told = some (.exit code) ∧ ending line result told = .error (.exit code)) ∨
      ∃ warnings, ending line result told = settled line result warnings := by
  rcases told with _ | _ | code
  · exact .inr ⟨_, rfl⟩
  · exact .inr ⟨_, rfl⟩
  · exact .inl ⟨code, rfl, rfl⟩

def told (plugins : PluginManager) (r : Notice) (s : Session) : Session :=
  { s with journal := (PluginManager.dispatched r plugins.observers).reverse ++ s.journal }

lemma conclude_eq (plugins : PluginManager) {line : String} {run : Except Failure String × Session}
    {result : Except Exception String} (h : handled run.1 = .ok result) :
    conclude plugins line run =
      (ending line result (plugins.ending? (.of line result)),
        told plugins (.of line result) run.2) := by
  have htell := PluginManager.tell_apply (Notice.of line result) plugins.observers run.2
  simp only [Notice.of] at htell
  rw [conclude, h]
  dsimp only
  rw [PluginManager.notify, htell]
  rfl

lemma conclude_of_exit (plugins : PluginManager) {line : String}
    {run : Except Failure String × Session} {code : Nat} (h : run.1 = .error (.exit code)) :
    conclude plugins line run = (.error (.exit code), run.2) := by
  rw [conclude, h]
  rfl

lemma conclude_snd (plugins : PluginManager) (line : String)
    (run : Except Failure String × Session) :
    (conclude plugins line run).2 =
      { run.2 with journal := (conclude plugins line run).2.journal } := by
  cases h : handled run.1 with
  | error f => rw [conclude, h]
  | ok result =>
    rw [conclude_eq plugins h]
    rfl

lemma conclude_cases (plugins : PluginManager) (line : String)
    (run : Except Failure String × Session) :
    (∃ code, (conclude plugins line run).1 = .error (.exit code)) ∨
      ∃ result warnings, handled run.1 = .ok result ∧
        (conclude plugins line run).1 = settled line result warnings := by
  rcases handled_cases run.1 with ⟨code, hexit⟩ | ⟨result, hresult⟩
  · rw [conclude_of_exit plugins hexit]
    exact .inl ⟨code, rfl⟩
  · rw [conclude_eq plugins hresult]
    rcases ending_cases line result (plugins.ending? (.of line result)) with
      ⟨code, -, hexit⟩ | ⟨warnings, hsettled⟩
    · exact .inl ⟨code, hexit⟩
    · exact .inr ⟨result, warnings, hresult, hsettled⟩

lemma conclude_unobserved {plugins : PluginManager} {line : String}
    {run : Except Failure String × Session}
    (h : ∀ result, handled run.1 = .ok result →
      ∀ code, plugins.ending? (.of line result) ≠ some (.exit code)) :
    conclude plugins.unobserved line run =
      ((conclude plugins line run).1.map Outcome.unwarned,
        { (conclude plugins line run).2 with journal := run.2.journal }) := by
  cases hrun : handled run.1 with
  | error f =>
    rw [conclude, conclude, hrun]
    rfl
  | ok result =>
    have hnone : plugins.unobserved.ending? (.of line result) = none := by
      rw [PluginManager.ending?, PluginManager.observers_unobserved]
      rfl
    have hquiet : ∀ code, plugins.unobserved.ending? (.of line result) ≠ some (.exit code) := by
      rw [hnone]
      rintro code ⟨⟩
    rw [conclude_eq plugins hrun, conclude_eq plugins.unobserved hrun, ending_eq (h result hrun),
      ending_eq hquiet, hnone, settled_eq, settled_eq, told, PluginManager.observers_unobserved]
    cases outcomeOf line result <;> rfl

lemma closeRoot_unwarned (before : List Span) (p : Except Failure Outcome × Session)
    (journal : List Event) :
    closeRoot before (p.1.map Outcome.unwarned, { p.2 with journal }) =
      ((closeRoot before p).1.map Outcome.unwarned, { (closeRoot before p).2 with journal }) := by
  obtain ⟨(e | code) | o, s⟩ := p
  · rfl
  · rfl
  · rw [closeRoot_ok]
    refine (closeRoot_ok before o.unwarned { s with journal }).trans ?_
    dsimp only
    cases (s.telemetry.leaveRoot before).1 <;> rfl

variable (i : Interpreter) (line : String)

lemma execute_concluded :
    (i.execute line).1.map Outcome.bare =
        (conclude i.plugins line (LineShell.execute i.budget line i.session)).1 ∧
      SameWork (i.execute line).2.session
        (conclude i.plugins line (LineShell.execute i.budget line i.session)).2 ∧
      (i.execute line).2.plugins = i.plugins ∧ (i.execute line).2.budget = i.budget := by
  -- Spans do not change what a line comes to: it may as well be run with telemetry off.
  obtain ⟨hresult, hmuted⟩ := execute_muted i.setTelemetry_muted line
  have hoff : (i.setTelemetry false).session.telemetry.enabled = false := rfl
  obtain ⟨ho, hrun⟩ := untimed_execute i.budget line
    ((SameWork.refl i.session).setTelemetry i.session.telemetry
      ((i.setTelemetry false).session.telemetry.annotate "command"
        (.string (leadingWord line))))
  obtain ⟨hsame, hafter⟩ := conclude_sameWork i.plugins line hrun
    (LineShell.execute i.budget line i.session).1
  have hperform : perform i.budget i.plugins line (i.setTelemetry false).session =
      conclude i.plugins line ((LineShell.execute i.budget line i.session).1,
        (LineShell.execute i.budget line { i.session with
          telemetry := (i.setTelemetry false).session.telemetry.annotate "command"
            (.string (leadingWord line)) }).2) := by
    rw [perform_apply, ho.eq]
    rfl
  rw [execute_of_disabled hoff] at hresult hmuted
  change (perform i.budget i.plugins line (i.setTelemetry false).session).1 = _ at hresult
  have hsession := hmuted.session
  change SameWork _ (perform i.budget i.plugins line (i.setTelemetry false).session).2 at hsession
  rw [hperform] at hresult hsession
  exact ⟨hresult.symm.trans hsame, hsession.trans hafter.symm, hmuted.plugins, hmuted.budget⟩

variable {i line}

lemma exists_tells {o : Outcome} (h : (i.execute line).1 = .ok o) :
    ∃ result, handled (LineShell.execute i.budget line i.session).1 = .ok result ∧
      o.Tells line result := by
  have hbare := (i.execute_concluded line).1
  rw [h] at hbare
  rcases conclude_cases i.plugins line (LineShell.execute i.budget line i.session) with
    ⟨code, hexit⟩ | ⟨result, warnings, hresult, hsettled⟩
  · rw [hexit] at hbare
    cases hbare
  · rw [hsettled] at hbare
    obtain ⟨htells, -⟩ := settled_tells hbare.symm
    exact ⟨result, hresult, htells.amended o.warnings o.meta?⟩

lemma execute_settled {result : Except Exception String}
    (hresult : handled (LineShell.execute i.budget line i.session).1 = .ok result)
    (hquiet : ∀ code, i.plugins.ending? (.of line result) ≠ some (.exit code)) :
    (i.execute line).1.map Outcome.bare =
      settled line result (warningsOf (i.plugins.ending? (.of line result))) := by
  rw [(i.execute_concluded line).1, conclude_eq i.plugins hresult, ending_eq hquiet]

lemma execute_ok_iff {result : Except Exception String}
    (hresult : handled (LineShell.execute i.budget line i.session).1 = .ok result)
    (hquiet : ∀ code, i.plugins.ending? (.of line result) ≠ some (.exit code)) :
    (∃ o, (i.execute line).1 = .ok o) ↔ ∀ e, result = .error (.command e) → e.Presentable := by
  rw [← settled_ok_iff line result, ← execute_settled hresult hquiet]
  cases (i.execute line).1 with
  | error f => exact ⟨by rintro ⟨o, ⟨⟩⟩, by rintro ⟨o, ⟨⟩⟩⟩
  | ok o => exact ⟨fun _ => ⟨_, rfl⟩, fun _ => ⟨o, rfl⟩⟩

lemma execute_escapes {f : Failure} (h : (i.execute line).1 = .error f) :
    (∃ code, f = .exit code) ∨ ∃ issues, f = .exception (.invalid "ServiceError" issues) := by
  have hbare := (i.execute_concluded line).1
  rw [h] at hbare
  rcases conclude_cases i.plugins line (LineShell.execute i.budget line i.session) with
    ⟨code, hexit⟩ | ⟨result, warnings, -, hsettled⟩
  · rw [hexit] at hbare
    exact .inl ⟨code, Except.error.inj hbare⟩
  · rw [hsettled] at hbare
    obtain ⟨e, issues, -, -, hf⟩ := settled_error hbare.symm
    exact .inr ⟨issues, hf⟩

lemma perform_unobserved {s : Session} (hs : SameWork i.session s)
    (h : ∀ result, handled (LineShell.execute i.budget line i.session).1 = .ok result →
      ∀ code, i.plugins.ending? (.of line result) ≠ some (.exit code)) :
    perform i.budget i.plugins.unobserved line s =
      ((perform i.budget i.plugins line s).1.map Outcome.unwarned,
        { (perform i.budget i.plugins line s).2 with
          journal := (LineShell.execute i.budget line i.session).2.journal }) := by
  obtain ⟨ho, hrun⟩ := untimed_execute i.budget line (hs.setTelemetry i.session.telemetry
    (s.telemetry.annotate "command" (.string (leadingWord line))))
  rw [perform_apply, perform_apply, hrun.journal]
  refine conclude_unobserved fun result hresult => h result ?_
  rw [← hresult, ← ho.eq]

lemma execute_unobserved
    (h : ∀ result, handled (LineShell.execute i.budget line i.session).1 = .ok result →
      ∀ code, i.plugins.ending? (.of line result) ≠ some (.exit code)) :
    let plain := { i with plugins := i.plugins.unobserved }.execute line
    plain.1 = (i.execute line).1.map Outcome.unwarned ∧
      plain.2.session = { (i.execute line).2.session with
        journal := (LineShell.execute i.budget line i.session).2.journal } := by
  cases htelemetry : i.session.telemetry.enabled with
  | false =>
    have hplain : { i with plugins := i.plugins.unobserved }.session.telemetry.enabled = false :=
      htelemetry
    rw [execute_of_disabled htelemetry, execute_of_disabled hplain]
    dsimp only
    rw [perform_unobserved (.refl i.session) h]
    exact ⟨rfl, rfl⟩
  | true =>
    have hplain : { i with plugins := i.plugins.unobserved }.session.telemetry.enabled = true :=
      htelemetry
    have hopened : SameWork i.session { i.session with
        telemetry := i.session.telemetry.enterRoot "Interpreter.execute" } := ⟨rfl, rfl, rfl⟩
    rw [execute_of_enabled htelemetry, execute_of_enabled hplain]
    dsimp only
    rw [perform_unobserved hopened h, closeRoot_unwarned]
    exact ⟨rfl, rfl⟩

end Interpreter

lemma Outcome.eq_error_of_bare {result : Except Failure Outcome} {f : Failure}
    (h : result.map Outcome.bare = .error f) : result = .error f := by
  cases result with
  | error e => exact congrArg _ (Except.error.inj h)
  | ok o => cases h

/-- A line whose run ends the program ends it unseen by the observers. Any other line is told to
them once, after its run and with what came of it; nested lines are not. Then it comes to an outcome
that tells what came of it, except where an observer ends the program or no record can hold the
command's error; observers add nothing to it but a warning. -/
theorem execute_tells (i : Interpreter) (line : String) :
    let run := execute i.budget line i.session
    let ran := i.execute line
    let plain := { i with plugins := i.plugins.unobserved }.execute line
    (∃ inner, run.2.journal = inner ++ i.session.journal ∧ ∀ e ∈ inner, e.OfRun) ∧
      ran.2.session.registry = run.2.registry ∧ ran.2.plugins = i.plugins ∧
      (∀ code, run.1 = .error (.exit code) →
        ran.1 = .error (.exit code) ∧ ran.2.session.journal = run.2.journal) ∧
      ∀ result, handled run.1 = .ok result →
        let notice := Notice.of line result
        ran.2.session.journal =
            (PluginManager.dispatched notice i.plugins.observers).reverse ++ run.2.journal ∧
          (∀ code, i.plugins.ending? notice = some (.exit code) → ran.1 = .error (.exit code)) ∧
          ((∀ code, i.plugins.ending? notice ≠ some (.exit code)) →
            ((∃ o, ran.1 = .ok o) ↔ ∀ e, result = .error (.command e) → e.Presentable) ∧
            (∀ o, ran.1 = .ok o → o.Tells line result ∧ o.warnings =
              if (i.plugins.ending? notice).isSome then ["post_execute hook failed"] else []) ∧
            (∀ f, ran.1 = .error f → ∃ e issues, result = .error (.command e) ∧ ¬e.Presentable ∧
              f = .exception (.invalid "ServiceError" issues)) ∧
            plain.1 = ran.1.map Outcome.unwarned ∧
            plain.2.session = { ran.2.session with journal := run.2.journal }) := by
  obtain ⟨hresult, hsame, hplugins, -⟩ := i.execute_concluded line
  refine ⟨execute_journal i.budget line i.session, ?_, hplugins, ?_, ?_⟩
  · rw [hsame.registry, Interpreter.conclude_snd]
  · intro code hexit
    rw [Interpreter.conclude_of_exit i.plugins hexit] at hresult hsame
    exact ⟨Outcome.eq_error_of_bare hresult, hsame.journal⟩
  · intro result hhandled
    rw [Interpreter.conclude_eq i.plugins hhandled] at hresult hsame
    refine ⟨hsame.journal, ?_, ?_⟩
    · intro code hexit
      rw [hexit] at hresult
      exact Outcome.eq_error_of_bare hresult
    · intro hreturns
      have hquiet : ∀ result', handled (execute i.budget line i.session).1 = .ok result' →
          ∀ code, i.plugins.ending? (.of line result') ≠ some (.exit code) := by
        intro result' hresult'
        obtain rfl := Except.ok.inj (hhandled.symm.trans hresult')
        exact hreturns
      have hsettled := Interpreter.execute_settled hhandled hreturns
      refine ⟨Interpreter.execute_ok_iff hhandled hreturns, ?_, ?_,
        Interpreter.execute_unobserved hquiet⟩
      · intro o ho
        rw [ho] at hsettled
        obtain ⟨htells, hwarnings⟩ := Interpreter.settled_tells hsettled.symm
        exact ⟨htells.amended o.warnings o.meta?, hwarnings⟩
      · intro f hf
        rw [hf] at hsettled
        exact Interpreter.settled_error hsettled.symm

def faultyInterpreter : Interpreter :=
  attendedBy [("faulty", faulty)]

lemma faultyInterpreter_run : (execute faultyInterpreter.budget "add 1 \x7badd 2 3\x7d"
    faultyInterpreter.session).1 = .ok "6" :=
  eq_ok_of_toOption (by decide +kernel)

theorem faulty_observer_warned :
    ∃ o, (faultyInterpreter.execute "add 1 \x7badd 2 3\x7d").1 = .ok o ∧
      o.Tells "add 1 \x7badd 2 3\x7d" (.ok "6") ∧ o.warnings = ["post_execute hook failed"] := by
  obtain ⟨-, -, -, -, htold⟩ := execute_tells faultyInterpreter "add 1 \x7badd 2 3\x7d"
  have hresult : handled (execute faultyInterpreter.budget "add 1 \x7badd 2 3\x7d"
      faultyInterpreter.session).1 = .ok (.ok "6") := by
    rw [faultyInterpreter_run]
    rfl
  have hending : faultyInterpreter.plugins.ending? (.of "add 1 \x7badd 2 3\x7d" (.ok "6")) =
      some (.raised "RuntimeError" "faulty") := rfl
  have hreturns : ∀ code, faultyInterpreter.plugins.ending?
      (.of "add 1 \x7badd 2 3\x7d" (.ok "6")) ≠ some (.exit code) := by
    rw [hending]
    rintro code ⟨⟩
  obtain ⟨-, -, hsettled⟩ := htold _ hresult
  obtain ⟨hok, htells, -⟩ := hsettled hreturns
  obtain ⟨o, ho⟩ := hok.mpr (by rintro e ⟨⟩)
  obtain ⟨houtcome, hwarnings⟩ := htells o ho
  rw [hending] at hwarnings
  exact ⟨o, ho, houtcome, hwarnings⟩

def unruly : Plugin :=
  { watcher with
    className := "Unruly"
    observer := none
    commandsHook := some
      [.ok (CorePlugin.define "odd" "" []
          fun _ => .fail (.command (.own (.int 429) "odd" (.object [])))),
        .ok (CorePlugin.define "quit" "" [] fun _ => .fail (.exit 3))] }

def unrulyInterpreter : Interpreter :=
  attendedBy [("unruly", unruly)]

/-- The error of one command has a number for its code, the other command ends the program. -/
theorem unruly_commands_escape :
    (unrulyInterpreter.execute "odd").1 =
        .error (.exception (.invalid "ServiceError" [⟨[.key "code"], .notString⟩])) ∧
      (unrulyInterpreter.execute "quit").1 = .error (.exit 3) :=
  ⟨rfl, rfl⟩

end LineShell
