import LineShell.Proofs.Observers.Dispatch
import LineShell.Proofs.Run.Dispatch
import LineShell.Proofs.Trace.SpanTree

/-! Telemetry only watches. An interpreter whose telemetry is turned on and off between lines does
what it does with telemetry off, and no span is left open. -/

namespace LineShell

open LineShell.Text

lemma SameWork.eq {s t : Session} (h : SameWork s t) : t = { s with telemetry := t.telemetry } := by
  obtain ⟨registry, defaults, telemetry, journal⟩ := t
  obtain ⟨rfl, rfl, rfl⟩ := h
  rfl

lemma Blind.sameWork {α : Type} {x : StateM Session α} (hx : Blind x) {s t : Session}
    (h : SameWork s t) : (x t).1 = (x s).1 ∧ SameWork (x s).2 (x t).2 := by
  rw [h.eq, hx s t.telemetry]
  exact ⟨rfl, rfl, rfl, rfl⟩

inductive Step
  | execute (line : String)
  | setTelemetry (on : Bool)

def Outcome.bare (o : Outcome) : Outcome :=
  { o with meta? := none }

namespace Interpreter

def run : Interpreter → List Step → List (Except Failure Outcome) × Interpreter
  | i, [] => ([], i)
  | i, .execute line :: steps =>
    let (result, i) := i.execute line
    let (results, i) := i.run steps
    (result :: results, i)
  | i, .setTelemetry on :: steps => (i.setTelemetry on).run steps

lemma conclude_sameWork (plugins : PluginManager) (line : String) {s t : Session}
    (h : SameWork s t) (result : Except Failure String) :
    (conclude plugins line (result, t)).1 = (conclude plugins line (result, s)).1 ∧
      SameWork (conclude plugins line (result, s)).2 (conclude plugins line (result, t)).2 := by
  rw [conclude, conclude]
  cases Run.handled result with
  | error f => exact ⟨rfl, h⟩
  | ok result =>
    obtain ⟨htold, hafter⟩ := (PluginManager.tell_blind line result.isOk result.toOption
      plugins.observers).sameWork h
    refine ⟨?_, hafter⟩
    dsimp only
    rw [PluginManager.notify, htold]

lemma perform_sameWork (budget : Nat) (plugins : PluginManager) (line : String) {s t : Session}
    (h : SameWork s t) :
    (perform budget plugins line t).1 = (perform budget plugins line s).1 ∧
      SameWork (perform budget plugins line s).2 (perform budget plugins line t).2 := by
  obtain ⟨ho, hrun⟩ := untimed_execute budget line (h.setTelemetry
    (s.telemetry.annotate "command" (.string (leadingWord line)))
    (t.telemetry.annotate "command" (.string (leadingWord line))))
  rw [perform_apply, perform_apply, ← Prod.mk.eta (p := LineShell.execute budget line _),
    ← Prod.mk.eta (p := LineShell.execute budget line { s with telemetry := _ }), ← ho.eq]
  exact conclude_sameWork plugins line hrun _

lemma perform_telemetry_of_disabled (budget : Nat) (plugins : PluginManager) (line : String)
    {s : Session} (h : s.telemetry.enabled = false) :
    (perform budget plugins line s).2.telemetry = s.telemetry := by
  have hannotate : s.telemetry.annotate "command" (.string (leadingWord line)) = s.telemetry := by
    simp only [Telemetry.annotate, h]
  have hcurrent : s.telemetry.current? = none := by
    simp only [Telemetry.current?, h, if_false, Bool.false_eq_true]
  rw [perform_apply, hannotate, conclude_telemetry]
  exact (execute_recorded budget line s).telemetry_eq hcurrent

lemma perform_bare (budget : Nat) (plugins : PluginManager) (line : String) (s : Session) :
    (perform budget plugins line s).1.map Outcome.bare = (perform budget plugins line s).1 := by
  cases h : (perform budget plugins line s).1 with
  | error f => rfl
  | ok o =>
    have hmeta := perform_meta h
    rw [Except.map, Outcome.bare, ← hmeta]

lemma closeRoot_sameWork (before : List Span) (p : Except Failure Outcome × Session) :
    (closeRoot before p).1.map Outcome.bare = p.1.map Outcome.bare ∧
      SameWork (closeRoot before p).2 p.2 := by
  obtain ⟨(e | code) | o, s⟩ := p
  · exact ⟨rfl, rfl, rfl, rfl⟩
  · exact ⟨rfl, .refl s⟩
  · refine ⟨?_, rfl, rfl, rfl⟩
    rw [closeRoot_ok]
    dsimp only
    cases (s.telemetry.leaveRoot before).1 <;> rfl

lemma closeRoot_enabled (before : List Span) (p : Except Failure Outcome × Session) :
    (closeRoot before p).2.telemetry.enabled = p.2.telemetry.enabled := by
  have hleave : ∀ t : Telemetry, (t.leaveRoot before).2.enabled = t.enabled := by
    intro t
    rw [Telemetry.leaveRoot]
    cases t.active <;> rfl
  obtain ⟨(e | code) | o, s⟩ := p
  · exact hleave s.telemetry
  · rfl
  · exact hleave s.telemetry

lemma execute_enabled (i : Interpreter) (line : String) :
    (i.execute line).2.session.telemetry.enabled = i.session.telemetry.enabled := by
  cases h : i.session.telemetry.enabled with
  | false =>
    rw [execute_of_disabled h]
    exact (congrArg Telemetry.enabled (perform_telemetry_of_disabled _ i.plugins line h)).trans h
  | true =>
    obtain ⟨calls, -, htelemetry⟩ := i.exists_calls h line
    rw [execute_of_enabled h]
    dsimp only
    rw [closeRoot_enabled, perform_telemetry, htelemetry]

lemma execute_isSome_meta {i : Interpreter} {line : String} {o : Outcome}
    (ho : (i.execute line).1 = .ok o) : o.meta?.isSome = i.session.telemetry.enabled := by
  cases h : i.session.telemetry.enabled with
  | false =>
    rw [execute_of_disabled h] at ho
    rw [perform_meta ho]
    rfl
  | true =>
    obtain ⟨calls, -, htelemetry⟩ := i.exists_calls h line
    rw [execute_meta h (congrArg Telemetry.active htelemetry) ho]
    rfl

structure Muted (i j : Interpreter) : Prop where
  session : SameWork i.session j.session
  plugins : i.plugins = j.plugins
  budget : i.budget = j.budget
  off : j.session.telemetry.enabled = false

lemma setTelemetry_muted (i : Interpreter) : i.Muted (i.setTelemetry false) :=
  ⟨⟨rfl, rfl, rfl⟩, rfl, rfl, rfl⟩

lemma execute_muted {i j : Interpreter} (h : Muted i j) (line : String) :
    (j.execute line).1 = (i.execute line).1.map Outcome.bare ∧
      Muted (i.execute line).2 (j.execute line).2 := by
  have hstill := (execute_enabled j line).trans h.off
  rw [execute_of_disabled h.off] at hstill ⊢
  rw [← h.plugins, ← h.budget] at hstill ⊢
  cases hi : i.session.telemetry.enabled with
  | false =>
    obtain ⟨hresult, hafter⟩ := perform_sameWork i.budget i.plugins line h.session
    rw [execute_of_disabled hi]
    exact ⟨by rw [← hresult, perform_bare], hafter, rfl, rfl, hstill⟩
  | true =>
    have hopened : SameWork { i.session with
        telemetry := i.session.telemetry.enterRoot "Interpreter.execute" } j.session :=
      h.session.setTelemetry _ j.session.telemetry
    obtain ⟨hresult, hafter⟩ := perform_sameWork i.budget i.plugins line hopened
    rw [execute_of_enabled hi]
    dsimp only
    obtain ⟨hbare, hclosed⟩ := closeRoot_sameWork i.session.telemetry.active
      (perform i.budget i.plugins line { i.session with
        telemetry := i.session.telemetry.enterRoot "Interpreter.execute" })
    exact ⟨by rw [hbare, ← hresult, perform_bare], hclosed.trans hafter, rfl, rfl, hstill⟩

end Interpreter

def attendedBy (plugins : Entries Plugin) : Interpreter :=
  (Interpreter.build none (some ⟨plugins, [], false⟩) .empty []).1

end LineShell
