import LineShell.Plugin.Manager
import Mathlib

namespace LineShell

structure Notice where
  line : String
  ok : Bool
  output : Option String
  deriving DecidableEq, Repr

namespace Plugin

def breaksOff (p : Plugin) (r : Notice) : Option Failure :=
  if p.isClass then some (.exception (p.unbound "post_execute" "output"))
  else p.observer.bind fun observer => (observer r.line r.ok r.output).failure

def events (name : String) (p : Plugin) (r : Notice) : List Event :=
  match p.isClass, p.observer with
  | false, some observer =>
    .observed name r.line r.ok r.output ::
      (observer r.line r.ok r.output).notes.map fun d => .noted "observed" d
  | _, _ => []

end Plugin

def watcher : Plugin where
  serial := 1
  className := "Watcher"
  isClass := false
  startup := none
  typesHook := none
  commandsHook := none
  observer := some fun _ _ _ => ⟨[], none⟩

def faulty : Plugin :=
  { watcher with
    serial := 2
    className := "Faulty"
    observer := some fun _ _ _ => ⟨[], some (.raised "RuntimeError" "faulty")⟩ }

lemma Session.bind_apply {α β : Type} (x : StateM Session α) (f : α → StateM Session β)
    (s : Session) : (x >>= f) s = f (x s).1 (x s).2 := rfl

lemma Session.modify_apply (f : Session → Session) (s : Session) :
    (modify f : StateM Session PUnit) s = (PUnit.unit, f s) := rfl

namespace PluginManager

def reached (r : Notice) : List (String × Plugin) → List (String × Plugin)
  | [] => []
  | e :: es => e :: if (e.2.breaksOff r).isSome then [] else reached r es

def dispatched (r : Notice) (es : List (String × Plugin)) : List Event :=
  (reached r es).flatMap fun e => e.2.events e.1 r

lemma notes_apply (notes : List Datum) (s : Session) :
    (forIn notes PUnit.unit fun d _ => do
        modify (·.record (.noted "observed" d))
        pure (ForInStep.yield PUnit.unit) : StateM Session PUnit) s =
      (PUnit.unit, { s with
        journal := (notes.map fun d => Event.noted "observed" d).reverse ++ s.journal }) := by
  induction notes generalizing s with
  | nil => rfl
  | cons d notes ih =>
    rw [List.forIn_cons]
    refine (ih (s.record (.noted "observed" d))).trans ?_
    simp [Session.record]

lemma tell_cons (r : Notice) (name : String) (p : Plugin) (es : List (String × Plugin))
    (s : Session) :
    tell r.line r.ok r.output ((name, p) :: es) s =
      let told := { s with journal := (p.events name r).reverse ++ s.journal }
      match p.breaksOff r with
      | some f => (some f, told)
      | none => tell r.line r.ok r.output es told := by
  rw [tell, Plugin.breaksOff, Plugin.events]
  cases p.isClass with
  | true => rfl
  | false =>
    cases p.observer with
    | none => rfl
    | some observer =>
      have hnotes := notes_apply (observer r.line r.ok r.output).notes
        (s.record (.observed name r.line r.ok r.output))
      simp only [Bool.false_eq_true, if_false, Option.bind_some, List.reverse_cons,
        List.append_assoc, List.singleton_append]
      rw [Session.bind_apply, Session.bind_apply, Session.modify_apply, hnotes]
      cases (observer r.line r.ok r.output).failure <;> rfl

lemma tell_apply (r : Notice) (es : List (String × Plugin)) (s : Session) :
    tell r.line r.ok r.output es s =
      (es.findSome? fun e => e.2.breaksOff r,
        { s with journal := (dispatched r es).reverse ++ s.journal }) := by
  induction es generalizing s with
  | nil => rfl
  | cons e es ih =>
    obtain ⟨name, p⟩ := e
    rw [tell_cons, List.findSome?_cons, dispatched, reached]
    cases hends : p.breaksOff r with
    | some f => simp
    | none =>
      dsimp only
      rw [ih]
      simp [dispatched]

end PluginManager

end LineShell
