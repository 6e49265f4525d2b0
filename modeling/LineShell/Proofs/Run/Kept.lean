import LineShell.Proofs.Nesting.Core
import LineShell.Proofs.Run.Unregistered

namespace LineShell

open Run LineShell.Text

structure Registry.Closed (I : Registry → Prop) : Prop where
  create : ∀ {r r' : Registry} {d c}, I r → r.create d = .ok (c, r') → I r'
  remove : ∀ {r r' : Registry} {name}, I r → r.remove name = .ok r' → I r'

def Run.Stays {α : Type} (I : Registry → Prop) (x : Run α) : Prop :=
  Ensures I (fun _ => True) (fun _ => True) x

variable {α β : Type} {I : Registry → Prop}

namespace Run.Stays

lemma iff {x : Run α} : Stays I x ↔ ∀ s, I s.registry → I (x s).2.registry :=
  ⟨fun h s hs => (h s hs).1,
    fun h s hs => ⟨h s hs, fun _ _ => trivial, fun _ _ => trivial⟩⟩

lemma bind {x : Run α} {f : α → Run β} (hx : Stays I x) (hf : ∀ a, Stays I (f a)) :
    Stays I (x >>= f) :=
  Ensures.bind hx fun a _ => hf a

lemma registry : Stays I Run.registry :=
  iff.mpr fun _ hs => hs

lemma typesOf (c : Command) : Stays I (Run.typesOf c) :=
  iff.mpr fun _ hs => hs

lemma ofExcept (a : Except CommandError α) : Stays I (Run.ofExcept a) := by
  cases a with
  | ok a => exact .pure trivial
  | error e => exact .throw trivial

lemma caught {x : Run α} (hx : Stays I x) : Stays I (Run.caught x) :=
  iff.mpr fun s hs => iff.mp hx s hs

lemma create (hI : Registry.Closed I) (d : Definition Script) : Stays I (Run.create d) := by
  refine iff.mpr fun s hs => ?_
  rw [Run.create, registry_bind]
  cases hc : s.registry.create d with
  | error e => exact hs
  | ok made => exact hI.create hs hc

lemma remove (hI : Registry.Closed I) (name : String) : Stays I (Run.remove name) := by
  refine iff.mpr fun s hs => ?_
  rw [Run.remove, registry_bind]
  cases hr : s.registry.remove name with
  | error e => exact hs
  | ok r => exact hI.remove hs hr

variable (hI : Registry.Closed I) {call : String → Run String}
  (hcall : ∀ line, Stays I (call line))

include hI hcall

lemma script (σ : Script) : Stays I (σ.run call) := by
  induction σ using Script.induction with
  | done result => exact .pure trivial
  | fail f => exact .throw trivial
  | execute line rest ih => exact (hcall line).bind ih
  | attempt line rest ih => exact (hcall line).caught.bind ih
  | create d rest ih =>
    have hdeclare : Stays I (Run.declare d) := (create hI d).bind fun _ => .pure trivial
    exact hdeclare.caught.bind ih
  | remove name rest ih => exact (remove hI name).caught.bind ih
  | survey rest ih => exact registry.bind fun _ => ih _
  | note label content rest ih => exact Stays.bind (.record _) fun _ => ih

lemma resolveNested (c : Command) (text : String) : Stays I (c.resolveNested call text) := by
  rw [Command.resolveNested]
  split
  · exact .pure trivial
  · exact .orLiteral_kept (hcall text) text
  · exact .orLiteral_kept (Stays.bind (.record _) fun _ => script hI hcall _) text

lemma command (c : Command) (line : String) : Stays I (c.run call line) := by
  rw [Command.run_eq]
  refine Stays.bind ?_ fun bound => Stays.bind (.record _) fun _ => script hI hcall _
  rw [Command.readLine]
  split
  · exact .throw trivial
  split
  · refine Stays.bind (.scan (resolveNested hI hcall c) _ _) fun scanned => ?_
    cases scanned with
    | error reached => exact .throw trivial
    | ok tokens => exact (Stays.typesOf c).bind fun _ => .pure trivial
  · exact .throw trivial

end Run.Stays

lemma execute_stays (hI : Registry.Closed I) (budget : Nat) (line : String) :
    Stays I (execute budget line) := by
  induction budget generalizing line with
  | zero => exact Stays.registry.bind fun _ => (Stays.ofExcept _).bind fun _ => .throw trivial
  | succ n ih =>
    exact Stays.registry.bind fun _ => (Stays.ofExcept _).bind fun c =>
      .inSpan (Stays.command hI ih c.clone line) _ _

namespace Registry

lemma closed_types (types : TypeTable) : Closed fun r => r.types = types where
  create hr h := by
    obtain ⟨-, rfl⟩ := create_eq_ok h
    exact hr
  remove hr h := by
    rw [remove] at h
    split at h
    · cases h
      exact hr
    · cases h

end Registry

end LineShell
