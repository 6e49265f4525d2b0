import LineShell.Proofs.Nesting.Spans
import LineShell.Proofs.Run.Confined

namespace LineShell

open Run

/-- All commands were declared with one nesting limit, and their answers read the registry at
most. -/
def Registry.Sealed (r : Registry) (maxDepth : Nat) : Prop :=
  ∀ name c, r.get? name = some c →
    c.Declared ∧ c.maxDepth = maxDepth ∧ ∀ bound, (c.answer bound).ReadsOnly

section Sealed

variable {r : Registry} {maxDepth : Nat}

lemma Registry.Sealed.run_tied (hr : r.Sealed maxDepth) {name : String} {c : Command}
    (hc : r.get? name = some c) {line : String} {call call' : String → Run String}
    {P : Scan.State → List Char → Prop} (hP : Scan.Keeps maxDepth P)
    (hstart : P .start (parameterText line).toList)
    (hresolve : ∀ ⦃st ch rest text andThen⦄, P st (ch :: rest) →
      Scan.step maxDepth st ch = .resolve text andThen →
        Tied (OneOf (· = r)) (fun a b => a = b ∧ P (andThen a) rest)
          (c.resolveNested call text) (c.resolveNested call' text)) :
    Tied (OneOf (· = r)) (fun a b => a = b ∧ True)
      (c.clone.run call line) (c.clone.run call' line) := by
  obtain ⟨hdeclared, rfl, hanswer⟩ := hr name c hc
  rw [hdeclared.clone_eq]
  have htypes : ∀ r', r' = r → r'.types = r.types := by
    rintro _ rfl
    rfl
  refine Command.run_tied_of_confined (U := fun _ => True) hdeclared htypes ?_ ?_
  · apply (scan_tied (c.maxDepth : Int) hP hresolve _ hstart).mono
    exact fun a b h => ⟨h.1, fun _ _ => trivial⟩
  · exact fun tokens r' _ _ => (hanswer _).confined (fun _ => trivial) r'

lemma Registry.Sealed.within_one (hr : r.Sealed maxDepth) (beyond beyond' : String → Run String)
    {line : String} (hline : '\x7b' ∉ line.toList) :
    Tied (OneOf (· = r)) (fun a b => a = b ∧ True)
      (within beyond 1 line) (within beyond' 1 line) := by
  apply within_succ_tied (I := (· = r))
  rintro _ c rfl hc
  refine hr.run_tied hc (Scan.groupFree_keeps maxDepth) ⟨?_, ?_⟩ ?_
  · intro word group outer h
    cases h
  · rw [parameterText, String.toList_ofList]
    exact fun h => hline ((List.dropWhile_sublist _).subset h)
  · intro st ch rest text andThen hst hstep
    obtain ⟨-, tokens, word, group, outer, justClosed, rfl, -⟩ := Scan.eq_of_step_resolve hstep
    exact absurd rfl (hst.1 word group outer)

lemma Registry.Sealed.within_two (hr : r.Sealed 1) (beyond beyond' : String → Run String)
    (line : String) :
    Tied (OneOf (· = r)) (fun a b => a = b ∧ True)
      (within beyond 2 line) (within beyond' 2 line) := by
  apply within_succ_tied (I := (· = r))
  rintro _ c rfl hc
  apply hr.run_tied hc Scan.flatGroup_keeps
  · intro word group outer h
    cases h
  · intro st ch rest text andThen hst hstep
    obtain ⟨-, tokens, word, group, outer, justClosed, rfl, rfl, rfl⟩ :=
      Scan.eq_of_step_resolve hstep
    obtain ⟨rfl, hgroup, -⟩ := hst word group outer rfl
    have htext : '\x7b' ∉ (Scan.textOf group).toList := by
      rw [Scan.textOf, String.toList_ofList, List.mem_reverse]
      exact hgroup
    have hflat : ∀ a, Scan.FlatGroup (Scan.closeGroup tokens word [] a) rest := by
      intro a w g o h
      cases h
    refine (hr _ c hc).1.resolveNested_tied ⟨rfl, hflat _⟩ ?_
    exact (hr.within_one beyond beyond' htext).mono fun a b h => ⟨h.1, hflat a⟩

lemma Registry.Sealed.liveAtMost_two {s : Session} (h : s.registry.Sealed 1) (line : String) :
    LiveAtMost 2 line s := by
  intro beyond beyond'
  have hs : OneOf (· = s.registry) s s := ⟨rfl, rfl⟩
  obtain ⟨ho, hsession, -⟩ := h.within_two beyond beyond' line hs
  exact Prod.ext (ho.mono fun _ _ h => h.1).eq hsession

end Sealed

end LineShell
