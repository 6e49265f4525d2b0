import LineShell.Plugin.Core
import LineShell.Plugin.Manager
import LineShell.Proofs.Nesting.Restrained

namespace LineShell

lemma Registry.create_eq_ok {r r' : Registry} {d : Definition Script} {c : Command}
    (h : r.create d = .ok (c, r')) :
    r.build d = .ok c ∧ r' = { r with commands := r.commands ++ [(c.name, c)] } := by
  rw [Registry.create] at h
  cases hb : r.build d with
  | error e =>
    rw [hb] at h
    cases h
  | ok made =>
    rw [hb] at h
    change (r.add made >>= fun r => pure (made, r)) = _ at h
    rw [Registry.add] at h
    split at h <;> cases h
    exact ⟨rfl, rfl⟩

lemma PluginManager.mem_declare {ds : List (Definition Script)} {r : Registry}
    {e : String × Command} (h : e ∈ (declare (ds.map .ok) r).2.commands) :
    e ∈ r.commands ∨ ∃ d ∈ ds, ∃ r' : Registry, r'.build d = .ok e.2 := by
  induction ds generalizing r with
  | nil => exact .inl h
  | cons d ds ih =>
    rw [List.map_cons, declare] at h
    cases hc : r.create d with
    | error fault =>
      rw [hc] at h
      exact .inl h
    | ok made =>
      rw [hc] at h
      obtain ⟨hb, hmade⟩ := Registry.create_eq_ok hc
      rcases ih h with hmem | ⟨d', hd', hr'⟩
      · rw [hmade, List.mem_append, List.mem_singleton] at hmem
        rcases hmem with hmem | rfl
        · exact .inl hmem
        · exact .inr ⟨d, List.mem_cons_self, r, hb⟩
      · exact .inr ⟨d', List.mem_cons_of_mem d hd', hr'⟩

lemma Script.confined_done {I : Registry → Prop} {n : Nat} {r : Registry} {text : String}
    (h : closers text = 0) : (Script.done text).Confined I (fun text => closers text ≤ n) r :=
  Nat.le_trans (Nat.le_of_eq h) (Nat.zero_le n)

def Signature.Plain (s : Signature) : Prop :=
  closers s.name = 0 ∧ closers s.description = 0 ∧
    ∀ q ∈ s.parameters, closers q.name = 0 ∧ closers q.typeName = 0 ∧ closers q.description = 0

instance (s : Signature) : Decidable s.Plain :=
  inferInstanceAs (Decidable (_ ∧ _ ∧ _))

lemma ParameterSpec.closers_usage {q : ParameterSpec} (hname : closers q.name = 0)
    (htype : closers q.typeName = 0) : closers q.usage = 0 := by
  rw [ParameterSpec.usage]
  split <;> simp only [closers_append, hname, htype] <;> rfl

lemma Signature.closers_usage {s : Signature} (h : s.Plain) : closers s.usage = 0 := by
  obtain ⟨hname, -, hparameters⟩ := h
  rw [Signature.usage, closers_intercalate rfl]
  apply closersOf_eq_zero
  intro t ht
  rcases List.mem_cons.mp ht with rfl | ht
  · exact hname
  · obtain ⟨q, hq, rfl⟩ := List.mem_map.mp ht
    exact ParameterSpec.closers_usage (hparameters q hq).1 (hparameters q hq).2.1

lemma tokens_of_bind {types : TypeTable} {parameters : List ParameterSpec} {tokens : List String}
    {raw : String} {p : BoundParameters} (h : bind types parameters tokens raw = .ok p) :
    p.tokens = tokens := by
  rw [bind] at h
  cases hb : bindValues types parameters tokens with
  | error e =>
    rw [hb] at h
    cases h
  | ok bound =>
    rw [hb] at h
    cases h
    rfl

namespace CorePlugin

lemma closers_describe {s : Signature} (h : s.Plain) : closers (describe s) = 0 := by
  rw [describe, closers_intercalate rfl]
  apply closersOf_eq_zero
  intro t ht
  rw [List.cons_append, List.mem_cons, List.mem_append] at ht
  rcases ht with rfl | ht | ht
  · exact Signature.closers_usage h
  · split at ht
    · cases ht
    · rw [List.mem_singleton.mp ht]
      exact h.2.1
  · obtain ⟨q, hq, rfl⟩ := List.mem_map.mp ht
    obtain ⟨hname, -, hdescription⟩ := h.2.2 q (List.mem_filter.mp hq).1
    have hindent : closers "  " = 0 := by decide
    have hcolon : closers ": " = 0 := by decide
    simp only [closers_append, hindent, hname, hcolon, hdescription]

lemma help_confined (p : BoundParameters) {n : Nat} {r : Registry}
    (hr : ∀ e ∈ r.commands, e.2.signature.Plain) :
    (help p).Confined (· = r) (fun text => closers text ≤ n) r := by
  have hplain : ∀ s ∈ r.commands.map fun e => e.2.signature, s.Plain := by
    intro s hs
    obtain ⟨e, he, rfl⟩ := List.mem_map.mp hs
    exact hr e he
  rw [help]
  simp only [Script.Confined]
  split
  · split
    · rename_i s hs
      have hdescribe := closers_describe (hplain s (List.mem_of_find?_eq_some hs))
      exact Script.confined_done hdescribe
    · trivial
  · have husages : closers ("\n".intercalate ((r.commands.map fun e => e.2.signature).map
        Signature.usage)) = 0 := by
      rw [closers_intercalate rfl]
      apply closersOf_eq_zero
      intro t ht
      obtain ⟨s, hs, rfl⟩ := List.mem_map.mp ht
      exact Signature.closers_usage (hplain s hs)
    exact Script.confined_done husages

lemma action_confined {d : Definition Script} (hd : d ∈ definitions)
    {action : BoundParameters → Script} (ha : d.action = some action) (p : BoundParameters)
    {r : Registry} (hr : ∀ e ∈ r.commands, e.2.signature.Plain) :
    (action p).Confined (· = r) (fun text => closers text ≤ closersOf p.tokens) r := by
  have hjoin : ∀ separator, closers separator = 0 →
      closers (joinTokens separator p) = closersOf p.tokens :=
    fun _ h => closers_intercalate h p.tokens
  simp only [definitions, List.mem_cons, List.not_mem_nil, or_false] at hd
  rcases hd with rfl | rfl | rfl | rfl | rfl | rfl | rfl <;> cases ha
  · exact Nat.le_of_eq (hjoin " " rfl)
  · exact Script.confined_done (Decimal.closers_numberText _)
  · exact Script.confined_done (Decimal.closers_numberText _)
  · exact Nat.le_of_eq ((Text.closers_upper _).trans (hjoin " " rfl))
  · exact Nat.le_of_eq (hjoin "" rfl)
  · exact Script.confined_done (Decimal.closers_natText _)
  · exact help_confined p hr

lemma definitions_plain : ∀ d ∈ definitions,
    (Signature.mk d.name d.description d.parameters).Plain := by
  intro d hd
  simp only [definitions, List.mem_cons, List.not_mem_nil, or_false] at hd
  rcases hd with rfl | rfl | rfl | rfl | rfl | rfl | rfl <;> decide +kernel

lemma definitions_hook : ∀ d ∈ definitions, d.hook = none := by
  intro d hd
  simp only [definitions, List.mem_cons, List.not_mem_nil, or_false] at hd
  rcases hd with rfl | rfl | rfl | rfl | rfl | rfl | rfl <;> rfl

def registry (types : TypeTable) (maxDepth : Int) (nested : Bool) : Registry :=
  (PluginManager.declare (definitions.map .ok) (.empty types maxDepth nested)).2

lemma exists_definition {types : TypeTable} {maxDepth : Int} {nested : Bool}
    {e : String × Command} (h : e ∈ (registry types maxDepth nested).commands) :
    ∃ d ∈ definitions, ∃ r : Registry, r.build d = .ok e.2 := by
  rcases PluginManager.mem_declare h with hempty | hd
  · cases hempty
  · exact hd

lemma registry_plain (types : TypeTable) (maxDepth : Int) (nested : Bool) :
    ∀ e ∈ (registry types maxDepth nested).commands, e.2.signature.Plain := by
  intro e he
  obtain ⟨d, hd, r, hb⟩ := exists_definition he
  obtain ⟨action, arity, hname, harity, -, hc⟩ := Registry.build_eq_ok hb
  rw [hc]
  exact definitions_plain d hd

lemma registry_restrained (types : TypeTable) (maxDepth : Int) (nested : Bool) :
    (registry types maxDepth nested).Restrained := by
  refine ⟨(· = registry types maxDepth nested), ⟨?_, ?_, ?_⟩, rfl⟩
  · rintro r rfl
    rfl
  · rintro r name c rfl hc
    obtain ⟨d, hd, r', hb⟩ := exists_definition (Entries.mem_of_get? hc)
    exact ⟨r', d, hb⟩
  · rintro r name c rfl hc tokens raw _ rfl
    obtain ⟨d, hd, r', hb⟩ := exists_definition (Entries.mem_of_get? hc)
    obtain ⟨action, arity, hname, harity, ha, rfl⟩ := Registry.build_eq_ok hb
    cases hbound : bind (registry types maxDepth nested).types d.parameters tokens raw with
    | error e =>
      simp only [Command.answer, Command.onParameterError, definitions_hook d hd]
      trivial
    | ok p =>
      have htokens : p.tokens = tokens := tokens_of_bind hbound
      simp only [Command.answer]
      rw [← htokens]
      exact action_confined hd ha p (registry_plain types maxDepth nested)

end CorePlugin

/-- Lines whose commands answer with no more closing braces than their tokens have end with at most
one more line under way than they have closing braces, and the core commands are of that kind. -/
theorem restrained_liveAtMost_closers :
    (∀ (s : Session) (line : String), s.registry.Restrained →
      LiveAtMost (closers line + 1) line s ∧
        ∀ budget, closers line + 1 ≤ budget →
          execute budget line s = execute (closers line + 1) line s) ∧
    ∀ types maxDepth nested, (CorePlugin.registry types maxDepth nested).Restrained := by
  refine ⟨fun s line h => ?_, CorePlugin.registry_restrained⟩
  obtain ⟨I, hI, hr⟩ := h
  have hlive : LiveAtMost (closers line + 1) line s := by
    intro beyond beyond'
    have hs : OneOf I s s := ⟨rfl, hr⟩
    obtain ⟨ho, hsession, -⟩ := hI.within_of_le beyond beyond' (Nat.le_refl _) hs
    exact Prod.ext (ho.mono fun _ _ h => h.1).eq hsession
  exact ⟨hlive, fun budget hb => hlive.execute_eq hb⟩

theorem core_sum_liveAtMost :
    (CorePlugin.registry .builtin 3 true).Restrained ∧
      LiveAtMost 3 "echo \x7badd 2 \x7bmul 3 4\x7d\x7d"
        (.start (CorePlugin.registry .builtin 3 true)) := by
  have hr := restrained_liveAtMost_closers.2 .builtin 3 true
  exact ⟨hr, (restrained_liveAtMost_closers.1 (.start (CorePlugin.registry .builtin 3 true))
    "echo \x7badd 2 \x7bmul 3 4\x7d\x7d" hr).1⟩

end LineShell
