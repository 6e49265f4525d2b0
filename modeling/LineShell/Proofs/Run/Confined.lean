import LineShell.Proofs.Run.Level

namespace LineShell

open Run

def Script.Confined (I : Registry → Prop) (V : String → Prop) : Script → Registry → Prop
  | .done text, _ => V text
  | .fail _, _ => True
  | .execute _ _, _ => False
  | .attempt _ _, _ => False
  | .create d rest, r =>
    (∀ c r', r.create d = .ok (c, r') → I r' ∧ (rest (.ok ())).Confined I V r') ∧
      ∀ e, r.create d = .error e → (rest (.error (.command e))).Confined I V r
  | .remove name rest, r =>
    (∀ r', r.remove name = .ok r' → I r' ∧ (rest (.ok ())).Confined I V r') ∧
      ∀ e, r.remove name = .error e → (rest (.error (.command e))).Confined I V r
  | .survey rest, r => (rest (r.commands.map fun e => e.2.signature)).Confined I V r
  | .note _ _ rest, r => rest.Confined I V r

def Script.ReadsOnly : Script → Prop
  | .done _ => True
  | .fail _ => True
  | .execute _ _ => False
  | .attempt _ _ => False
  | .create _ _ => False
  | .remove _ _ => False
  | .survey rest => ∀ signatures, (rest signatures).ReadsOnly
  | .note _ _ rest => rest.ReadsOnly

def Command.Declared (c : Command) : Prop :=
  ∃ r d, Registry.build r d = .ok c

def OneOf (I : Registry → Prop) (s t : Session) : Prop :=
  s = t ∧ I s.registry

variable {I : Registry → Prop} {V : String → Prop}

namespace Script

lemma Confined.mono {W : String → Prop} (hv : ∀ text, V text → W text) {σ : Script} {r : Registry}
    (h : σ.Confined I V r) : σ.Confined I W r := by
  induction σ using Script.induction generalizing r with
  | done text => exact hv text h
  | fail f => trivial
  | execute line rest ih => exact h.elim
  | attempt line rest ih => exact h.elim
  | create d rest ih =>
    exact ⟨fun c r' hc => ⟨(h.1 c r' hc).1, ih _ (h.1 c r' hc).2⟩, fun e he => ih _ (h.2 e he)⟩
  | remove name rest ih =>
    exact ⟨fun r' hr => ⟨(h.1 r' hr).1, ih _ (h.1 r' hr).2⟩, fun e he => ih _ (h.2 e he)⟩
  | survey rest ih => exact ih _ h
  | note label content rest ih => exact ih h

lemma ReadsOnly.confined {σ : Script} (h : σ.ReadsOnly) (hv : ∀ text, V text) (r : Registry) :
    σ.Confined I V r := by
  induction σ using Script.induction with
  | done text => exact hv text
  | fail f => trivial
  | execute line rest ih => exact h.elim
  | attempt line rest ih => exact h.elim
  | create d rest ih => exact h.elim
  | remove name rest ih => exact h.elim
  | survey rest ih => exact ih _ (h _)
  | note label content rest ih => exact ih h

lemma Confined.run {σ : Script} {s : Session} (h : σ.Confined I V s.registry) (hI : I s.registry)
    (call call' : String → Run String) :
    Outcomes (fun a b => a = b ∧ V a) (σ.run call s).1 (σ.run call' s).1 ∧
      OneOf I (σ.run call s).2 (σ.run call' s).2 := by
  induction σ using Script.induction generalizing s with
  | done text => exact ⟨.ok ⟨rfl, h⟩, rfl, hI⟩
  | fail f => exact ⟨.error f, rfl, hI⟩
  | execute line rest ih => exact h.elim
  | attempt line rest ih => exact h.elim
  | create d rest ih =>
    rw [Script.run, Script.run]
    cases hc : s.registry.create d with
    | error e =>
      rw [caught_bind_exception (declare_of_error hc), caught_bind_exception (declare_of_error hc)]
      exact ih _ (h.2 e hc) hI
    | ok made =>
      obtain ⟨hI', h'⟩ := h.1 made.1 made.2 hc
      rw [caught_bind_ok (declare_of_ok hc), caught_bind_ok (declare_of_ok hc)]
      exact ih _ (s := { s with registry := made.2 }) h' hI'
  | remove name rest ih =>
    rw [Script.run, Script.run]
    cases hr : s.registry.remove name with
    | error e =>
      rw [caught_bind_exception (remove_of_error hr), caught_bind_exception (remove_of_error hr)]
      exact ih _ (h.2 e hr) hI
    | ok r' =>
      obtain ⟨hI', h'⟩ := h.1 r' hr
      rw [caught_bind_ok (remove_of_ok hr), caught_bind_ok (remove_of_ok hr)]
      exact ih _ (s := { s with registry := r' }) h' hI'
  | survey rest ih => exact ih _ h hI
  | note label content rest ih => exact ih (s := s.record (.noted label content)) h hI

lemma Confined.tied {σ : Script} (h : ∀ r, I r → σ.Confined I V r)
    (call call' : String → Run String) :
    Tied (OneOf I) (fun a b => a = b ∧ V a) (σ.run call) (σ.run call') := by
  rintro s _ ⟨rfl, hI⟩
  exact (h s.registry hI).run hI call call'

end Script

lemma Command.not_isBlankText_of_isWord {s : String} (h : isWord s = true) :
    Text.isBlankText s = false := by
  simp only [isWord, Bool.and_eq_true, Bool.not_eq_true', List.any_eq_false] at h
  have hne : s.toList ≠ [] := by
    intro hnil
    rw [String.toList_eq_nil_iff.mp hnil] at h
    cases h.1
  obtain ⟨c, rest, hs⟩ := List.exists_cons_of_ne_nil hne
  rw [hs] at h
  have hc := h.2 c List.mem_cons_self
  rw [Text.isBlankText, hs, List.all_cons]
  simp [hc]

lemma Command.ofDefinition_eq_ok {d : Definition Script} {delegate : Delegate}
    {types : TypeSource} {maxDepth : Int} {c : Command}
    (h : Command.ofDefinition d delegate types maxDepth = .ok c) :
    ∃ action arity hname harity, d.action = some action ∧
      c = ⟨d.name, action, d.parameters, d.description, delegate, maxDepth.toNat, d.hook, types,
        none, arity, hname, harity⟩ := by
  rw [Command.ofDefinition] at h
  split at h
  · cases h
  split at h
  · rename_i hname
    split at h
    · cases h
    · rename_i action haction
      split at h
      · cases h
      · split at h
        · cases h
        · rename_i arity harity
          exact ⟨action, arity, hname, harity, haction, (Except.ok.inj h).symm⟩
  · cases h

lemma Registry.build_eq_ok {r : Registry} {d : Definition Script} {c : Command}
    (h : r.build d = .ok c) :
    ∃ action arity hname harity, d.action = some action ∧
      c = ⟨d.name, action, d.parameters, d.description,
        if d.nested.getD r.nested then .registry else .none, (d.maxDepth.getD r.maxDepth).toNat,
        d.hook, .registry, none, arity, hname, harity⟩ := by
  rw [Registry.build] at h
  cases hd : Command.ofDefinition d (if d.nested.getD r.nested then Delegate.registry else .none)
      .registry (d.maxDepth.getD r.maxDepth) with
  | error fault =>
    rw [hd] at h
    cases h
  | ok c' =>
    rw [hd] at h
    cases h
    exact Command.ofDefinition_eq_ok hd

def plainCommand (maxDepth : Nat) (name : String) (action : BoundParameters → Script)
    (hname : isWord name = true := by decide) : Command where
  name
  action
  parameters := []
  description := ""
  delegate := .registry
  maxDepth
  hook := none
  types := .registry
  override := none
  arity := ⟨0, 0⟩
  name_isWord := hname
  parameters_arity := rfl

def plainRegistry (maxDepth : Nat) (commands : List Command) : Registry :=
  ⟨.builtin, commands.map fun c => (c.name, c), maxDepth, true⟩

lemma plainCommand_declared (maxDepth : Nat) {name : String} (hname : isWord name = true)
    (action : BoundParameters → Script) : (plainCommand maxDepth name action hname).Declared := by
  refine ⟨plainRegistry maxDepth [], ⟨name, some action, [], "", none, none, none⟩, ?_⟩
  have hblank := Command.not_isBlankText_of_isWord hname
  have hdepth : ¬ (maxDepth : Int) < 0 := by omega
  simp only [Registry.build, plainRegistry, Option.getD_none, Command.ofDefinition, hblank, hname,
    hdepth, if_true, if_false, Bool.false_eq_true, dif_pos]
  rfl

namespace Command

lemma Declared.clone_eq {c : Command} (h : c.Declared) : c.clone = c := by
  obtain ⟨r, d, h⟩ := h
  obtain ⟨action, arity, hname, harity, -, rfl⟩ := Registry.build_eq_ok h
  rfl

lemma Declared.typesOf {c : Command} (h : c.Declared) (s : Session) :
    s.typesOf c = s.registry.types := by
  obtain ⟨r, d, h⟩ := h
  obtain ⟨action, arity, hname, harity, -, rfl⟩ := Registry.build_eq_ok h
  rfl

lemma Declared.resolveNested_tied {R : Session → Session → Prop} {W : String → String → Prop}
    {c : Command} (h : c.Declared) {call call' : String → Run String} {text : String}
    (hl : W (literal text) (literal text)) (hcall : Tied R W (call text) (call' text)) :
    Tied R W (c.resolveNested call text) (c.resolveNested call' text) := by
  apply Command.resolveNested_tied hl hcall
  intro f hf
  obtain ⟨r, d, h⟩ := h
  obtain ⟨action, arity, hname, harity, -, rfl⟩ := Registry.build_eq_ok h
  dsimp only at hf
  split at hf <;> cases hf

lemma run_tied_of_confined {types : TypeTable} {U : List String → Prop} {c : Command}
    (hc : c.Declared) {line : String} {call call' : String → Run String}
    (htypes : ∀ r, I r → r.types = types)
    (hscan : Tied (OneOf I) (fun a b => a = b ∧ ∀ tokens, a = .ok tokens → U tokens)
      (scan c.maxDepth (c.resolveNested call) (parameterText line))
      (scan c.maxDepth (c.resolveNested call') (parameterText line)))
    (hanswer : ∀ tokens r, U tokens → I r →
      (c.answer (bind types c.parameters tokens (parameterText line))).Confined I V r) :
    Tied (OneOf I) (fun a b => a = b ∧ V a) (c.run call line) (c.run call' line) := by
  have hone : ∀ ⦃s t : Session⦄, OneOf I s t → s.typesOf c = t.typesOf c :=
    fun s t h => by rw [h.1]
  rw [run_eq, run_eq]
  apply (readLine_tied (readTokens_tied hone hscan)).bind
  rintro bound _ ⟨rfl, s, t, tokens, hs, hu, rfl⟩
  refine settle_tied (fun s t h => ⟨by rw [h.1], h.2⟩)
    (Script.Confined.tied (fun r hI => ?_) call call')
  rw [hc.typesOf, htypes s.registry hs.2]
  exact hanswer tokens r hu hI

end Command

lemma Entries.mem_of_get? {α : Type} {d : Entries α} {key : String} {v : α}
    (h : d.get? key = some v) : (key, v) ∈ d := by
  induction d with
  | nil => cases h
  | cons e d ih =>
    obtain ⟨k, w⟩ := e
    rw [Entries.get?_cons] at h
    split at h
    · rename_i hk
      cases h
      rw [hk]
      exact List.mem_cons_self
    · exact List.mem_cons_of_mem _ (ih h)

lemma Registry.get?_of_dispatch {r : Registry} {line : String} {c : Command}
    (h : r.dispatch line = .ok c) : r.get? (leadingWord line) = some c := by
  rw [Registry.dispatch] at h
  split at h
  · cases h
  · cases hc : r.get? (leadingWord line) with
    | none =>
      rw [hc] at h
      cases h
    | some c' =>
      rw [hc] at h
      cases h
      rfl

lemma within_succ_tied {W : String → String → Prop} {beyond beyond' : String → Run String}
    {k : Nat} {line : String}
    (h : ∀ r c, I r → r.get? (leadingWord line) = some c →
      Tied (OneOf I) W (c.clone.run (within beyond k) line) (c.clone.run (within beyond' k) line)) :
    Tied (OneOf I) W (within beyond (k + 1) line) (within beyond' (k + 1) line) := by
  rintro s _ ⟨rfl, hI⟩
  simp only [within]
  rw [registry_bind, registry_bind]
  cases hd : s.registry.dispatch line with
  | error e =>
    simp only [Run.ofExcept, Command.refuse_bind]
    exact Tied.throw (.command e) ⟨rfl, hI⟩
  | ok c =>
    simp only [Run.ofExcept, pure_bind]
    exact (h s.registry c hI (Registry.get?_of_dispatch hd)).inSpan
      (fun _ _ h => by rw [h.1]) (fun _ _ h _ => ⟨by rw [h.1], h.2⟩) ⟨rfl, hI⟩

end LineShell
