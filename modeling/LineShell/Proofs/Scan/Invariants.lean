import LineShell.Proofs.Text.Closers
import LineShell.Scan

namespace LineShell

namespace Scan

def Keeps (maxDepth : Int) (P : State → List Char → Prop) : Prop :=
  ∀ ⦃st st' : State⦄ ⦃c : Char⦄ ⦃rest : List Char⦄,
    P st (c :: rest) → step maxDepth st c = .next st' → P st' rest

lemma eq_of_step_resolve {maxDepth : Int} {st : State} {c : Char} {text : String}
    {andThen : String → State} (h : step maxDepth st c = .resolve text andThen) :
    c = '\x7d' ∧ ∃ tokens word group outer justClosed,
      st = ⟨tokens, .grouped word group outer, justClosed⟩ ∧ text = textOf group ∧
        andThen = closeGroup tokens word outer := by
  obtain ⟨tokens, mode, justClosed⟩ := st
  cases mode with
  | bare word =>
    simp only [step, bareStep] at h
    repeat' split at h
    all_goals cases h
  | quoted word =>
    simp only [step, quotedStep] at h
    split at h <;> cases h
  | grouped word group outer =>
    simp only [step, groupedStep] at h
    split at h
    · split at h <;> cases h
    split at h <;> cases h
    rename_i hc
    exact ⟨hc, tokens, word, group, outer, justClosed, rfl, rfl, rfl⟩

lemma closers_textOf (word : List Char) : closers (textOf word) = word.count '\x7d' := by
  rw [textOf, closers_ofList, List.count_reverse]

lemma closersOf_addWord (word : List Char) (tokens : List String) :
    closersOf (addWord word tokens) = word.count '\x7d' + closersOf tokens := by
  rw [addWord]
  split
  · rename_i h
    rw [List.isEmpty_iff.mp h, List.count_nil, Nat.zero_add]
  · rw [closersOf_cons, closers_textOf]

def Mode.closers : Mode → Nat
  | .bare word => word.count '\x7d'
  | .quoted word => word.count '\x7d'
  | .grouped word group outer =>
    word.count '\x7d' + group.count '\x7d' + outer.flatten.count '\x7d'

def State.closers (st : State) : Nat :=
  closersOf st.tokens + st.mode.closers

lemma closers_of_step_next {maxDepth : Int} {st st' : State} {c : Char}
    (h : step maxDepth st c = .next st') : st'.closers ≤ st.closers + [c].count '\x7d' := by
  obtain ⟨tokens, mode, justClosed⟩ := st
  cases mode with
  | bare word =>
    simp only [step, bareStep] at h
    split at h
    · split at h <;> cases h
      simp only [State.closers, Mode.closers, List.count_nil, List.flatten_nil]
      omega
    split at h
    · cases h
      simp only [State.closers, Mode.closers]
      omega
    split at h <;> cases h
    · simp only [State.closers, Mode.closers, closersOf_addWord, List.count_nil]
      omega
    · simp only [State.closers, Mode.closers, List.count_cons, List.count_nil]
      omega
  | quoted word =>
    simp only [step, quotedStep] at h
    split at h <;> cases h
    · simp only [State.closers, Mode.closers, closersOf_cons, closers_textOf, List.count_nil]
      omega
    · simp only [State.closers, Mode.closers, List.count_cons, List.count_nil]
      omega
  | grouped word group outer =>
    simp only [step, groupedStep] at h
    split at h
    · split at h <;> cases h
      simp only [State.closers, Mode.closers, List.count_nil, List.flatten_cons, List.count_append]
      omega
    split at h <;> cases h
    simp only [State.closers, Mode.closers, List.count_cons, List.count_nil]
    omega

lemma closers_of_step_resolve {maxDepth : Int} {st : State} {c : Char} {text : String}
    {andThen : String → State} (h : step maxDepth st c = .resolve text andThen) (result : String) :
    (andThen result).closers + LineShell.closers text = st.closers + LineShell.closers result := by
  obtain ⟨-, tokens, word, group, outer, justClosed, rfl, rfl, rfl⟩ := eq_of_step_resolve h
  cases outer with
  | nil =>
    simp only [closeGroup, State.closers, Mode.closers, closersOf_cons, closersOf_addWord,
      closers_textOf, List.count_nil, List.flatten_nil]
    omega
  | cons around outer =>
    have hresult : result.toList.count '\x7d' = LineShell.closers result := rfl
    simp only [closeGroup, State.closers, Mode.closers, closers_textOf, List.count_append,
      List.count_reverse, List.flatten_cons, List.count_append, hresult]
    omega

lemma closersOf_finish_le (st : State) : closersOf st.finish ≤ st.closers := by
  obtain ⟨tokens, mode, justClosed⟩ := st
  cases mode with
  | bare word =>
    simp only [State.finish, State.closers, Mode.closers, closersOf_reverse, closersOf_addWord]
    omega
  | quoted word =>
    simp only [State.finish, State.closers, Mode.closers, closersOf_reverse]
    omega
  | grouped word group outer =>
    simp only [State.finish, State.closers, Mode.closers, closersOf_reverse, closersOf_addWord]
    omega

def GroupFree (st : State) (rest : List Char) : Prop :=
  (∀ word group outer, st.mode ≠ .grouped word group outer) ∧ '\x7b' ∉ rest

def FlatGroup (st : State) (_rest : List Char) : Prop :=
  ∀ word group outer, st.mode = .grouped word group outer →
    outer = [] ∧ '\x7b' ∉ group ∧ st.justClosed = false

lemma groupFree_keeps (maxDepth : Int) : Keeps maxDepth GroupFree := by
  rintro ⟨tokens, mode, justClosed⟩ st' c rest ⟨hmode, hrest⟩ hstep
  have hc : c ≠ '\x7b' := fun h => hrest (h ▸ List.mem_cons_self)
  refine ⟨?_, fun h => hrest (List.mem_cons_of_mem c h)⟩
  intro word group outer hgrouped
  cases mode with
  | bare w =>
    simp only [step, bareStep, hc, decide_false, Bool.false_and, if_false, Bool.false_eq_true]
      at hstep
    split at hstep
    · cases hstep
      cases hgrouped
    split at hstep <;> cases hstep <;> cases hgrouped
  | quoted w =>
    simp only [step, quotedStep] at hstep
    split at hstep <;> cases hstep <;> cases hgrouped
  | grouped w g o => exact hmode w g o rfl

lemma flatGroup_keeps : Keeps 1 FlatGroup := by
  rintro ⟨tokens, mode, justClosed⟩ st' c rest hst hstep word group outer hgrouped
  cases mode with
  | bare w =>
    simp only [step, bareStep] at hstep
    split at hstep
    · split at hstep <;> cases hstep
      cases hgrouped
      exact ⟨rfl, List.not_mem_nil, rfl⟩
    split at hstep
    · cases hstep
      cases hgrouped
    split at hstep <;> cases hstep <;> cases hgrouped
  | quoted w =>
    simp only [step, quotedStep] at hstep
    split at hstep <;> cases hstep <;> cases hgrouped
  | grouped w g o =>
    obtain ⟨rfl, hg, hjust⟩ := hst w g o rfl
    simp only at hjust
    subst hjust
    simp only [step, groupedStep] at hstep
    split at hstep
    · -- a second brace reaches the limit
      split at hstep
      · cases hstep
      · rename_i hreaches
        exact absurd rfl hreaches
    · rename_i hopen
      split at hstep <;> cases hstep
      cases hgrouped
      refine ⟨rfl, ?_, rfl⟩
      rw [List.mem_cons, not_or]
      refine ⟨fun h => hopen ?_, hg⟩
      simp only [← h, decide_true, Bool.not_false, Bool.and_self]

end Scan

end LineShell
