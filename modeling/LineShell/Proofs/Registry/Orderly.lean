import LineShell.Proofs.Nesting.Core
import LineShell.Proofs.Plugins.Declaring
import LineShell.Proofs.Registry.Chronicle
import LineShell.Proofs.Trace.Abort

namespace LineShell

open Run LineShell.Text

namespace Deed

def registers : Deed → String → Bool
  | .called c _ none _, name => c.registers? == some name
  | _, _ => false

def frees : Deed → String → Bool
  | .called c _ none _, name => c.frees? == some name
  | _, _ => false

end Deed

def stands : List Deed → String → Bool
  | [], _ => false
  | d :: past, name => d.registers name || (!d.frees name && stands past name)

def registeredAt : List Deed → String → Nat
  | [], _ => 0
  | d :: past, name => if d.registers name then past.length + 1 else registeredAt past name

/-- What the registry holds after some deeds, the latest first. -/
structure Registry.Orderly (r : Registry) (past : List Deed) : Prop where
  keyed : r.Keyed
  nodup : r.names.Nodup
  word : ∀ name ∈ r.names, name ≠ "" ∧ ∀ c ∈ name.toList, isBlank c = false
  stands_iff : ∀ name, name ∈ r.names ↔ stands past name = true
  sorted : r.names.Pairwise fun name other => registeredAt past name < registeredAt past other

lemma registeredAt_le (past : List Deed) (name : String) :
    registeredAt past name ≤ past.length := by
  induction past with
  | nil => exact Nat.le_refl 0
  | cons d past ih =>
    rw [registeredAt, List.length_cons]
    split
    · exact Nat.le_refl _
    · exact Nat.le_succ_of_le ih

lemma Command.word (c : Command) : c.name ≠ "" ∧ ∀ ch ∈ c.name.toList, isBlank ch = false := by
  simpa [isWord] using c.name_isWord

namespace Registry.Orderly

variable {r : Registry} {past : List Deed} {d : Deed}

lemma empty (types : TypeTable) (maxDepth : Int) (nested : Bool) :
    (Registry.empty types maxDepth nested).Orderly [] where
  keyed := by simp [Keyed, Registry.empty]
  nodup := List.nodup_nil
  word := by simp [names, Registry.empty, Entries.keys]
  stands_iff := by simp [names, Registry.empty, Entries.keys, stands]
  sorted := List.Pairwise.nil

lemma idle (h : r.Orderly past) (hr : ∀ name, d.registers name = false)
    (hf : ∀ name, d.frees name = false) : r.Orderly (d :: past) where
  keyed := h.keyed
  nodup := h.nodup
  word := h.word
  stands_iff name := by
    rw [stands, hr, hf]
    exact h.stands_iff name
  sorted := by
    simpa only [registeredAt, hr, Bool.false_eq_true, if_false] using h.sorted

lemma add {c : Command} (h : r.Orderly past) (hnew : c.name ∉ r.names)
    (hr : ∀ name, d.registers name = true ↔ name = c.name) (hf : ∀ name, d.frees name = false) :
    Registry.Orderly { r with commands := r.commands ++ [(c.name, c)] } (d :: past) := by
  have hnames : names { r with commands := r.commands ++ [(c.name, c)] } = r.names ++ [c.name] := by
    simp [names, Entries.keys]
  refine ⟨?_, ?_, ?_, ?_, ?_⟩
  · intro e he
    rcases List.mem_append.mp he with he | he
    · exact h.keyed e he
    · rw [List.mem_singleton.mp he]
  · rw [hnames]
    exact h.nodup.append (List.nodup_singleton _) (by simpa using hnew)
  · rw [hnames]
    intro name hname
    rcases List.mem_append.mp hname with hname | hname
    · exact h.word name hname
    · rw [List.mem_singleton.mp hname]
      exact c.word
  · intro name
    rw [hnames, stands, List.mem_append, List.mem_singleton, hf, h.stands_iff, Bool.or_eq_true, hr]
    simp [or_comm]
  · rw [hnames, List.pairwise_append]
    have hother : ∀ name ∈ r.names, registeredAt (d :: past) name = registeredAt past name := by
      intro name hname
      rw [registeredAt, if_neg]
      rw [hr]
      rintro rfl
      exact hnew hname
    refine ⟨?_, List.pairwise_singleton _ _, ?_⟩
    · refine h.sorted.imp_of_mem fun ha hb hlt => ?_
      rwa [hother _ ha, hother _ hb]
    · intro name hname last hlast
      rw [List.mem_singleton.mp hlast, hother name hname, registeredAt, if_pos ((hr _).mpr rfl)]
      exact Nat.lt_succ_of_le (registeredAt_le past name)

lemma remove {name : String} (h : r.Orderly past) (hr : ∀ other, d.registers other = false)
    (hf : ∀ other, d.frees other = true ↔ other = name) :
    Registry.Orderly { r with commands := r.commands.erase name } (d :: past) := by
  have hsub : (names { r with commands := r.commands.erase name }).Sublist r.names :=
    List.filter_sublist.map Prod.fst
  refine ⟨?_, h.nodup.sublist hsub, fun other ho => h.word other (hsub.subset ho), ?_, ?_⟩
  · exact fun e he => h.keyed e (List.mem_filter.mp he).1
  · intro other
    have hmem : other ∈ names { r with commands := r.commands.erase name } ↔
        other ∈ r.names ∧ other ≠ name := by
      simp only [names, Entries.keys, Entries.erase, List.mem_map, List.mem_filter,
        decide_eq_true_eq]
      constructor
      · rintro ⟨e, ⟨he, hne⟩, rfl⟩
        exact ⟨⟨e, he, rfl⟩, hne⟩
      · rintro ⟨⟨e, he, rfl⟩, hne⟩
        exact ⟨e, ⟨he, hne⟩, rfl⟩
    rw [hmem, stands, hr, h.stands_iff, Bool.false_or, Bool.and_eq_true, Bool.not_eq_true',
      ← Bool.not_eq_true, hf, and_comm]
  · simpa only [registeredAt, hr, Bool.false_eq_true, if_false] using h.sorted.sublist hsub

end Registry.Orderly

/-- The stored commands are those that lines get to: a line of a name alone, or with a text behind
it, is run by a copy of the command on what follows the name. -/
def Registry.Reachable (r : Registry) : Prop :=
  ∀ e ∈ r.commands, ∀ line raw,
    line = e.1 ∧ raw = "" ∨ (∃ text, line = e.1 ++ " " ++ text ∧ raw = " " ++ text) →
      r.dispatch line = .ok e.2 ∧
        (∀ budget s, s.registry = r →
          execute (budget + 1) line s = inSpan ("execute:" ++ e.1) [("line", .string line)]
            (e.2.clone.readTokens (execute budget) raw >>= e.2.clone.settle (execute budget)) s) ∧
        ∀ types tokens p, bind types e.2.parameters tokens raw = .ok p → p.rawLine = raw

lemma parts_of_word {name line raw : String} (hblank : ∀ c ∈ name.toList, isBlank c = false)
    (h : line = name ∧ raw = "" ∨ ∃ text, line = name ++ " " ++ text ∧ raw = " " ++ text) :
    leadingWord line = name ∧ parameterText line = raw := by
  have hspace : ∀ c ∈ name.toList, (c != ' ') = true := by
    intro c hc
    rw [bne_iff_ne]
    rintro rfl
    exact absurd (hblank ' ' hc) (by decide)
  rcases h with ⟨rfl, rfl⟩ | ⟨text, rfl, rfl⟩
  · rw [leadingWord, parameterText, List.takeWhile_eq_self_iff.mpr hspace,
      List.dropWhile_eq_nil_iff.mpr hspace, String.ofList_toList]
    exact ⟨rfl, rfl⟩
  · rw [leadingWord, parameterText, String.toList_append, String.toList_append, List.append_assoc,
      List.takeWhile_append_of_pos hspace, List.dropWhile_append_of_pos hspace]
    constructor
    · simp
    · apply String.toList_inj.mp
      simp

lemma bind_rawLine {types : TypeTable} {parameters : List ParameterSpec} {tokens : List String}
    {raw : String} {p : BoundParameters} (h : bind types parameters tokens raw = .ok p) :
    p.rawLine = raw := by
  rw [bind] at h
  cases hvalues : bindValues types parameters tokens with
  | error e =>
    rw [hvalues] at h
    cases h
  | ok bound =>
    rw [hvalues] at h
    cases h
    rfl

lemma Registry.Orderly.reachable {r : Registry} {past : List Deed} (h : r.Orderly past) :
    r.Reachable := by
  intro e he line raw hline
  obtain ⟨hne, hblank⟩ := h.word e.1 (List.mem_map_of_mem he)
  obtain ⟨hword, hraw⟩ := parts_of_word hblank hline
  have hname : e.2.name = e.1 := (h.keyed e he).symm
  have hget : r.get? e.2.name = some e.2 := hname ▸ Entries.get?_of_mem h.nodup he
  have hnotBlank : isBlankText line = false := by
    obtain ⟨c, hc⟩ : ∃ c, c ∈ e.1.toList :=
      List.exists_mem_of_ne_nil _ fun hnil => hne (String.toList_eq_nil_iff.mp hnil)
    have hmem : c ∈ line.toList := by
      rcases hline with ⟨rfl, -⟩ | ⟨text, rfl, -⟩
      · exact hc
      · simp [hc]
    rw [isBlankText, List.all_eq_false]
    exact ⟨c, hmem, by simp [hblank c hc]⟩
  have hdispatch := Registry.dispatch_of_get? hget (hword.trans hname.symm) hnotBlank
  refine ⟨hdispatch, ?_, fun _ _ _ => bind_rawLine⟩
  rintro budget s rfl
  have hanswers : e.2.clone.answersTo line = true := by
    simpa [Command.answersTo, Command.clone, hword] using h.keyed e he
  rw [execute_succ_apply hdispatch, hword, Command.run_eq, Command.readLine, hnotBlank, hanswers,
    hraw]
  rfl

end LineShell
