import LineShell.Proofs.Run.Confined

/-! Commands that answer with no more closing braces than their tokens have. A nested line then has
fewer of them than the line around it, which bounds the number of lines under way at once. -/

namespace LineShell

open Run

/-- The commands of all registries of the class are declared, execute no line, change the registry
within the class, and answer with at most as many closing braces as all their tokens have. -/
structure Restrained (types : TypeTable) (I : Registry → Prop) : Prop where
  types_eq : ∀ r, I r → r.types = types
  declared : ∀ r name c, I r → r.get? name = some c → c.Declared
  answer : ∀ r name c, I r → r.get? name = some c → ∀ tokens raw r', I r' →
    (c.answer (bind types c.parameters tokens raw)).Confined I
      (fun text => closers text ≤ closersOf tokens) r'

/-- The registry and those that its commands make of it are such a class. -/
def Registry.Restrained (r : Registry) : Prop :=
  ∃ I, LineShell.Restrained r.types I ∧ I r

lemma closers_literal (text : String) : closers (Command.literal text) = closers text + 1 := by
  have hopen : closers "\x7b" = 0 := by decide
  have hclose : closers "\x7d" = 1 := by decide
  rw [Command.literal, closers_append, closers_append, hopen, hclose, Nat.zero_add]

lemma closers_parameterText_le (line : String) : closers (parameterText line) ≤ closers line := by
  rw [parameterText, closers_ofList]
  exact (List.dropWhile_sublist _).count_le _

section Fewer

variable {I : Registry → Prop} {types : TypeTable}

def AtMostClosers (I : Registry → Prop) (n : Nat) (x y : Run String) : Prop :=
  Tied (OneOf I) (fun a b => a = b ∧ closers a ≤ n) x y

lemma scan_tied_of_fewer (maxDepth : Int) {resolve resolve' : String → Run String} {line : String}
    (h : ∀ text, closers text < closers line →
      AtMostClosers I (closers text + 1) (resolve text) (resolve' text)) :
    Tied (OneOf I)
      (fun a b => a = b ∧ ∀ tokens, a = .ok tokens → closersOf tokens ≤ closers line)
      (scan maxDepth resolve line) (scan maxDepth resolve' line) := by
  -- What was read and what is left have no more closing braces together than the line.
  let P : Scan.State → List Char → Prop :=
    fun st rest => st.closers + rest.count '\x7d' ≤ closers line
  have hkeeps : Scan.Keeps maxDepth P := by
    intro st st' c rest hst hstep
    have hle := Scan.closers_of_step_next hstep
    simp only [P, List.count_cons, List.count_nil] at hst hle ⊢
    omega
  have hresolve : ∀ ⦃st c rest text andThen⦄, P st (c :: rest) →
      Scan.step maxDepth st c = .resolve text andThen →
        Tied (OneOf I) (fun a b => a = b ∧ P (andThen a) rest) (resolve text) (resolve' text) := by
    intro st c rest text andThen hst hstep
    have hc : c = '\x7d' := (Scan.eq_of_step_resolve hstep).1
    have htrade := Scan.closers_of_step_resolve hstep
    have hempty : closers "" = 0 := rfl
    have hleft := htrade ""
    simp only [P, hc, List.count_cons_self] at hst
    apply (h text (by omega)).mono
    rintro a _ ⟨rfl, ha⟩
    have hresult := htrade a
    refine ⟨rfl, ?_⟩
    simp only [P]
    omega
  have hstart : P .start line.toList := by
    have h0 : Scan.State.closers .start = 0 := rfl
    simp only [P, h0, closers, Nat.zero_add, Nat.le_refl]
  apply (scan_tied maxDepth hkeeps hresolve line hstart).mono
  rintro a _ ⟨rfl, ha⟩
  refine ⟨rfl, fun tokens htokens => ?_⟩
  obtain ⟨st, hst, rfl⟩ := ha tokens htokens
  calc closersOf st.finish ≤ st.closers := Scan.closersOf_finish_le st
    _ ≤ closers line := by simpa only [P, List.count_nil, Nat.add_zero] using hst

lemma resolveNested_of_declared {c : Command} (hc : c.Declared) {call call' : String → Run String}
    {text : String} (h : AtMostClosers I (closers text) (call text) (call' text)) :
    AtMostClosers I (closers text + 1)
      (c.resolveNested call text) (c.resolveNested call' text) := by
  refine hc.resolveNested_tied ⟨rfl, Nat.le_of_eq (closers_literal text)⟩ (h.mono ?_)
  rintro a b ⟨hab, ha⟩
  exact ⟨hab, by omega⟩

lemma Restrained.within_succ (hI : Restrained types I) {beyond beyond' : String → Run String}
    {k : Nat} {line : String}
    (h : ∀ text, closers text < closers line →
      AtMostClosers I (closers text) (within beyond k text) (within beyond' k text)) :
    AtMostClosers I (closers line) (within beyond (k + 1) line) (within beyond' (k + 1) line) := by
  apply within_succ_tied
  intro r c hr hc
  have hdeclared := hI.declared r _ c hr hc
  have hparameters := closers_parameterText_le line
  rw [hdeclared.clone_eq]
  refine Command.run_tied_of_confined
    (U := fun tokens => closersOf tokens ≤ closers (parameterText line)) hdeclared hI.types_eq ?_ ?_
  · apply scan_tied_of_fewer c.maxDepth
    intro text htext
    exact resolveNested_of_declared hdeclared (h text (Nat.lt_of_lt_of_le htext hparameters))
  · intro tokens r' htokens hr'
    apply (hI.answer r _ c hr hc tokens _ r' hr').mono
    intro text htext
    omega

lemma Restrained.within_of_le (hI : Restrained types I) (beyond beyond' : String → Run String)
    {n : Nat} {line : String} (h : closers line ≤ n) :
    AtMostClosers I (closers line) (within beyond (n + 1) line) (within beyond' (n + 1) line) := by
  -- The text of a closed group lacks the brace that closes it, so the line has one more.
  induction n generalizing line with
  | zero => exact hI.within_succ fun text htext => by omega
  | succ n ih => exact hI.within_succ fun text htext => ih (by omega)

end Fewer

end LineShell
