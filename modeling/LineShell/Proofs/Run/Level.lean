import LineShell.Proofs.Run.Scripts

/-! How many executed lines are under way at once. The first levels of a run are kept and the lines
below them are left to a function; the run stays within those levels if the function is never
asked. -/

namespace LineShell

open Run

lemma Registry.dispatch_of_get? {r : Registry} {c : Command} {line : String}
    (hc : r.get? c.name = some c) (hl : leadingWord line = c.name)
    (hb : Text.isBlankText line = false) : r.dispatch line = .ok c := by
  simp only [Registry.dispatch, hb, hl, hc, if_false, Bool.false_eq_true]

/-- Executes a line with its nested lines on so many levels. What a line of the last of them
executes is left to `beyond`. -/
def within (beyond : String → Run String) : Nat → String → Run String
  | 0, line => beyond line
  | k + 1, line => do
    let c ← ofExcept ((← registry).dispatch line)
    inSpan ("execute:" ++ leadingWord line) [("line", .string line)]
      (c.clone.run (within beyond k) line)

lemma within_succ_apply (beyond : String → Run String) (k : Nat) {line : String} {s : Session}
    {c : Command} (hc : s.registry.dispatch line = .ok c) :
    within beyond (k + 1) line s =
      inSpan ("execute:" ++ leadingWord line) [("line", .string line)]
        (c.clone.run (within beyond k) line) s := by
  simp only [within]
  rw [registry_bind, hc]
  rfl

lemma execute_add (n k : Nat) : execute (n + k) = within (execute n) k := by
  induction k with
  | zero => rfl
  | succ k ih =>
    funext line
    rw [← Nat.add_assoc, execute]
    simp only [within, ih]

lemma execute_of_dispatch_error {line : String} {s : Session} {e : CommandError}
    (h : s.registry.dispatch line = .error e) (budget : Nat) :
    execute budget line s = (.error (.command e), s) := by
  rw [execute, registry_bind, h]
  rfl

lemma execute_zero_apply {line : String} {s : Session} {c : Command}
    (h : s.registry.dispatch line = .ok c) : execute 0 line s = (.error .tooDeep, s) := by
  rw [execute, registry_bind, h]
  rfl

lemma execute_succ_apply {n : Nat} {line : String} {s : Session} {c : Command}
    (h : s.registry.dispatch line = .ok c) :
    execute (n + 1) line s =
      inSpan ("execute:" ++ leadingWord line) [("line", .string line)]
        (c.clone.run (execute n) line) s := by
  rw [execute, registry_bind, h]
  rfl

/-- At most so many lines are under way at once, those included that name no command. -/
def LiveAtMost (k : Nat) (line : String) (s : Session) : Prop :=
  ∀ beyond beyond', within beyond k line s = within beyond' k line s

def found (f : Command → String → Run String) (line : String) : Run String := do
  let c ← ofExcept ((← registry).dispatch line)
  f c line

lemma found_apply (f : Command → String → Run String) {line : String} {s : Session} {c : Command}
    (hc : s.registry.dispatch line = .ok c) : found f line s = f c line s := by
  rw [found, registry_bind, hc]
  rfl

/-- At most so many lines of registered commands are under way at once. -/
def CommandsLiveAtMost (k : Nat) (line : String) (s : Session) : Prop :=
  ∀ f f', within (found f) k line s = within (found f') k line s

lemma LiveAtMost.commands {k : Nat} {line : String} {s : Session} (h : LiveAtMost k line s) :
    CommandsLiveAtMost k line s :=
  fun _ _ => h _ _

lemma LiveAtMost.execute_eq {k budget : Nat} {line : String} {s : Session}
    (h : LiveAtMost k line s) (hb : k ≤ budget) : execute budget line s = execute k line s := by
  obtain ⟨n, rfl⟩ := Nat.exists_eq_add_of_le' hb
  rw [execute_add n k]
  calc within (execute n) k line s
      = within (execute 0) k line s := h _ _
    _ = execute (0 + k) line s := by rw [execute_add]
    _ = execute k line s := by rw [Nat.zero_add]

section Tied

variable {R : Session → Session → Prop} (hR : Tied.Stable R)
  (hleft : ∀ ⦃s t⦄, R s t → ∀ u, R { s with telemetry := u } t)
  (hright : ∀ ⦃s t⦄, R s t → ∀ u, R s { t with telemetry := u })

include hR hleft hright

lemma within_tied {beyond beyond' : String → Run String}
    (hbeyond : ∀ line, Tied R Eq (beyond line) (beyond' line)) (k : Nat) (line : String) :
    Tied R Eq (within beyond k line) (within beyond' k line) := by
  induction k generalizing line with
  | zero => exact hbeyond line
  | succ k ih =>
    refine (Tied.registry hR.registry).bind_eq fun r => (Tied.ofExcept _).bind_eq fun c => ?_
    exact .inSpan_left hleft (.inSpan_right hright (Command.run_tied hR ih c.clone line))

lemma execute_tied (budget : Nat) (line : String) :
    Tied R Eq (execute budget line) (execute budget line) := by
  have h0 : ∀ line, Tied R Eq (execute 0 line) (execute 0 line) := fun line =>
    (Tied.registry hR.registry).bind_eq fun r => (Tied.ofExcept _).bind_eq fun _ => .throw _
  rw [← Nat.zero_add budget, execute_add]
  exact within_tied hR hleft hright h0 budget line

end Tied

end LineShell
