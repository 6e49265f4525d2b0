import LineShell.Proofs.Run.Unregistered

/-! A text that stays as it is within a group and gives a nested line outside of groups. Without a
nesting limit it descends as many levels as it has such lines, whatever the budget is. -/

namespace LineShell

open Run

def descent : Nat → List Char
  | 0 => []
  | k + 1 => '"' :: '\x7b' :: '\x7b' :: '"' :: '\x7d' :: '\x7b' :: 'e' :: 'c' :: 'h' :: 'o' ::
      ' ' :: (descent k ++ ['\x7d'])

def descentLine (k : Nat) : String :=
  String.ofList ('e' :: 'c' :: 'h' :: 'o' :: ' ' :: descent k)

lemma leadingWord_descentLine (k : Nat) : leadingWord (descentLine k) = "echo" := by
  rw [leadingWord, descentLine, String.toList_ofList]
  rfl

structure Bottomless (c : Command) (r : Registry) : Prop where
  name : c.name = "echo"
  found : r.get? "echo" = some c
  delegate : c.delegate = .registry
  maxDepth : c.maxDepth = 0
  quote : r.get? "\"" = none
  quoted : r.get? "\x7b\"\x7d\x7becho" = none

section Bottomless

variable {c : Command} {s : Session}

lemma textOf_descent (k : Nat) :
    Scan.textOf ((descent k).reverse ++ [' ', 'o', 'h', 'c', 'e', '\x7b', '\x7d', '"', '\x7b']) =
      String.ofList ('\x7b' :: '"' :: '\x7d' :: '\x7b' :: 'e' :: 'c' :: 'h' :: 'o' :: ' ' ::
        descent k) := by
  simp [Scan.textOf]

lemma run_frozen (hc : Bottomless c s.registry) (budget k : Nat) (tokens : List String)
    (word group : List Char) (outer : List (List Char)) (closed : Bool) (rest : List Char) :
    ∃ closed', Scan.run c.maxDepth (c.resolveNested (execute budget))
        ⟨tokens, .grouped word group outer, closed⟩ (descent k ++ rest) s =
      Scan.run c.maxDepth (c.resolveNested (execute budget))
        ⟨tokens, .grouped word ((descent k).reverse ++ group) outer, closed'⟩ rest s := by
  induction k generalizing group outer closed rest with
  | zero => exact ⟨closed, rfl⟩
  | succ k ih =>
    -- Neither group has a text that names a command: both are kept as they are, and what is between
    -- them is the next level's text.
    let inner := [' ', 'o', 'h', 'c', 'e', '\x7b', '\x7d', '"', '\x7b']
    have hquote := scan_run_unregistered hc.delegate budget tokens word ['"']
      ([] :: ('"' :: group) :: outer) false (s := s)
      ('\x7b' :: 'e' :: 'c' :: 'h' :: 'o' :: ' ' :: (descent k ++ '\x7d' :: rest)) (by decide)
      hc.quote
    obtain ⟨closed', hinner⟩ := ih inner (('"' :: group) :: outer) false ('\x7d' :: rest)
    have htext := textOf_descent k
    have hblank : Text.isBlankText (Scan.textOf ((descent k).reverse ++ inner)) = false := by
      rw [htext, Text.isBlankText, String.toList_ofList]
      rfl
    have hword : leadingWord (Scan.textOf ((descent k).reverse ++ inner))
        = "\x7b\"\x7d\x7becho" := by
      rw [htext, leadingWord, String.toList_ofList]
      rfl
    have hquoted := scan_run_unregistered hc.delegate budget tokens word
      ((descent k).reverse ++ inner) (('"' :: group) :: outer) closed' rest hblank
      (hword ▸ hc.quoted)
    rw [hc.maxDepth] at hquote hinner hquoted ⊢
    refine ⟨true, ?_⟩
    rw [descent]
    simp only [List.cons_append, List.append_assoc]
    refine Eq.trans ?_ (hquote.trans (Eq.trans ?_ (hinner.trans (hquoted.trans ?_))))
    · rfl
    · rfl
    · rw [htext]
      simp [Scan.closeGroup, String.toList_append]

lemma descentLine_fails (hc : Bottomless c s.registry) (ht : s.telemetry.enabled = false)
    {budget k : Nat} (h : budget ≤ k) :
    (execute budget (descentLine k) s).1 = .error .tooDeep := by
  have hblank : ∀ k, Text.isBlankText (descentLine k) = false := by
    intro k
    rw [Text.isBlankText, descentLine, String.toList_ofList]
    rfl
  have hdispatch : ∀ k, s.registry.dispatch (descentLine k) = .ok c := fun k =>
    Registry.dispatch_of_get? (hc.name ▸ hc.found) (hc.name ▸ leadingWord_descentLine k) (hblank k)
  induction budget generalizing k with
  | zero => rw [execute_zero_apply (hdispatch k)]
  | succ n ih =>
    obtain ⟨k, rfl⟩ : ∃ k', k = k' + 1 := ⟨k - 1, by omega⟩
    have hanswers : c.clone.answersTo (descentLine (k + 1)) = true := by
      simp [Command.answersTo, leadingWord_descentLine, Command.clone, hc.name]
    rw [execute_succ_apply (hdispatch (k + 1)), inSpan_of_disabled ht]
    apply Command.run_error (hblank (k + 1)) hanswers
    have hparameters : (parameterText (descentLine (k + 1))).toList = ' ' :: descent (k + 1) := by
      rw [parameterText, descentLine, String.toList_ofList, String.toList_ofList]
      rfl
    obtain ⟨closed', hfrozen⟩ := run_frozen hc n k ["\x7b\x7b"] ['\x7d']
      [' ', 'o', 'h', 'c', 'e'] [] false ['\x7d']
    have htext : Scan.textOf ((descent k).reverse ++ [' ', 'o', 'h', 'c', 'e'])
        = descentLine k := by
      simp [Scan.textOf, descentLine]
    have hresolve : (c.resolveNested (execute n) (descentLine k) s).1 = .error .tooDeep := by
      simp only [Command.resolveNested, hc.delegate]
      rw [Command.orLiteral_apply, ih (by omega)]
      rfl
    rw [scan, hparameters]
    apply bind_error
    change (Scan.run c.maxDepth (c.resolveNested (execute n)) .start _ s).1 = _
    rw [hc.maxDepth] at hfrozen ⊢
    have hopened : Scan.run (0 : Nat) (c.resolveNested (execute n)) .start
        (' ' :: descent (k + 1)) s = _ := hfrozen
    rw [← htext] at hresolve
    rw [hopened]
    exact bind_error hresolve _

end Bottomless

end LineShell
