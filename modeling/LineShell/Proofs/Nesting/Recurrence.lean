import LineShell.Proofs.Nesting.Limit

/-! Commands whose answers are groups again. Spliced into a line they make a line that is executed
anew, so that no limit on the groups of one text bounds the lines under way at once. -/

namespace LineShell

open Run

variable {maxDepth : Nat}

def pairLine (inner : Char) : String :=
  String.ofList ['g', ' ', '\x7b', 'g', ' ', '\x7b', inner, '\x7d', '\x7d']

lemma plainRegistry_sealed (maxDepth : Nat) {commands : List Command}
    (h : ∀ c ∈ commands, ∃ name action hname, c = plainCommand maxDepth name action hname ∧
      ∀ p, (action p).ReadsOnly) : (plainRegistry maxDepth commands).Sealed maxDepth := by
  intro name c hc
  obtain ⟨c', hc', heq⟩ := List.mem_map.mp (Entries.mem_of_get? hc)
  obtain ⟨-, rfl⟩ := Prod.mk.inj heq
  obtain ⟨name, action, hname, rfl, hreads⟩ := h c' hc'
  refine ⟨plainCommand_declared maxDepth hname action, rfl, ?_⟩
  rintro (e | p)
  · trivial
  · exact hreads p

lemma plainCommand_resolveNested {name : String} (hname : isWord name = true)
    (action : BoundParameters → Script) (call : String → Run String) (text : String) (s : Session) :
    (plainCommand maxDepth name action hname).resolveNested call text s =
      (Command.substitute text (call text s).1, (call text s).2) :=
  Command.orLiteral_apply text (call text) s

lemma dispatch_plain {s : Session} {name line : String} {hname : isWord name = true}
    {action : BoundParameters → Script}
    (hc : s.registry.get? name = some (plainCommand maxDepth name action hname))
    (hl : leadingWord line = name) (hb : Text.isBlankText line = false) :
    s.registry.dispatch line = .ok (plainCommand maxDepth name action hname) :=
  Registry.dispatch_of_get? (c := plainCommand maxDepth name action hname) hc hl hb

lemma within_constant {s : Session} {name answer : String} {hname : isWord name = true}
    (hc : s.registry.get? name = some (plainCommand maxDepth name (fun _ => .done answer) hname))
    (ht : s.telemetry.enabled = false) (hl : leadingWord name = name)
    (hp : parameterText name = "") (hb : Text.isBlankText name = false)
    (beyond : String → Run String) (k : Nat) :
    within beyond (k + 1) name s = (.ok answer, s.record (.acted name ⟨[], [], [], ""⟩)) := by
  have hanswers : (plainCommand maxDepth name (fun _ => .done answer) hname).answersTo name
      = true := by
    simp only [Command.answersTo, hl, plainCommand, beq_self_eq_true]
  rw [within_succ_apply beyond k (dispatch_plain hc hl hb), inSpan_of_disabled ht]
  change (plainCommand maxDepth name (fun _ => .done answer) hname).run _ name s = _
  rw [Command.run_eq]
  simp only [Command.readLine, hb, hanswers, hp, if_true, if_false, Bool.false_eq_true]
  rfl

lemma reaches_of_ne_one (h : maxDepth ≠ 1) {openGroups : Nat} (ho : openGroups ≤ 1) :
    Scan.reaches maxDepth openGroups = false := by
  simp only [Scan.reaches, Bool.and_eq_false_iff, decide_eq_false_iff_not]
  omega

lemma scan_pair (h : maxDepth ≠ 1) {c : Char} (hopen : c ≠ '\x7b') (hclose : c ≠ '\x7d')
    (resolve : String → Run String) :
    scan maxDepth resolve (parameterText (pairLine c)) = (do
      let a ← resolve (String.ofList [c])
      let b ← resolve ("g " ++ a)
      pure (.ok [b])) := by
  have hline : (parameterText (pairLine c)).toList =
      [' ', '\x7b', 'g', ' ', '\x7b', c, '\x7d', '\x7d'] := by
    rw [parameterText, pairLine, String.toList_ofList, String.toList_ofList]
    rfl
  have hfirst := reaches_of_ne_one h (Nat.zero_le 1)
  have hsecond := reaches_of_ne_one h (Nat.le_refl 1)
  have happend : ∀ a, "g" ++ (" " ++ a) = "g " ++ a := fun a => by
    rw [← String.append_assoc]
    rfl
  simp only [scan, hline, Scan.run, Scan.step, Scan.bareStep, Scan.State.start, hfirst]
  simp [Scan.groupedStep, Scan.addWord, hsecond, Scan.closeGroup, Scan.textOf, happend, hopen,
    hclose, Except.map, Scan.State.finish]

def Failure.Passes (f : Failure) : Prop :=
  ∀ text, Command.substitute text (.error f) = .error f

lemma passes_raised (kind message : String) : (Failure.raised kind message).Passes :=
  fun _ => rfl

lemma within_pair_error (h : maxDepth ≠ 1) {s : Session} {action : BoundParameters → Script}
    (hg : s.registry.get? "g" = some (plainCommand maxDepth "g" action))
    (ht : s.telemetry.enabled = false) {c : Char} (hopen : c ≠ '\x7b') (hclose : c ≠ '\x7d')
    {beyond : String → Run String} {k : Nat} {f : Failure} (hf : f.Passes)
    (hrun : (within beyond k (String.ofList [c]) s).1 = .error f ∨
      ∃ a t, within beyond k (String.ofList [c]) s = (.ok a, t) ∧
        (within beyond k ("g " ++ a) t).1 = .error f) :
    (within beyond (k + 1) (pairLine c) s).1 = .error f := by
  have hl : leadingWord (pairLine c) = "g" := by
    rw [leadingWord, pairLine, String.toList_ofList]
    rfl
  have hb : Text.isBlankText (pairLine c) = false := by
    rw [Text.isBlankText, pairLine, String.toList_ofList]
    rfl
  have hanswers : (plainCommand maxDepth "g" action).answersTo (pairLine c) = true := by
    simp only [Command.answersTo, hl, plainCommand, beq_self_eq_true]
  rw [within_succ_apply beyond k (dispatch_plain hg hl hb), inSpan_of_disabled ht]
  apply Command.run_error hb hanswers
  change (scan (maxDepth : Int) ((plainCommand maxDepth "g" action).resolveNested _) _ s).1 = _
  rw [scan_pair h hopen hclose]
  rcases hrun with hinner | ⟨a, t, hinner, houter⟩
  · apply bind_error
    rw [plainCommand_resolveNested, hinner, hf]
  · rw [bind_apply, plainCommand_resolveNested, hinner]
    apply bind_error
    rw [plainCommand_resolveNested, houter, hf]

lemma not_commandsLive {k : Nat} {line : String} {s : Session}
    (h : ∀ f : Failure, f.Passes → (within (found fun _ _ => throw f) k line s).1 = .error f) :
    ¬ CommandsLiveAtMost k line s := by
  intro hlive
  have hfirst := h (.raised "first" "") (passes_raised _ _)
  have hsecond := h (.raised "second" "") (passes_raised _ _)
  rw [hlive _ (fun _ _ => throw (.raised "second" "")), hsecond] at hfirst
  simp at hfirst

def recurrentRegistry (maxDepth : Nat) : Registry :=
  plainRegistry maxDepth [plainCommand maxDepth "g" fun _ => .done "\x7bg \x7bg\x7d\x7d"]

lemma recurrentRegistry_sealed (maxDepth : Nat) :
    (recurrentRegistry maxDepth).Sealed maxDepth := by
  apply plainRegistry_sealed maxDepth
  intro c hc
  exact ⟨_, _, _, List.mem_singleton.mp hc, fun _ => trivial⟩

lemma recurrent_fails (h : maxDepth ≠ 1) {f : Failure} (hf : f.Passes) (k : Nat) {s : Session}
    (hr : s.registry = recurrentRegistry maxDepth) (ht : s.telemetry.enabled = false) :
    (within (found fun _ _ => throw f) k (pairLine 'g') s).1 = .error f := by
  have hg : s.registry.get? "g"
      = some (plainCommand maxDepth "g" fun _ => .done "\x7bg \x7bg\x7d\x7d") := by
    rw [hr]
    rfl
  have hpair : leadingWord (pairLine 'g') = "g" := by cbv
  have hname : leadingWord "g" = "g" := by cbv
  induction k generalizing s with
  | zero =>
    simp only [within]
    rw [found_apply _ (dispatch_plain hg hpair (by cbv))]
    rfl
  | succ k ih =>
    apply within_pair_error h hg ht (by decide) (by decide) hf
    cases k with
    | zero =>
      -- the only level left is that of the line itself: its inner group is beyond
      left
      change (found _ "g" s).1 = _
      rw [found_apply _ (dispatch_plain hg hname (by cbv))]
      rfl
    | succ k =>
      right
      refine ⟨_, _, within_constant hg ht hname (by cbv) (by cbv) _ k, ?_⟩
      exact ih (s := s.record (.acted "g" ⟨[], [], [], ""⟩)) hr ht hg

def relayRegistry : Registry :=
  plainRegistry 2 [plainCommand 2 "g" fun p => .done (" ".intercalate p.tokens),
    plainCommand 2 "h" fun _ => .done "\x7bg \x7bk\x7d\x7d",
    plainCommand 2 "k" fun _ => .done "\x7bl\x7d", plainCommand 2 "l" fun _ => .done "x"]

lemma relay_fails {f : Failure} (hf : f.Passes) {s : Session}
    (hr : s.registry = relayRegistry) (ht : s.telemetry.enabled = false) :
    (within (found fun _ _ => throw f) 1 "g \x7bl\x7d" s).1 = .error f := by
  have hg : s.registry.get? "g"
      = some (plainCommand 2 "g" fun p => .done (" ".intercalate p.tokens)) := by
    rw [hr]
    rfl
  have hl : s.registry.get? "l" = some (plainCommand 2 "l" fun _ => .done "x") := by
    rw [hr]
    rfl
  have hline : leadingWord "g \x7bl\x7d" = "g" := by cbv
  have hname : leadingWord "l" = "l" := by cbv
  rw [within_succ_apply _ _ (dispatch_plain hg hline (by cbv)), inSpan_of_disabled ht]
  apply Command.run_error (by cbv) (by cbv)
  have hscan : ∀ resolve : String → Run String,
      scan 2 resolve (parameterText "g \x7bl\x7d") = (do
        let a ← resolve "l"
        pure (.ok [a])) := by
    intro resolve
    have htext : (parameterText "g \x7bl\x7d").toList = [' ', '\x7b', 'l', '\x7d'] := by cbv
    simp [scan, htext, Scan.run, Scan.step, Scan.bareStep, Scan.State.start, Scan.reaches,
      Scan.groupedStep, Scan.addWord, Scan.closeGroup, Scan.textOf, Except.map, Scan.State.finish]
  change (scan 2 ((plainCommand 2 "g" _).resolveNested _) _ s).1 = _
  rw [hscan]
  apply bind_error
  rw [plainCommand_resolveNested]
  change Command.substitute _ (found _ "l" s).1 = _
  rw [found_apply _ (dispatch_plain hl hname (by cbv))]
  exact hf "l"

/-- The nesting limit bounds the lines under way at once, and with them the levels of spans, if it
is 1. Any other limit leaves them without a bound. -/
theorem sealed_live_iff (maxDepth : Nat) :
    ((∀ (s : Session) line, s.registry.Sealed maxDepth →
      CommandsLiveAtMost (maxDepth + 1) line s) ↔ maxDepth = 1) ∧
    (maxDepth ≠ 1 → ∃ (s : Session) (line : String), s.registry.Sealed maxDepth ∧
      ∀ k, ¬ CommandsLiveAtMost k line s) ∧
    (maxDepth = 1 → ∀ (i : Interpreter) line, i.session.registry.Sealed maxDepth →
      i.session.telemetry.enabled = true → ∀ o, (i.execute line).1 = .ok o →
        ∃ span : Span,
          o.meta? = some [("telemetry", span.toDatum i.session.telemetry.time)] ∧
          span.height ≤ maxDepth + 1) := by
  have hunbounded : ∀ k, maxDepth ≠ 1 →
      ¬ CommandsLiveAtMost k (pairLine 'g') (.start (recurrentRegistry maxDepth)) :=
    fun k h => not_commandsLive fun f hf => recurrent_fails h hf k rfl rfl
  have hsealed := recurrentRegistry_sealed maxDepth
  refine ⟨⟨fun h => ?_, ?_⟩, fun h => ?_, ?_⟩
  · by_cases hd : maxDepth = 1
    · exact hd
    · have hlive := h (.start (recurrentRegistry maxDepth)) (pairLine 'g') hsealed
      exact absurd hlive (hunbounded (maxDepth + 1) hd)
  · rintro rfl s line h
    exact (h.liveAtMost_two line).commands
  · exact ⟨.start (recurrentRegistry maxDepth), pairLine 'g', hsealed, fun k => hunbounded k h⟩
  · rintro rfl i line h henabled o ho
    have hopened : (i.opened line).registry.Sealed 1 := h
    have hlive := hopened.liveAtMost_two line
    rcases Nat.le_total i.budget 2 with hbudget | hbudget
    · obtain ⟨span, hmeta, hheight⟩ := Interpreter.exists_span_le henabled rfl ho
      exact ⟨span, hmeta, hheight.trans hbudget⟩
    · exact Interpreter.exists_span_le henabled (hlive.execute_eq hbudget) ho

def recurrentInterpreter : Interpreter :=
  Interpreter.setTelemetry ⟨.start (recurrentRegistry 1), .empty [], defaultBudget⟩ true

theorem recurrent_live_of_one :
    (recurrentRegistry 1).Sealed 1 ∧
      CommandsLiveAtMost 2 "g \x7bg\x7d" (.start (recurrentRegistry 1)) ∧
      recurrentInterpreter.session.telemetry.enabled = true ∧
      ∃ o, (recurrentInterpreter.execute "g \x7bg\x7d").1 = .ok o ∧
        ∃ span : Span, o.meta? = some [("telemetry", span.toDatum fun _ => 0)] ∧
          span.height ≤ 2 := by
  have hsealed := recurrentRegistry_sealed 1
  obtain ⟨hiff, -, hspan⟩ := sealed_live_iff 1
  obtain ⟨o, ho⟩ : ∃ o, (recurrentInterpreter.execute "g \x7bg\x7d").1 = .ok o :=
    ⟨_, rfl⟩
  exact ⟨hsealed, hiff.mpr rfl (.start (recurrentRegistry 1)) _ hsealed, rfl, o, ho,
    hspan rfl recurrentInterpreter _ hsealed rfl o ho⟩

/-- Under the limit 2 a line has four commands under way at once, one more than the limit and the
line itself account for. -/
theorem relay_not_live_three :
    relayRegistry.Sealed 2 ∧ ¬ CommandsLiveAtMost 3 (pairLine 'h') (.start relayRegistry) := by
  refine ⟨plainRegistry_sealed 2 fun c hc => ?_, not_commandsLive fun f hf => ?_⟩
  · simp only [List.mem_cons, List.not_mem_nil, or_false] at hc
    rcases hc with rfl | rfl | rfl | rfl <;> exact ⟨_, _, _, rfl, fun _ => trivial⟩
  · refine within_pair_error (by decide) rfl rfl (by decide) (by decide) hf (.inr ⟨_, _,
      within_constant rfl rfl (by cbv) (by cbv) (by cbv) _ 1, ?_⟩)
    change (within _ 2 (pairLine 'k') _).1 = _
    refine within_pair_error (by decide) rfl rfl (by decide) (by decide) hf (.inr ⟨_, _,
      within_constant rfl rfl (by cbv) (by cbv) (by cbv) _ 0, ?_⟩)
    exact relay_fails hf rfl rfl

end LineShell
