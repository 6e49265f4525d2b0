import LineShell.Proofs.Nesting.Core
import LineShell.Proofs.Scan.Literal

namespace LineShell

open Run LineShell.Text

lemma Registry.delegate_of_create {r r' : Registry} {d : Definition Script} {c : Command}
    (h : r.create d = .ok (c, r')) (hnested : d.nested.getD r.nested = false) :
    c.delegate = .none := by
  obtain ⟨hbuild, -⟩ := create_eq_ok h
  obtain ⟨action, arity, hname, harity, -, rfl⟩ := build_eq_ok hbuild
  simp [hnested]

namespace Command

variable {c : Command} {call : String → Run String}

lemma resolveNested_of_none (hc : c.delegate = .none) :
    c.resolveNested call = fun text => pure (literal text) := by
  funext text
  simp only [resolveNested, hc]

lemma run_of_scan {line : String} {tokens : List String} (hname : leadingWord line = c.name)
    (hblank : isBlankText line = false)
    (hscan : scan c.maxDepth (c.resolveNested call) (parameterText line) = pure (.ok tokens))
    (s : Session) :
    c.run call line s =
      c.settle call (bind (s.typesOf c) c.parameters tokens (parameterText line)) s := by
  have hanswers : c.answersTo line = true := by simp [answersTo, hname]
  rw [run_eq, readLine, if_neg (by simp [hblank]), if_pos hanswers, readTokens, hscan]
  rfl

end Command

/-- A command without a delegate executes nothing on the way to its answer. Each outermost group
is a token as it is written, and the tokens together are the text without what delimits and
separates. -/
theorem unnested_run_keeps_text :
    (∀ (r r' : Registry) (d : Definition Script) (c : Command),
      r.create d = .ok (c, r') → d.nested.getD r.nested = false → c.delegate = .none) ∧
    ∀ (c : Command) (text : String), c.delegate = .none → Scan.Closed text →
      (c.maxDepth = 0 ∨ Scan.depth text ≤ c.maxDepth) →
      ∃ tokens,
        (∀ call, scan c.maxDepth (c.resolveNested call) text = pure (.ok tokens)) ∧
        (∀ call line s, leadingWord line = c.name → parameterText line = text →
          isBlankText line = false →
          c.run call line s =
            c.settle call (bind (s.typesOf c) c.parameters tokens text) s) ∧
        (∀ before rest, text = before ++ "\x7b" ++ rest → Scan.OpensGroup before →
          ∃ inner after earlier later, rest = inner ++ "\x7d" ++ after ∧ Scan.IsBody inner ∧
            (∀ call, scan c.maxDepth (c.resolveNested call) before = pure (.ok earlier)) ∧
            tokens = earlier ++ ("\x7b" ++ inner ++ "\x7d") :: later) ∧
        String.join tokens = Scan.kept text := by
  refine ⟨fun r r' d c => Registry.delegate_of_create, fun c text hc hclosed hdepth => ?_⟩
  have hscan : ∀ line, (c.maxDepth = 0 ∨ Scan.depth line ≤ c.maxDepth) → ∀ call,
      scan c.maxDepth (c.resolveNested call) line =
        pure (.ok (line.toList.foldl Scan.literally .start).finish) := by
    intro line h call
    rw [Command.resolveNested_of_none hc]
    exact Scan.scan_literal h
  refine ⟨(text.toList.foldl Scan.literally .start).finish, hscan text hdepth, ?_, ?_,
    Scan.join_finish hclosed⟩
  · rintro call line s hname rfl hblank
    exact Command.run_of_scan hname hblank (hscan _ hdepth call) s
  · rintro before rest rfl hopens
    obtain ⟨inner, after, rfl, hbody⟩ := Scan.exists_body hopens hclosed
    have hbefore : c.maxDepth = 0 ∨ Scan.depth before ≤ c.maxDepth := by
      refine hdepth.imp_right fun h => le_trans ?_ h
      rw [String.append_assoc]
      exact Scan.depth_le_append before _
    exact ⟨inner, after, _, _, rfl, hbody, hscan before hbefore,
      Scan.finish_of_group hopens hbody after⟩

def plainDefinition : Definition Script :=
  ⟨"show", some fun _ => .done "shown", [], "", some 2, some false, none⟩

def crowded : String := " x\x7bb \x7b\"c\x7d\x7bd\x7dy\"z w\"\x7d"

theorem crowded_kept :
    ∃ c r, (Registry.empty .builtin 3 true).create plainDefinition = .ok (c, r) ∧
      Scan.Closed crowded ∧ (c.maxDepth = 0 ∨ Scan.depth crowded ≤ c.maxDepth) ∧
      ∃ tokens, (∀ call, scan c.maxDepth (c.resolveNested call) crowded = pure (.ok tokens)) ∧
        String.join tokens = "x\x7bb \x7b\"c\x7d\x7bd\x7dyz w\x7d" := by
  obtain ⟨c, hcreate⟩ : ∃ c : Command,
      (Registry.empty .builtin 3 true).create plainDefinition =
        .ok (c, { Registry.empty .builtin 3 true with commands := [(c.name, c)] }) ∧
      c.maxDepth = 2 := ⟨_, rfl, rfl⟩
  obtain ⟨hcreate, hlimit⟩ := hcreate
  have hclosed : Scan.Closed crowded := by decide
  have hdepth : c.maxDepth = 0 ∨ Scan.depth crowded ≤ c.maxDepth := by
    rw [hlimit]
    decide
  obtain ⟨hdelegate, hkept⟩ := unnested_run_keeps_text
  obtain ⟨tokens, hscan, -, -, hjoin⟩ :=
    hkept c crowded (hdelegate _ _ _ _ hcreate rfl) hclosed hdepth
  refine ⟨c, _, hcreate, hclosed, hdepth, tokens, hscan, hjoin.trans ?_⟩
  decide

end LineShell
