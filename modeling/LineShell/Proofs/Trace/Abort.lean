import LineShell.Proofs.Run.Dispatch
import LineShell.Proofs.Trace.Account

namespace LineShell

open Watched LineShell.Text

def Aborts : Account := fun _ marks failure t =>
  ∀ before f u after, marks = before ++ .answered (.error f) u :: after → f.Known →
    failure = some f ∧ SameWork t u ∧ ∀ m ∈ after, m = .left ∨ ∃ v, m = .answered (.error f) v

lemma aborts_of_unanswered {marks : List Mark} (h : ∀ o u, .answered o u ∉ marks)
    (s t : Session) (r : Option Failure) : Aborts s marks r t := by
  rintro before f u after rfl
  exact absurd (List.mem_append_cons_self) (h _ u)

lemma eq_of_bracket_eq {a before after : List Mark} {first last m : Mark}
    (h : first :: (a ++ [last]) = before ++ m :: after) (hfirst : first ≠ m) :
    (last = m ∧ after = []) ∨ ∃ before' after', a = before' ++ m :: after' ∧
      after = after' ++ [last] := by
  cases before with
  | nil => exact absurd (List.cons.inj h).1 hfirst
  | cons m' before =>
    have htail : a ++ [last] = before ++ m :: after := (List.cons.inj h).2
    rcases List.eq_nil_or_concat' after with rfl | ⟨after', last', rfl⟩
    · exact .inl ⟨(List.cons.inj (List.append_inj_right' htail rfl)).1, rfl⟩
    · rw [← List.cons_append, ← List.append_assoc] at htail
      obtain ⟨ha, hlast⟩ := List.append_inj' htail rfl
      exact .inr ⟨before, after', ha, by rw [(List.cons.inj hlast).1]⟩

lemma Aborts.bracket {s t s' t' : Session} {a : List Mark} {r r' : Option Failure}
    {first last : Mark} (h : Aborts s a r t) (ht : SameWork t' t)
    (hfirst : ∀ o u, first ≠ .answered o u)
    (hlast : ∀ f u, f.Known → last = .answered (.error f) u → r' = some f ∧ u = t)
    (hinner : ∀ f, f.Known → r = some f →
      r' = some f ∧ (last = .left ∨ ∃ v, last = .answered (.error f) v)) :
    Aborts s' (first :: (a ++ [last])) r' t' := by
  intro before f u after hmarks hf
  rcases eq_of_bracket_eq hmarks (hfirst _ u) with ⟨hm, rfl⟩ | ⟨before', after', ha, rfl⟩
  · obtain ⟨hr', rfl⟩ := hlast f u hf hm
    exact ⟨hr', ht, by rintro m ⟨⟩⟩
  · obtain ⟨hr, hsame, hafter⟩ := h before' f u after' ha hf
    obtain ⟨hr', hm⟩ := hinner f hf hr
    refine ⟨hr', ht.trans hsame, fun m hmem => ?_⟩
    rcases List.mem_append.mp hmem with hmem | hmem
    · exact hafter m hmem
    · rw [List.mem_singleton.mp hmem]
      exact hm

lemma eq_error_of_failure {α : Type} {o : Except Failure α} {f : Failure}
    (h : failure? o = some f) : o = .error f := by
  cases o with
  | ok a => cases h
  | error g => rw [Option.some.inj h]

lemma closed_sameWork (name : String) (s t : Session) : SameWork (closed name s t) t := by
  rw [closed]
  cases s.telemetry.enter? name <;> exact ⟨rfl, rfl, rfl⟩

def Unmarked : Account := fun _ marks _ _ => marks = []

lemma unmarked_threads : Unmarked.Threads where
  quiet _ _ := rfl
  andThen ha hb := by
    rw [Unmarked] at ha hb ⊢
    rw [ha, hb, List.nil_append]
  caught h := h

lemma aborts_law : Aborts.Law Unmarked where
  quiet r _ := aborts_of_unanswered (by simp) _ _ r
  andThen := by
    intro s t u a b r ha hb before f v after h hf
    rcases List.append_eq_append_iff.mp h with ⟨c, hbefore, hb'⟩ | ⟨c, ha', hc⟩
    · exact hb c f v after hb' hf
    · cases c with
      | nil => exact hb [] f v after hc.symm hf
      | cons m c =>
        obtain ⟨rfl, -⟩ := List.cons.inj hc
        cases (ha before f v c ha' hf).1
  threads := unmarked_threads
  script := by
    rintro s a r t rfl
    exact aborts_of_unanswered (by simp) _ _ _
  bound s name found := aborts_of_unanswered (by simp) _ _ _
  group := by
    intro s a t text answer h
    refine h.bracket (.refl t) (by rintro o u ⟨⟩) ?_ ?_
    · rintro f u hf ⟨⟩
      rw [Command.substitute_known text hf]
      exact ⟨rfl, rfl⟩
    · intro f hf hr
      obtain rfl := eq_error_of_failure hr
      rw [Command.substitute_known text hf]
      exact ⟨rfl, .inr ⟨t, rfl⟩⟩
  refused s line f := aborts_of_unanswered (by simp) _ _ _
  inLine := by
    intro s a r t line h
    exact h.bracket (closed_sameWork _ _ _) (by rintro o u ⟨⟩) (by rintro f u hf ⟨⟩)
      fun f hf hr => ⟨hr, .inl rfl⟩

lemma watch_aborts (budget : Nat) (line : String) : Obeys Aborts (watch false budget line) := by
  have hscripts : ∀ n, (∀ line, Obeys Aborts (watch false n line)) →
      ∀ line, Obeys Unmarked ((if false then watch false n else unwatched n) line) :=
    fun _ _ _ _ => rfl
  exact watch_obeys aborts_law hscripts budget line

namespace Command

/-- The groups of the line are resolved without a failure, and the tokens do not bind. -/
def BindFails (call : String → Run String) (c : Command) (line : String) (s t : Session)
    (e : ParameterError) : Prop :=
  isBlankText line = false ∧ c.answersTo line = true ∧
    ∃ tokens,
      scan c.maxDepth (c.resolveNested call) (parameterText line) s = (.ok (.ok tokens), t) ∧
      LineShell.bind (t.typesOf c) c.parameters tokens (parameterText line) = .error e

variable {call : String → Run String} {c : Command} {line : String} {s : Session}

lemma readLine_eq_iff_bindFails {t : Session} {e : ParameterError} :
    c.readLine call line s = (.ok (.error e), t) ↔ c.BindFails call line s t e := by
  have hrefuse : ∀ e' : CommandError,
      (Run.refuse e' : Run (Except ParameterError BoundParameters)) s ≠ (.ok (.error e), t) := by
    rintro e' ⟨⟩
  rw [readLine, BindFails]
  cases isBlankText line with
  | true => simpa using hrefuse _
  | false =>
    cases c.answersTo line with
    | false => simpa using hrefuse _
    | true =>
      simp only [Bool.false_eq_true, if_false, if_true, true_and, readTokens]
      rw [Run.bind_apply]
      rcases scan c.maxDepth (c.resolveNested call) (parameterText line) s
        with ⟨f | reached | tokens, u⟩
      · exact ⟨by rintro ⟨⟩, by rintro ⟨_, ⟨⟩, -⟩⟩
      · exact ⟨by rintro ⟨⟩, by rintro ⟨_, ⟨⟩, -⟩⟩
      · constructor
        · intro h
          obtain ⟨hbind, rfl⟩ := Prod.mk.inj h
          exact ⟨tokens, rfl, Except.ok.inj hbind⟩
        · rintro ⟨tokens', h, hbind⟩
          obtain ⟨htokens, rfl⟩ := Prod.mk.inj h
          obtain rfl := Except.ok.inj (Except.ok.inj htokens)
          exact congrArg (fun bound => (Except.ok bound, u)) hbind

lemma run_of_bindFails {t : Session} {e : ParameterError} (h : c.BindFails call line s t e) :
    c.run call line s = (c.onParameterError e).run call (t.record (.consulted c.name e)) := by
  rw [run_eq, Run.bind_apply, readLine_eq_iff_bindFails.mpr h]
  rfl

lemma run_of_not_bindFails (h : ∀ t e, ¬ c.BindFails call line s t e)
    (hook override : Option (ParameterError → Script)) :
    { c with hook, override }.run call line s = c.run call line s := by
  have hread : { c with hook, override }.readLine call line = c.readLine call line := rfl
  rw [run_eq, run_eq, hread, Run.bind_apply, Run.bind_apply]
  cases hr : c.readLine call line s with
  | mk o t =>
    match o with
    | .error f => rfl
    | .ok (.error e) => exact absurd (readLine_eq_iff_bindFails.mp hr) (h t e)
    | .ok (.ok p) => rfl

end Command

/-- A group that fails, unless only its command is missing, makes the line that is executed fail
with that failure, whatever hooks there are: nothing is done after it but to end the lines around
it. A command's treatment of failures to bind answers for its own tokens alone. -/
theorem failed_group_aborts :
    (∀ budget line s,
      (watch false budget line s).1 = execute budget line s ∧
        ∀ before f u after,
          (watch false budget line s).2 = before ++ .answered (.error f) u :: after → f.Known →
            (execute budget line s).1 = .error f ∧ SameWork (execute budget line s).2 u ∧
              ∀ m ∈ after, m = .left ∨ ∃ v, m = .answered (.error f) v) ∧
    ∀ (c : Command) call line s,
      (∀ t e, c.BindFails call line s t e →
        c.run call line s = (c.onParameterError e).run call (t.record (.consulted c.name e))) ∧
      ((∀ t e, ¬ c.BindFails call line s t e) →
        ∀ hook override, { c with hook, override }.run call line s = c.run call line s) := by
  refine ⟨fun budget line s => ?_, fun c call line s =>
    ⟨fun t e => Command.run_of_bindFails, Command.run_of_not_bindFails⟩⟩
  have hrun : (watch false budget line s).1 = execute budget line s :=
    congrFun (run_watch false budget line) s
  refine ⟨hrun, fun before f u after hmarks hf => ?_⟩
  obtain ⟨hfailure, hsame, hafter⟩ := watch_aborts budget line s before f u after hmarks hf
  rw [hrun] at hfailure hsame
  exact ⟨eq_error_of_failure hfailure, hsame, hafter⟩

def guide : Command :=
  { friendly.clone with
    name := "guide", delegate := .registry, hook := some fun _ => .done "guide <x:steps>"
    name_isWord := by decide }

def guidedSession : Session :=
  .start ⟨.builtin, [("move", friendly.clone), ("guide", guide)], defaultMaxDepth, true⟩

def misguided : String := "guide \x7bmove\x7d \x7bmove 1\x7d"

def strayed : Session :=
  guidedSession.record (.consulted "move" (.missing "x"))

def moveMarks : List Mark :=
  [.entered "move", .bound "move" (.error (.missing "x")), .left]

lemma move_watch :
    watch false 1 "move" guidedSession
      = ((.error (.parameter (.missing "x")), strayed), moveMarks) := by
  cbv

lemma misguided_watchLine :
    guide.watchLine (watch false 1) (unwatched 1) misguided guidedSession =
      ((.error (.parameter (.missing "x")), strayed),
        .asked "move" ::
          (moveMarks ++ [.answered (.error (.parameter (.missing "x"))) strayed])) := by
  have hb : isBlankText misguided = false := by cbv
  have hanswers : guide.answersTo misguided = true := by cbv
  have htext : (parameterText misguided).toList
      = [' ', '\x7b', 'm', 'o', 'v', 'e', '\x7d', ' ', '\x7b', 'm', 'o', 'v', 'e', ' ', '1',
        '\x7d'] := by
    cbv
  have hgroup : guide.watchNested (watch false 1) (unwatched 1) "move" guidedSession =
      ((.error (.parameter (.missing "x")), strayed),
        .asked "move" ::
          (moveMarks ++ [.answered (.error (.parameter (.missing "x"))) strayed])) := by
    rw [Command.watchNested_of_registry rfl, move_watch]
    rfl
  simp only [Command.watchLine, hb, hanswers, Command.watchTokens, scan, htext, if_true, if_false,
    Bool.false_eq_true]
  -- The scan up to the first group is one evaluation, and what follows the group is not reached.
  exact bind_of_error (bind_of_error (bind_of_error hgroup _) _) _

lemma misguided_watch :
    (watch false 2 misguided guidedSession).2 =
      (.entered misguided :: .asked "move" :: moveMarks) ++
        .answered (.error (.parameter (.missing "x"))) strayed :: [.left] := by
  have hb : isBlankText misguided = false := by cbv
  have hl : leadingWord misguided = guide.name := by cbv
  have hd : guidedSession.registry.dispatch misguided = .ok guide :=
    Registry.dispatch_of_get? rfl hl hb
  have hopened : opened ("execute:" ++ leadingWord misguided) [("line", .string misguided)]
      guidedSession = guidedSession := rfl
  have hclone : guide.clone = guide := rfl
  rw [watch_succ_apply false 1 hd, inLine_apply, hclone]
  dsimp only
  rw [hopened, Command.watch, if_neg (by simp), bind_of_error misguided_watchLine]
  rfl

lemma misguided_not_bindFails (t : Session) (e : ParameterError) :
    ¬ guide.BindFails (execute 1) misguided guidedSession t e := by
  have hread : (guide.readLine (execute 1) misguided guidedSession).1
      = .error (.parameter (.missing "x")) := by
    have hcall : ∀ line, (unwatched 1 line).run = execute 1 line := fun _ => rfl
    rw [← guide.run_watchLine (run_watch false 1) hcall]
    exact congrArg (fun w => w.1.1) misguided_watchLine
  intro h
  rw [Command.readLine_eq_iff_bindFails.mpr h] at hread
  cases hread

lemma guide_bindFails :
    guide.BindFails (execute 1) "guide" guidedSession guidedSession (.missing "x") := by
  have htext : (parameterText "guide").toList = [] := by cbv
  refine ⟨by cbv, by cbv, [], ?_, rfl⟩
  rw [scan, htext]
  rfl

theorem failed_group_skips_hook :
    ((watch false 2 misguided guidedSession).2 =
        (.entered misguided :: .asked "move" :: moveMarks) ++
          .answered (.error (.parameter (.missing "x"))) strayed :: [.left] ∧
      Failure.Known (.parameter (.missing "x")) ∧
      (execute 2 misguided guidedSession).1 = .error (.parameter (.missing "x")) ∧
      (execute 2 misguided guidedSession).2.journal = [.consulted "move" (.missing "x")]) ∧
    (guide.BindFails (execute 1) "guide" guidedSession guidedSession (.missing "x") ∧
      (guide.run (execute 1) "guide" guidedSession).1 = .ok "guide <x:steps>") ∧
    (∀ t e, ¬ guide.BindFails (execute 1) misguided guidedSession t e) ∧
      ({ guide with hook := none, override := none } : Command).run (execute 1) misguided
        guidedSession = guide.run (execute 1) misguided guidedSession := by
  have hknown : Failure.Known (.parameter (.missing "x")) := by rintro name ⟨⟩
  obtain ⟨hlines, hruns⟩ := failed_group_aborts
  obtain ⟨-, haborts⟩ := hlines 2 misguided guidedSession
  obtain ⟨hfailure, hsame, -⟩ := haborts _ _ _ _ misguided_watch hknown
  obtain ⟨hconsulted, -⟩ := hruns guide (execute 1) "guide" guidedSession
  obtain ⟨-, hspared⟩ := hruns guide (execute 1) misguided guidedSession
  have hhelp : (guide.run (execute 1) "guide" guidedSession).1 = .ok "guide <x:steps>" := by
    rw [hconsulted _ _ guide_bindFails]
    rfl
  exact ⟨⟨misguided_watch, hknown, hfailure, hsame.journal⟩, ⟨guide_bindFails, hhelp⟩,
    misguided_not_bindFails, hspared misguided_not_bindFails none none⟩

end LineShell
