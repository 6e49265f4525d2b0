import LineShell.Cli.Program
import LineShell.Proofs.Trace.Muted

/-! The loop over the lines of an input. A line that is due is executed, and its outcome is written
where it belongs; a turn of the loop changes nothing else. -/

namespace LineShell.Cli

open LineShell.Text

section UpTo

variable {α : Type} {p q : α → Bool} {x : α} {l : List α}

def upTo (p : α → Bool) : List α → List α
  | [] => []
  | x :: l => if p x then [x] else x :: upTo p l

lemma upTo_cons_of_pos (h : p x = true) : upTo p (x :: l) = [x] :=
  if_pos h

lemma upTo_cons_of_neg (h : p x = false) : upTo p (x :: l) = x :: upTo p l := by
  rw [upTo, h, if_neg Bool.false_ne_true]

lemma upTo_congr (h : ∀ x ∈ upTo p l, q x = p x) : upTo q l = upTo p l := by
  induction l with
  | nil => rfl
  | cons x l ih =>
    cases hp : p x with
    | true =>
      rw [upTo_cons_of_pos hp] at h ⊢
      exact upTo_cons_of_pos ((h x List.mem_cons_self).trans hp)
    | false =>
      rw [upTo_cons_of_neg hp, List.forall_mem_cons] at h
      rw [upTo_cons_of_neg hp, upTo_cons_of_neg (h.1.trans hp), ih h.2]

lemma upTo_sublist (p : α → Bool) (l : List α) : (upTo p l).Sublist l := by
  induction l with
  | nil => exact .slnil
  | cons x l ih =>
    cases hp : p x with
    | true =>
      rw [upTo_cons_of_pos hp]
      exact (List.nil_sublist l).cons_cons x
    | false =>
      rw [upTo_cons_of_neg hp]
      exact ih.cons_cons x

lemma upTo_of_forall (h : ∀ x ∈ l, p x = false) : upTo p l = l := by
  induction l with
  | nil => rfl
  | cons x l ih =>
    rw [List.forall_mem_cons] at h
    rw [upTo_cons_of_neg h.1, ih h.2]

lemma upTo_eq_self (h : ∀ x ∈ upTo p l, p x = false) : upTo p l = l :=
  (upTo_congr (q := fun _ => false) fun x hx => (h x hx).symm).symm.trans
    (upTo_of_forall fun _ _ => rfl)

lemma upTo_cut {before rest : List α} (h : upTo p l = before ++ x :: rest)
    (hbefore : ∀ y ∈ before, q y = p y) (hx : q x = true) :
    upTo q l = before ++ [x] ∧ ∀ y ∈ before, p y = false := by
  induction l generalizing before with
  | nil => simp [upTo] at h
  | cons z l ih =>
    cases before with
    | nil =>
      have hzx : z = x := by
        cases hp : p z with
        | true =>
          rw [upTo_cons_of_pos hp] at h
          exact List.head_eq_of_cons_eq h
        | false =>
          rw [upTo_cons_of_neg hp] at h
          exact List.head_eq_of_cons_eq h
      rw [hzx, upTo_cons_of_pos hx]
      exact ⟨rfl, by simp⟩
    | cons y before =>
      rw [List.forall_mem_cons] at hbefore
      cases hp : p z with
      | true =>
        rw [upTo_cons_of_pos hp] at h
        simp at h
      | false =>
        rw [upTo_cons_of_neg hp, List.cons_append, List.cons.injEq] at h
        obtain ⟨rfl, htail⟩ := h
        obtain ⟨hcut, hnone⟩ := ih htail hbefore.2
        rw [upTo_cons_of_neg (hbefore.1.trans hp), hcut]
        exact ⟨rfl, List.forall_mem_cons.mpr ⟨hp, hnone⟩⟩

lemma findSome?_upTo {β : Type} (f : α → Option β) (l : List α) :
    l.findSome? f = (upTo (fun x => (f x).isSome) l).findSome? f := by
  induction l with
  | nil => rfl
  | cons x l ih =>
    cases hf : f x with
    | none => rw [upTo_cons_of_neg (by rw [hf]; rfl), List.findSome?_cons, List.findSome?_cons, ih]
    | some y =>
      rw [upTo_cons_of_pos (by rw [hf]; rfl), List.findSome?_cons, List.findSome?_cons, hf]

end UpTo

lemma Step.bind_apply {α β : Type} (x : Step α) (f : α → Step β) (a : App) :
    (x >>= f).run.run a =
      match x.run.run a with
      | (.ok v, b) => (f v).run.run b
      | (.error e, b) => (.error e, b) := by
  have hrun : (x >>= f).run.run a =
      (ExceptT.bindCont f (x.run.run a).1).run (x.run.run a).2 := rfl
  rw [hrun]
  obtain ⟨r, b⟩ := x.run.run a
  cases r <;> rfl

lemma Step.get_apply (a : App) : (get : Step App).run.run a = (.ok a, a) := rfl

namespace App

def put (a : App) (ws : List Written) : App :=
  { a with written := a.written ++ ws }

@[simp] lemma put_nil (a : App) : a.put [] = a := by
  rw [put, List.append_nil]

@[simp] lemma put_put (a : App) (ws vs : List Written) : (a.put ws).put vs = a.put (ws ++ vs) := by
  rw [put, put, put, List.append_assoc]

def told (text : String) : String :=
  dropEscapes (text ++ "\n")

lemma say_run (text : String) (a : App) :
    (say text).run.run a = (.ok (), a.put [.output (told text)]) := rfl

lemma warn_run (text : String) (a : App) :
    (warn text).run.run a = (.ok (), a.put [.trouble (told text)]) := rfl

def current (a : App) : Interpreter × List String :=
  match a.interpreter with
  | some i => (i, a.log)
  | none =>
    let (i, log) := Interpreter.build (some a.settings) none a.files a.log
    ((i.setClock a.time).setTelemetry a.settings.verbose, log)

def ran (a : App) (i : Interpreter) : App :=
  { a with interpreter := some i, log := a.current.2 }

lemma obtainInterpreter_run (a : App) :
    obtainInterpreter.run.run a = (.ok a.current.1, a.ran a.current.1) := by
  obtain ⟨settings, files, time, interactive, interpreter, written, log⟩ := a
  cases interpreter <;> rfl

lemma warnings_run (ws : List String) (a : App) :
    (forIn ws PUnit.unit fun w _ => do
        warn ("WARNING: " ++ w)
        pure (ForInStep.yield PUnit.unit) : Step PUnit).run.run a =
      (.ok PUnit.unit, a.put (ws.map fun w => .trouble (told ("WARNING: " ++ w)))) := by
  induction ws generalizing a with
  | nil => exact congrArg (Prod.mk _) a.put_nil.symm
  | cons w ws ih =>
    rw [List.forIn_cons, Step.bind_apply, Step.bind_apply, warn_run]
    refine (ih (a.put [.trouble (told ("WARNING: " ++ w))])).trans ?_
    rw [put_put]
    rfl

def shownAs (form : OutputSettings) (o : Outcome) (text : String) : List Written :=
  if o.ok then
    .output (told text) ::
      (if form.jsonOutput then []
        else o.warnings.map fun w => .trouble (told ("WARNING: " ++ w)))
  else [.trouble (told text)]

lemma render_run (o : Outcome) (a : App) :
    (render o).run.run a =
      match o.format (outputForm a.settings) with
      | .ok text => (.ok o.ok, a.put (shownAs (outputForm a.settings) o text))
      | .error f => (.error f, a) := by
  rw [render, Step.bind_apply, Step.get_apply]
  dsimp only
  rw [Step.bind_apply]
  cases o.format (outputForm a.settings) with
  | error f => rfl
  | ok text =>
    have hlift : (liftExcept (.ok text)).run.run a = (.ok text, a) := rfl
    rw [hlift]
    dsimp only
    rw [shownAs]
    cases hok : o.ok with
    | false =>
      simp only [Bool.false_eq_true, if_false]
      rw [Step.bind_apply, warn_run]
      rfl
    | true =>
      simp only [if_true]
      rw [Step.bind_apply, say_run]
      dsimp only
      cases (outputForm a.settings).jsonOutput with
      | true => rfl
      | false =>
        simp only [Bool.false_eq_true, if_false]
        rw [Step.bind_apply, warnings_run, put_put]
        rfl

/-- What came of a line with its text, if there is an outcome and it has one. -/
def rendered (form : OutputSettings) (r : Except Failure Outcome) :
    Except Failure (Outcome × String) := do
  let o ← r
  let text ← o.format form
  pure (o, text)

lemma execute_run (line : String) (a : App) :
    (execute line).run.run a =
      let ran := a.current.1.execute line
      match rendered (outputForm a.settings) ran.1 with
      | .ok (o, text) => (.ok o.ok, (a.ran ran.2).put (shownAs (outputForm a.settings) o text))
      | .error f => (.error f, a.ran ran.2) := by
  rw [execute, Step.bind_apply, obtainInterpreter_run]
  dsimp only
  generalize a.current.1.execute line = ran
  obtain ⟨result, i⟩ := ran
  cases result with
  | error f => rfl
  | ok o =>
    have hrender := render_run o (a.ran i)
    refine Eq.trans hrender ?_
    change (match o.format (outputForm a.settings) with
      | .ok text => (.ok o.ok, (a.ran i).put (shownAs (outputForm a.settings) o text))
      | .error f => (.error f, a.ran i) : Except Failure Bool × App) = _
    simp only [rendered, Bind.bind, Except.bind, Pure.pure, Except.pure]
    cases o.format (outputForm a.settings) <;> rfl

end App

namespace Shell

/-- The lines that are due: those that are not blank, up to the first exit word. -/
def due (exitWords lines : List String) : List String :=
  (lines.filter fun line => !(stripped line).isEmpty).takeWhile
    fun line => !exitWords.contains (stripped line)

def succeeded (r : Except Failure Outcome) : Bool :=
  r.toOption.any (·.ok)

def ending (stopOnError : Bool) (form : OutputSettings) (r : Except Failure Outcome) :
    Option (Except Failure Nat) :=
  match App.rendered form r with
  | .ok _ => if !succeeded r && stopOnError then some (.ok 1) else none
  | .error f => some (.error f)

def shown (form : OutputSettings) (r : Except Failure Outcome) : List Written :=
  match App.rendered form r with
  | .ok (o, text) => App.shownAs form o text
  | .error _ => []

lemma eq_ok_of_rendered {form : OutputSettings} {r : Except Failure Outcome} {o : Outcome}
    {text : String} (h : App.rendered form r = .ok (o, text)) :
    r = .ok o ∧ o.format form = .ok text := by
  cases r with
  | error f => cases h
  | ok o' =>
    cases hformat : o'.format form with
    | error f =>
      simp only [App.rendered, Bind.bind, Except.bind, hformat] at h
      cases h
    | ok text' =>
      simp only [App.rendered, Bind.bind, Except.bind, hformat] at h
      cases h
      exact ⟨rfl, hformat⟩

def summary (s : Settings) (failures : Nat) : List Written :=
  if failures ≠ 0 ∧ !s.quiet ∧ !s.jsonOutput then
    [.trouble (App.told (Decimal.natText failures ++ " line(s) failed"))]
  else []

def resultsOf (a : App) (lines : List String) : List (Except Failure Outcome) × Interpreter :=
  a.current.1.run (lines.map .execute)

def advance (a : App) (line : String) : App :=
  (a.ran (a.current.1.execute line).2).put
    (shown (outputForm a.settings) (a.current.1.execute line).1)

lemma resultsOf_cons (a : App) (line : String) (lines : List String) :
    (resultsOf a (line :: lines)).1 =
      (a.current.1.execute line).1 :: (resultsOf (advance a line) lines).1 := rfl

def after (a : App) (lines : List String) (rs : List (Except Failure Outcome)) : App :=
  (if rs.isEmpty then a else a.ran (resultsOf a (lines.take rs.length)).2).put
    (rs.flatMap (shown (outputForm a.settings)))

lemma go_append {l : List Char} (hfeed : '\n' ∉ l) (hreturn : '\r' ∉ l) (line rest : List Char) :
    lines.go line (l ++ rest) = lines.go (l.reverse ++ line) rest := by
  induction l generalizing line with
  | nil => rfl
  | cons c l ih =>
    rw [List.mem_cons, not_or] at hfeed hreturn
    rw [List.cons_append, lines.go, List.reverse_cons, List.append_assoc]
    · simp [Ne.symm hfeed.1, Ne.symm hreturn.1, ih hfeed.2 hreturn.2]
    · rintro _ rfl
      exact (hreturn.1 rfl).elim

lemma lines_append {line : String} (hfeed : '\n' ∉ line.toList) (hreturn : '\r' ∉ line.toList)
    (rest : String) :
    lines (line ++ "\n" ++ rest) = line :: lines rest ∧
      lines (line ++ "\r\n" ++ rest) = line :: lines rest ∧
      (rest.toList.head? ≠ some '\n' → lines (line ++ "\r" ++ rest) = line :: lines rest) ∧
      lines line = if line = "" then [] else [line] := by
  have hstart : ∀ chars, lines.go [] (line.toList ++ chars) = lines.go line.toList.reverse chars :=
    fun chars => by rw [go_append hfeed hreturn, List.append_nil]
  have hline : String.ofList line.toList.reverse.reverse = line := by simp
  refine ⟨?_, ?_, fun hrest => ?_, ?_⟩
  · have hend : lines.go line.toList.reverse ('\n' :: rest.toList) =
        String.ofList line.toList.reverse.reverse :: lines.go [] rest.toList := rfl
    rw [lines, String.toList_append, String.toList_append, List.append_assoc, hstart]
    exact hend.trans (by rw [hline, lines])
  · have hend : lines.go line.toList.reverse ('\r' :: '\n' :: rest.toList) =
        String.ofList line.toList.reverse.reverse :: lines.go [] rest.toList := rfl
    rw [lines, String.toList_append, String.toList_append, List.append_assoc, hstart]
    exact hend.trans (by rw [hline, lines])
  · have hend : lines.go line.toList.reverse ('\r' :: rest.toList) =
        String.ofList line.toList.reverse.reverse :: lines.go [] rest.toList := by
      rw [lines.go]
      · rfl
      · rintro chars - hchars
        exact hrest (by rw [hchars]; rfl)
    rw [lines, String.toList_append, String.toList_append, List.append_assoc, hstart]
    exact hend.trans (by rw [hline, lines])
  · have hend := hstart []
    rw [List.append_nil] at hend
    rw [lines, hend, lines.go, hline]
    simp

lemma close_run {a : App} (h : a.interactive = false) (failures : Nat) :
    (close failures).run.run a =
      (.ok (.ended 0), a.put (summary a.settings failures)) := by
  rw [close, Step.bind_apply, Step.get_apply, summary]
  simp only [h, Bool.false_eq_true, if_false]
  split
  · rfl
  · exact congrArg (Prod.mk _) a.put_nil.symm

lemma prompt_run {a : App} (h : a.interactive = false) : prompt.run.run a = (.ok (), a) := by
  rw [prompt, Step.bind_apply, Step.get_apply]
  simp only [h, Bool.false_eq_true, if_false]
  rfl

section Turn

variable {a : App} {line : String}

lemma turn_run_of_blank (hblank : (stripped line).isEmpty = true) (stopOnError : Bool)
    (failures : Nat) :
    (turn stopOnError failures (some line)).run.run a = (.ok (.next failures), a) := by
  rw [turn]
  simp only [hblank, if_true]
  rfl

lemma turn_run_of_exit (hblank : (stripped line).isEmpty = false)
    (hexit : a.settings.shell.exitWords.contains (stripped line) = true) (stopOnError : Bool)
    (failures : Nat) :
    (turn stopOnError failures (some line)).run.run a = (close failures).run.run a := by
  rw [turn]
  simp only [hblank, Bool.false_eq_true, if_false]
  rw [Step.bind_apply, Step.get_apply]
  simp only [hexit, if_true]

lemma turn_run_of_due (hblank : (stripped line).isEmpty = false)
    (hexit : a.settings.shell.exitWords.contains (stripped line) = false) (stopOnError : Bool)
    (failures : Nat) :
    (turn stopOnError failures (some line)).run.run a =
      let r := (a.current.1.execute line).1
      ((ending stopOnError (outputForm a.settings) r).elim
        (.ok (.next (if succeeded r then failures else failures + 1))) (Except.map .ended),
          advance a line) := by
  rw [turn]
  simp only [hblank, Bool.false_eq_true, if_false]
  rw [Step.bind_apply, Step.get_apply]
  simp only [hexit, Bool.false_eq_true, if_false]
  rw [Step.bind_apply, App.execute_run, ending, advance, shown]
  dsimp only
  cases h : App.rendered (outputForm a.settings) (a.current.1.execute line).1 with
  | error f => exact congrArg (Prod.mk _) (App.put_nil _).symm
  | ok rendered =>
    obtain ⟨o, text⟩ := rendered
    have hok : succeeded (a.current.1.execute line).1 = o.ok := by
      rw [(eq_ok_of_rendered h).1]
      rfl
    rw [hok]
    dsimp only
    cases o.ok with
    | true => rfl
    | false => cases stopOnError <;> rfl

end Turn

lemma due_cons (exitWords : List String) (line : String) (ls : List String) :
    due exitWords (line :: ls) =
      if (stripped line).isEmpty then due exitWords ls
      else if exitWords.contains (stripped line) then []
      else line :: due exitWords ls := by
  rw [due, due, List.filter_cons]
  cases (stripped line).isEmpty with
  | true => rfl
  | false =>
    simp only [Bool.not_false, if_true, Bool.false_eq_true, if_false]
    rw [List.takeWhile_cons]
    cases exitWords.contains (stripped line) <;> rfl

lemma after_cons (a : App) (line : String) (lines : List String)
    (rs : List (Except Failure Outcome)) :
    after (advance a line) lines rs =
      after a (line :: lines) ((a.current.1.execute line).1 :: rs) := by
  cases rs with
  | nil => simp [after, advance, resultsOf, Interpreter.run]
  | cons r rs =>
    have hran : (advance a line).ran
        (resultsOf (advance a line) (lines.take (r :: rs).length)).2 =
          (a.ran (resultsOf a (line :: lines.take (r :: rs).length)).2).put
            (shown (outputForm a.settings) (a.current.1.execute line).1) := rfl
    rw [after, List.isEmpty_cons, if_neg Bool.false_ne_true, hran, App.put_put]
    rfl

lemma loop_run {a : App} (h : a.interactive = false) (stopOnError : Bool) (failures : Nat)
    (ls : List String) :
    (loop stopOnError failures ls).run.run a =
      let lines := due a.settings.shell.exitWords ls
      let rs := (resultsOf a lines).1
      let ends := ending stopOnError (outputForm a.settings)
      let b := after a lines (upTo (fun r => (ends r).isSome) rs)
      match rs.findSome? ends with
      | some result => (result, b)
      | none => (.ok 0, b.put (summary a.settings (failures + rs.countP (!succeeded ·)))) := by
  -- The lines left are gone through from what the turn before has made of the app.
  induction ls generalizing a failures with
  | nil =>
    rw [loop, Step.bind_apply, prompt_run h]
    dsimp only
    rw [Step.bind_apply, turn, close_run h]
    exact congrArg (fun a : App => (Except.ok 0, a.put _)) a.put_nil.symm
  | cons line ls ih =>
    rw [loop, Step.bind_apply, prompt_run h]
    dsimp only
    rw [Step.bind_apply, due_cons]
    cases hblank : (stripped line).isEmpty with
    | true =>
      rw [turn_run_of_blank hblank]
      exact ih h failures
    | false =>
      simp only [Bool.false_eq_true, if_false]
      cases hexit : a.settings.shell.exitWords.contains (stripped line) with
      | true =>
        rw [turn_run_of_exit hblank hexit, close_run h]
        exact congrArg (fun a : App => (Except.ok 0, a.put _)) a.put_nil.symm
      | false =>
        simp only [Bool.false_eq_true, if_false]
        rw [turn_run_of_due hblank hexit]
        dsimp only
        rw [resultsOf_cons, List.findSome?_cons, upTo]
        cases ending stopOnError (outputForm a.settings) (a.current.1.execute line).1 with
        | some result =>
          have hafter : advance a line = after a (line :: due a.settings.shell.exitWords ls)
              [(a.current.1.execute line).1] := by
            rw [← after_cons]
            exact (App.put_nil _).symm
          simp only [Option.isSome_some, if_true, ← hafter]
          cases result <;> rfl
        | none =>
          simp only [Option.isSome_none, Bool.false_eq_true, if_false, ← after_cons]
          have hcount :
              (if succeeded (a.current.1.execute line).1 then failures else failures + 1) +
                (resultsOf (advance a line) (due a.settings.shell.exitWords ls)).1.countP
                  (!succeeded ·) =
              failures + List.countP (!succeeded ·) ((a.current.1.execute line).1 ::
                (resultsOf (advance a line) (due a.settings.shell.exitWords ls)).1) := by
            rw [List.countP_cons]
            cases succeeded (a.current.1.execute line).1 <;> simp
            omega
          rw [← hcount]
          exact ih (a := advance a line) h _

end Shell

end LineShell.Cli
