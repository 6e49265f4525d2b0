import LineShell.Proofs.Shell.Channels
import LineShell.Proofs.Shell.Depth

namespace LineShell.Cli

open Text

namespace Shell

lemma written_after (a : App) (lines : List String) (rs : List (Except Failure Outcome)) :
    (after a lines rs).written = a.written ++ rs.flatMap (shown (outputForm a.settings)) := by
  rw [after]
  split <;> rfl

lemma interpreter_after (a : App) (lines : List String) (rs : List (Except Failure Outcome)) :
    (after a lines rs).interpreter =
      if rs.isEmpty then a.interpreter else some (resultsOf a (lines.take rs.length)).2 := by
  rw [after]
  split <;> rfl

section Ending

variable {form : OutputSettings} {stop : Bool}

lemma ending_of_rendered {r : Except Failure Outcome}
    (h : ∃ shown, App.rendered form r = .ok shown) :
    ending stop form r = if stop && !succeeded r then some (.ok 1) else none := by
  obtain ⟨shown, hshown⟩ := h
  rw [ending, hshown, Bool.and_comm]

lemma isSome_ending_of_rendered {r : Except Failure Outcome}
    (h : ∃ shown, App.rendered form r = .ok shown) :
    (ending stop form r).isSome = (stop && !succeeded r) := by
  rw [ending_of_rendered h]
  cases stop && !succeeded r <;> rfl

lemma findSome?_ending {rs : List (Except Failure Outcome)}
    (h : ∀ r ∈ rs, ∃ shown, App.rendered form r = .ok shown) :
    rs.findSome? (ending stop form) =
      if stop && rs.any (!succeeded ·) then some (.ok 1) else none := by
  induction rs with
  | nil => cases stop <;> rfl
  | cons r rs ih =>
    rw [List.forall_mem_cons] at h
    rw [List.findSome?_cons, ending_of_rendered h.1, ih h.2, List.any_cons]
    cases stop with
    | false => rfl
    | true => cases succeeded r <;> rfl

end Ending

section Loop

variable {a : App} (h : a.interactive = false) (stop : Bool) (ls : List String)

include h

lemma loop_of_rendered
    (hshown : ∀ r ∈ upTo (fun r => stop && !succeeded r)
      (resultsOf a (due a.settings.shell.exitWords ls)).1,
        ∃ shown, App.rendered (outputForm a.settings) r = .ok shown) :
    let lines := due a.settings.shell.exitWords ls
    let rs := upTo (fun r => stop && !succeeded r) (resultsOf a lines).1
    (loop stop 0 ls).run.run a =
      if stop && rs.any (!succeeded ·) then (.ok 1, after a lines rs)
      else (.ok 0, (after a lines rs).put (summary a.settings (rs.countP (!succeeded ·)))) := by
  dsimp only
  rw [loop_run h]
  dsimp only
  rw [findSome?_upTo]
  generalize (resultsOf a (due a.settings.shell.exitWords ls)).1 = all at hshown ⊢
  have hends : upTo (fun r => (ending stop (outputForm a.settings) r).isSome) all =
      upTo (fun r => stop && !succeeded r) all :=
    upTo_congr fun r hr => isSome_ending_of_rendered (hshown r hr)
  rw [hends, findSome?_ending hshown]
  cases hstopped : stop && (upTo (fun r => stop && !succeeded r) all).any (!succeeded ·) with
  | true => rfl
  | false =>
    -- Nothing has ended the loop, so all lines have been reached.
    have hall : upTo (fun r => stop && !succeeded r) all = all := by
      apply upTo_eq_self
      cases stop with
      | false => exact fun _ _ => rfl
      | true => simpa using hstopped
    rw [hall, Nat.zero_add]
    rfl

lemma loop_of_rendered_error {before rest : List (Except Failure Outcome)}
    {r : Except Failure Outcome} {f : Failure}
    (hrs : upTo (fun r => stop && !succeeded r)
      (resultsOf a (due a.settings.shell.exitWords ls)).1 = before ++ r :: rest)
    (hbefore : ∀ r ∈ before, ∃ shown, App.rendered (outputForm a.settings) r = .ok shown)
    (hr : App.rendered (outputForm a.settings) r = .error f) :
    (loop stop 0 ls).run.run a =
      (.error f, after a (due a.settings.shell.exitWords ls) (before ++ [r])) := by
  rw [loop_run h]
  dsimp only
  rw [findSome?_upTo]
  generalize (resultsOf a (due a.settings.shell.exitWords ls)).1 = all at hrs ⊢
  have hends : ending stop (outputForm a.settings) r = some (.error f) := by rw [ending, hr]
  obtain ⟨hcut, hnone⟩ := upTo_cut
    (q := fun r => (ending stop (outputForm a.settings) r).isSome) hrs
    (fun r hr => isSome_ending_of_rendered (hbefore r hr)) (by rw [hends]; rfl)
  have hgoes : before.findSome? (ending stop (outputForm a.settings)) = none := by
    rw [List.findSome?_eq_none_iff]
    intro r hr
    rw [ending_of_rendered (hbefore r hr), hnone r hr, if_neg Bool.false_ne_true]
  rw [hcut, List.findSome?_append, hgoes, List.findSome?_singleton, hends]
  rfl

lemma run_of_rendered
    (hshown : ∀ r ∈ upTo (fun r => stop && !succeeded r)
      (resultsOf a (due a.settings.shell.exitWords ls)).1,
        ∃ shown, App.rendered (outputForm a.settings) r = .ok shown) :
    let lines := due a.settings.shell.exitWords ls
    let rs := upTo (fun r => stop && !succeeded r) (resultsOf a lines).1
    let ran := (loop stop 0 ls).run.run a
    let report := Report.done ran
    report.fault = none ∧
      report.exitCode = (if stop && rs.any (!succeeded ·) then 1 else 0) ∧
      ran.2.interpreter = (if rs.isEmpty then a.interpreter
        else some (resultsOf a (lines.take rs.length)).2) ∧
      Tells a rs (if stop then "" else toll a.settings (rs.countP (!succeeded ·))) report := by
  intro lines rs ran report
  change (Report.done ran).fault = none ∧ (Report.done ran).exitCode = _ ∧ _ ∧
    Tells a rs _ (.done ran)
  have hran : ran = if stop && rs.any (!succeeded ·) then (.ok 1, after a lines rs)
      else (.ok 0, (after a lines rs).put (summary a.settings (rs.countP (!succeeded ·)))) :=
    loop_of_rendered h stop ls hshown
  cases hstopped : stop && rs.any (!succeeded ·) with
  | true =>
    rw [hstopped, if_pos rfl] at hran
    have hstop : stop = true := (Bool.and_eq_true_iff.mp hstopped).1
    have hwritten : (after a lines rs).written =
        a.written ++ rs.flatMap (shown (outputForm a.settings)) ++ [] := by
      rw [written_after, List.append_nil]
    rw [hran, if_pos hstop]
    exact ⟨rfl, rfl, interpreter_after a lines rs, tells_of_written hshown hwritten rfl (.ok 1)⟩
  | false =>
    rw [hstopped, if_neg Bool.false_ne_true] at hran
    have htoll : troubles (summary a.settings (rs.countP (!succeeded ·))) =
        if stop then "" else toll a.settings (rs.countP (!succeeded ·)) := by
      rw [troubles_summary]
      cases stop with
      | false => rfl
      | true =>
        have hnone : rs.countP (!succeeded ·) = 0 := by
          rw [List.countP_eq_zero]
          simpa using hstopped
        rw [hnone, toll]
        rfl
    have hwritten :
        ((after a lines rs).put (summary a.settings (rs.countP (!succeeded ·)))).written =
          a.written ++ rs.flatMap (shown (outputForm a.settings)) ++
            summary a.settings (rs.countP (!succeeded ·)) :=
      congrArg (· ++ summary a.settings (rs.countP (!succeeded ·))) (written_after a lines rs)
    rw [hran, ← htoll]
    exact ⟨rfl, rfl, interpreter_after a lines rs,
      tells_of_written hshown hwritten (outputs_summary a.settings _) (.ok 0)⟩

lemma run_of_rendered_error {before rest : List (Except Failure Outcome)}
    {r : Except Failure Outcome} {f : Failure}
    (hrs : upTo (fun r => stop && !succeeded r)
      (resultsOf a (due a.settings.shell.exitWords ls)).1 = before ++ r :: rest)
    (hbefore : ∀ r ∈ before, ∃ shown, App.rendered (outputForm a.settings) r = .ok shown)
    (hr : App.rendered (outputForm a.settings) r = .error f) :
    let lines := due a.settings.shell.exitWords ls
    let ran := (loop stop 0 ls).run.run a
    let report := Report.done ran
    (∀ e, f = .exception e → report.fault = some (.raised e) ∧ report.exitCode = 1) ∧
      (∀ code, f = .exit code → report.fault = none ∧ report.exitCode = code) ∧
      ran.2.interpreter = some (resultsOf a (lines.take (before.length + 1))).2 ∧
      Tells a before "" report := by
  intro lines ran report
  change (∀ e, f = .exception e →
      (Report.done ran).fault = some (.raised e) ∧ (Report.done ran).exitCode = 1) ∧
    (∀ code, f = .exit code → (Report.done ran).fault = none ∧ (Report.done ran).exitCode = code) ∧
    _ ∧ Tells a before "" (.done ran)
  have hran : ran = (.error f, after a lines (before ++ [r])) :=
    loop_of_rendered_error h stop ls hrs hbefore hr
  have hnothing : shown (outputForm a.settings) r = [] := by rw [shown, hr]
  have hwritten : (after a lines (before ++ [r])).written =
      a.written ++ before.flatMap (shown (outputForm a.settings)) ++ [] := by
    rw [written_after, List.flatMap_append, List.flatMap_singleton, hnothing, List.append_nil,
      List.append_nil]
  have hinterpreter := interpreter_after a lines (before ++ [r])
  have hnonempty : (before ++ [r]).isEmpty = false := by simp
  rw [hnonempty, if_neg Bool.false_ne_true, List.length_append] at hinterpreter
  rw [hran]
  refine ⟨?_, ?_, hinterpreter, tells_of_written hbefore hwritten rfl (.error f)⟩
  · rintro e rfl
    exact ⟨rfl, rfl⟩
  · rintro code rfl
    exact ⟨rfl, rfl⟩

omit h in
lemma of_rendered_error {form : OutputSettings} {lines : List String} {r : Except Failure Outcome}
    (hr : r ∈ (resultsOf a lines).1) {f : Failure} (hf : App.rendered form r = .error f) :
    (∃ o, r = .ok o ∧ form.jsonOutput = true ∧ f = .deepData ∧
        ∃ es ∈ [o.data, o.error.elim [] (·.detail), o.meta?.getD []],
          Render.documentLevels < Datum.levelsOfEntries es) ∨
      (r = .error f ∧ ((∃ code, f = .exit code) ∨
        ∃ issues, f = .exception (.invalid "ServiceError" issues))) := by
  cases r with
  | ok o =>
    have hformat : o.format form = .error f := by
      cases hformat : o.format form with
      | error f' =>
        simp only [App.rendered, Bind.bind, Except.bind, hformat] at hf
        rw [Except.error.inj hf]
      | ok text =>
        simp only [App.rendered, Bind.bind, Except.bind, hformat] at hf
        cases hf
    exact .inl ⟨o, rfl, (Interpreter.run_ofLine hr).of_format_error hformat⟩
  | error f' =>
    obtain rfl : f' = f := Except.error.inj hf
    exact .inr ⟨rfl, Interpreter.run_escapes hr⟩

end Loop

/-- The lines that are due are executed in their order on one interpreter, up to the first that
fails if that is to be the end. What comes of each is written on its channel, and the end is told as
it came. A line that comes to no text ends the shell: its outcome is to be a document and nests too
deep, or it has none. -/
theorem loop_folds {a : App} (h : a.interactive = false) (stop : Bool) (input : String) :
    let form := outputForm a.settings
    let lines := due a.settings.shell.exitWords (Shell.lines input)
    let rs := upTo (fun r => stop && !succeeded r) (resultsOf a lines).1
    let ran := (loop stop 0 (Shell.lines input)).run.run a
    let report := Report.done ran
    ((∀ r ∈ rs, ∃ shown, App.rendered form r = .ok shown) →
      report.fault = none ∧
        report.exitCode = (if stop && rs.any (!succeeded ·) then 1 else 0) ∧
        ran.2.interpreter = (if rs.isEmpty then a.interpreter
          else some (resultsOf a (lines.take rs.length)).2) ∧
        Tells a rs (if stop then "" else toll a.settings (rs.countP (!succeeded ·))) report) ∧
      (∀ before r rest f, rs = before ++ r :: rest →
        (∀ r' ∈ before, ∃ shown, App.rendered form r' = .ok shown) →
          App.rendered form r = .error f →
            (∀ e, f = .exception e → report.fault = some (.raised e) ∧ report.exitCode = 1) ∧
              (∀ code, f = .exit code → report.fault = none ∧ report.exitCode = code) ∧
              ran.2.interpreter = some (resultsOf a (lines.take (before.length + 1))).2 ∧
              Tells a before "" report) ∧
      (∀ r ∈ rs, ∀ f, App.rendered form r = .error f →
        (∃ o, r = .ok o ∧ form.jsonOutput = true ∧ f = .deepData ∧
            ∃ es ∈ [o.data, o.error.elim [] (·.detail), o.meta?.getD []],
              Render.documentLevels < Datum.levelsOfEntries es) ∨
          (r = .error f ∧ ((∃ code, f = .exit code) ∨
            ∃ issues, f = .exception (.invalid "ServiceError" issues)))) ∧
      (∀ text, escape ∉ text.toList → App.told text = text ++ "\n") ∧
      (∀ line : String, '\n' ∉ line.toList → '\r' ∉ line.toList → ∀ rest : String,
        Shell.lines (line ++ "\n" ++ rest) = line :: Shell.lines rest ∧
          Shell.lines (line ++ "\r\n" ++ rest) = line :: Shell.lines rest ∧
          (rest.toList.head? ≠ some '\n' →
            Shell.lines (line ++ "\r" ++ rest) = line :: Shell.lines rest) ∧
          Shell.lines line = if line = "" then [] else [line]) :=
  ⟨run_of_rendered h stop (Shell.lines input),
    fun _ _ _ _ => run_of_rendered_error h stop (Shell.lines input),
    fun _ hr _ => of_rendered_error ((upTo_sublist _ _).subset hr),
    fun _ => App.told_eq,
    fun _ hfeed hreturn => lines_append hfeed hreturn⟩

def choir : Registry :=
  plainRegistry defaultMaxDepth
    [plainCommand defaultMaxDepth "hum" fun _ => .done "la  la",
      plainCommand defaultMaxDepth "hue" fun _ => .done "\x1b[m",
      plainCommand defaultMaxDepth "quit" fun _ => .fail (.exit 3), digger]

def singing (documents : Bool) (exitWords : List String) : App where
  settings := ⟨⟨"/", []⟩, none, documents, false, documents, false, .default, .default,
    ⟨"> ", exitWords⟩⟩
  files := ⟨⟨"/", []⟩, []⟩
  time := fun _ => 0
  interactive := false
  interpreter := some (Interpreter.setTelemetry ⟨.start choir, .empty [], defaultBudget⟩ documents)
  written := []
  log := []

def hummed : Outcome :=
  .success "execute" [("command", .string "hum"), ("line", .string "hum"),
    ("output", .string "la  la")]

lemma told_hummed : App.told (textIn .plain (.ok hummed)) = "la  la\n" := by
  have htext : textIn .plain (.ok hummed) = "la  la" := rfl
  rw [htext]
  exact App.told_eq (by decide)

def missed : Outcome :=
  .failure "execute" ⟨"COMMAND_NOT_FOUND", "Command with name '' not found", [("name", .string "")]⟩

lemma dug_rendered (exitWords : List String) :
    App.rendered (outputForm (singing true exitWords).settings)
      ((singing true exitWords).current.1.execute "dig").1 = .error .deepData := by
  have hreturns : ∃ o, ((singing true exitWords).current.1.execute "dig").1 = .ok o :=
    Interpreter.dig_ok rfl rfl rfl
  have hroom : Render.documentLevels < 2 * defaultBudget + 1 := by decide
  obtain ⟨o, ho⟩ := hreturns
  have hformat : o.format (outputForm (singing true exitWords).settings) = .error .deepData :=
    Interpreter.dig_format rfl rfl hroom rfl ho
  rw [ho]
  simp only [App.rendered, Bind.bind, Except.bind, hformat]

theorem loop_folds_until_exit_word :
    (singing false ["exit"]).interactive = false ∧ (singing true ["exit"]).interactive = false ∧
      (let r := Report.done
          ((loop false 0 (Shell.lines "hum\n\n hum \nexit\nhum")).run.run (singing false ["exit"]))
       r.fault = none ∧ r.exitCode = 0 ∧ r.output = "la  la\n" ∧
         r.trouble = App.told (textIn .plain (.ok missed)) ++ "1 line(s) failed\n") ∧
      (let r := Report.done
          ((loop false 0 (Shell.lines "dig\nhum")).run.run (singing true ["exit"]))
       r.fault = some (.raised .deepData) ∧ r.exitCode = 1 ∧ r.output = "") := by
  refine ⟨rfl, rfl, ?_, ?_⟩
  · have hdue : due (singing false ["exit"]).settings.shell.exitWords
        (Shell.lines "hum\n\n hum \nexit\nhum") = ["hum", " hum "] := by cbv
    have hrs : (resultsOf (singing false ["exit"]) ["hum", " hum "]).1 =
        [.ok hummed, .ok missed] := rfl
    have hshown : ∀ r ∈ [Except.ok hummed, .ok missed],
        ∃ shown, App.rendered .plain r = .ok shown := by
      intro r hr
      rcases List.mem_pair.mp hr with rfl | rfl
      · exact ⟨_, rfl⟩
      · exact ⟨_, rfl⟩
    obtain ⟨hwhole, -⟩ :=
      loop_folds (a := singing false ["exit"]) rfl false "hum\n\n hum \nexit\nhum"
    rw [hdue, hrs] at hwhole
    obtain ⟨hfault, hcode, -, houtput, htrouble⟩ := hwhole hshown
    refine ⟨hfault, hcode, houtput.trans ?_, htrouble.trans ?_⟩
    · change outputs [] ++ String.join [App.told (textIn .plain (.ok hummed))] = _
      rw [told_hummed]
      rfl
    · have htold : App.told "1 line(s) failed" = "1 line(s) failed\n" := App.told_eq (by decide)
      have htoll : toll (singing false ["exit"]).settings 1 = "1 line(s) failed\n" := htold
      change troubles [] ++
        String.join [troubleOf .plain (.ok hummed), troubleOf .plain (.ok missed)] ++
          toll (singing false ["exit"]).settings 1 = _
      rw [htoll]
      rfl
  · have hdue : due (singing true ["exit"]).settings.shell.exitWords
        (Shell.lines "dig\nhum") = ["dig", "hum"] := by cbv
    obtain ⟨-, hbroken, -⟩ := loop_folds (a := singing true ["exit"]) rfl false "dig\nhum"
    rw [hdue, resultsOf_cons, upTo_of_forall] at hbroken
    · obtain ⟨hraised, -, -, houtput, -⟩ :=
        hbroken [] _ _ _ rfl (by simp) (dug_rendered ["exit"])
      exact ⟨(hraised _ rfl).1, (hraised _ rfl).2, houtput⟩
    · exact fun _ _ => rfl

lemma tells_one {a : App} (h : a.interactive = false) {ls : List String} {line : String}
    {o : Outcome} (hdue : due a.settings.shell.exitWords ls = [line])
    (hrs : (resultsOf a [line]).1 = [.ok o])
    (hshown : ∃ shown, App.rendered (outputForm a.settings) (.ok o) = .ok shown) :
    Tells a [.ok o] (toll a.settings ([.ok o].countP (!succeeded ·)))
      (.done ((loop false 0 ls).run.run a)) := by
  have hall : upTo (fun r => false && !succeeded r) [.ok o] = [.ok o] :=
    upTo_of_forall fun _ _ => rfl
  have hrun := run_of_rendered h false ls
  dsimp only at hrun
  rw [hdue, hrs, hall] at hrun
  obtain ⟨-, -, -, htells⟩ := hrun (List.forall_mem_singleton.mpr hshown)
  exact htells

/-- A shell may leave out what a terminal would not show, and goes past a blank line even if that is
an exit word. It may end at a line without being told to stop, and with a code of that line's. -/
theorem loop_unlike :
    (singing false ["exit"]).interactive = false ∧
      (∃ o, (resultsOf (singing false ["exit"]) ["hue"]).1 = [.ok o] ∧ o.ok ∧
        o.format .plain = .ok "\x1b[m" ∧
        (Report.done ((loop false 0 (Shell.lines "hue")).run.run (singing false ["exit"]))).output =
          "\n") ∧
      (stripped "" ∈ (singing false [""]).settings.shell.exitWords ∧
        Shell.lines "\nhum" = ["", "hum"] ∧
        (Report.done ((loop false 0 (Shell.lines "\nhum")).run.run (singing false [""]))).output =
          "la  la\n") ∧
      (Report.done
        ((loop false 0 (Shell.lines "dig")).run.run (singing true ["exit"]))).exitCode = 1 ∧
      (Report.done
        ((loop false 0 (Shell.lines "quit")).run.run (singing false ["exit"]))).exitCode = 3 := by
  refine ⟨rfl, ?_, ⟨List.mem_singleton_self _, by cbv, ?_⟩, ?_, ?_⟩
  · have hrs : (resultsOf (singing false ["exit"]) ["hue"]).1 = [.ok (.success "execute"
      [("command", .string "hue"), ("line", .string "hue"), ("output", .string "\x1b[m")])] := rfl
    have hdue : due (singing false ["exit"]).settings.shell.exitWords (Shell.lines "hue") =
      ["hue"] := by cbv
    have houtput := (tells_one (a := singing false ["exit"]) rfl hdue hrs ⟨_, rfl⟩).output
    refine ⟨_, hrs, rfl, rfl, houtput.trans ?_⟩
    change outputs [] ++ String.join [App.told "\x1b[m"] = _
    cbv
  · have hrs : (resultsOf (singing false [""]) ["hum"]).1 = [.ok hummed] := rfl
    have hdue : due (singing false [""]).settings.shell.exitWords (Shell.lines "\nhum") =
      ["hum"] := by cbv
    have houtput := (tells_one (a := singing false [""]) rfl hdue hrs ⟨_, rfl⟩).output
    refine houtput.trans ?_
    change outputs [] ++ String.join [App.told (textIn .plain (.ok hummed))] = _
    rw [told_hummed]
    rfl
  · have hdue : due (singing true ["exit"]).settings.shell.exitWords (Shell.lines "dig") =
      ["dig"] := by cbv
    have hrs : upTo (fun r => false && !succeeded r) (resultsOf (singing true ["exit"])
        (due (singing true ["exit"]).settings.shell.exitWords (Shell.lines "dig"))).1 =
          [] ++ ((singing true ["exit"]).current.1.execute "dig").1 :: [] := by
      rw [hdue, resultsOf_cons]
      exact upTo_of_forall fun _ _ => rfl
    obtain ⟨hraised, -⟩ := run_of_rendered_error rfl false _ hrs (by simp) (dug_rendered ["exit"])
    exact (hraised _ rfl).2
  · have hdue : due (singing false ["exit"]).settings.shell.exitWords (Shell.lines "quit") =
      ["quit"] := by cbv
    have hresult : (resultsOf (singing false ["exit"]) ["quit"]).1 = [.error (.exit 3)] := rfl
    have hrs : upTo (fun r => false && !succeeded r) (resultsOf (singing false ["exit"])
        (due (singing false ["exit"]).settings.shell.exitWords (Shell.lines "quit"))).1 =
          [] ++ .error (.exit 3) :: [] := by
      rw [hdue, hresult]
      exact upTo_of_forall fun _ _ => rfl
    obtain ⟨-, hended, -⟩ := run_of_rendered_error rfl false _ hrs (by simp) rfl
    exact (hended _ rfl).2

end Shell

end LineShell.Cli
