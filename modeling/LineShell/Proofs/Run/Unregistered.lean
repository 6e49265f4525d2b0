import LineShell.Proofs.Run.Confined
import LineShell.Proofs.Scan.Depth
import LineShell.Proofs.Scan.Evaluation

/-! Names that no command has. Only the line that is executed can fail for want of its command: a
group that names none stays in the text around it as it was written. -/

namespace LineShell

open Run LineShell.Text

def Run.Ensures {α : Type} (I : Registry → Prop) (V : α → Prop) (F : Failure → Prop) (x : Run α) :
    Prop :=
  ∀ s, I s.registry → I (x s).2.registry ∧
    (∀ a, (x s).1 = .ok a → V a) ∧ ∀ f, (x s).1 = .error f → F f

variable {α β : Type} {I : Registry → Prop} {U : α → Prop} {V : β → Prop} {F : Failure → Prop}

namespace Run.Ensures

lemma pure {a : α} (h : U a) : Ensures I U F (pure a) := by
  refine fun s hs => ⟨hs, ?_, ?_⟩
  · rintro _ ⟨⟩
    exact h
  · rintro _ ⟨⟩

lemma throw {f : Failure} (h : F f) : Ensures I U F (throw f) := by
  refine fun s hs => ⟨hs, ?_, ?_⟩
  · rintro _ ⟨⟩
  · rintro _ ⟨⟩
    exact h

lemma bind {x : Run α} {f : α → Run β} (hx : Ensures I U F x)
    (hf : ∀ a, U a → Ensures I V F (f a)) : Ensures I V F (x >>= f) := by
  intro s hs
  obtain ⟨hI, hvalue, hfailure⟩ := hx s hs
  rw [bind_apply]
  cases ha : (x s).1 with
  | ok a => exact hf a (hvalue a ha) _ hI
  | error e =>
    refine ⟨hI, ?_, ?_⟩
    · rintro _ ⟨⟩
    · rintro _ ⟨⟩
      exact hfailure e ha

lemma mono {G : Failure → Prop} {x : Run α} (hx : Ensures I U F x) (h : ∀ f, F f → G f) :
    Ensures I U G x := by
  intro s hs
  obtain ⟨hI, hvalue, hfailure⟩ := hx s hs
  exact ⟨hI, hvalue, fun f hf => h f (hfailure f hf)⟩

lemma record (e : Event) : Ensures I (fun _ => True) F (Run.record e) :=
  fun _ hs => ⟨hs, fun _ _ => trivial, by rintro _ ⟨⟩⟩

lemma registry : Ensures I I F Run.registry := by
  refine fun s hs => ⟨hs, ?_, ?_⟩
  · rintro _ ⟨⟩
    exact hs
  · rintro _ ⟨⟩

lemma inSpan {x : Run α} (h : Ensures I U F x) (name : String) (notes : List (String × Datum)) :
    Ensures I U F (inSpan name notes x) := by
  intro s hs
  cases henter : s.telemetry.enter? name with
  | none =>
    rw [inSpan_of_none henter]
    exact h s hs
  | some t =>
    rw [inSpan_of_some henter]
    exact h { s with telemetry := notes.foldl (fun u a => u.annotate a.1 a.2) t } hs

lemma orLiteral_kept {x : Run String} (h : Ensures I (fun _ => True) F x) (text : String) :
    Ensures I (fun _ => True) F (Command.resolveNested.orLiteral text x) := by
  intro s hs
  obtain ⟨hI, -, hfailure⟩ := h s hs
  rw [Command.orLiteral_apply]
  refine ⟨hI, fun _ _ => trivial, fun f hf => ?_⟩
  cases ha : (x s).1 with
  | ok a =>
    rw [ha] at hf
    cases hf
  | error g =>
    rw [ha] at hf
    rcases Command.substitute_error text g with hg | hg
    · rw [hg] at hf
      cases hf
    · rw [hg] at hf
      obtain rfl := Except.error.inj hf
      exact hfailure g ha

lemma orLiteral {x : Run String} (h : Ensures I (fun _ => True) (fun _ => True) x)
    (text : String) :
    Ensures I (fun _ => True) Failure.Known (Command.resolveNested.orLiteral text x) := by
  intro s hs
  rw [Command.orLiteral_apply]
  refine ⟨(h s hs).1, fun _ _ => trivial, fun f hf name hname => ?_⟩
  subst hname
  cases ha : (x s).1 with
  | ok a =>
    rw [ha] at hf
    cases hf
  | error g =>
    simp only [ha, Command.substitute] at hf
    split at hf
    · cases hf
    · rename_i hg
      exact hg name hf

lemma scan {resolve : String → Run String}
    (h : ∀ text, Ensures I (fun _ => True) F (resolve text)) (maxDepth : Int) (line : String) :
    Ensures I (fun _ => True) F (scan maxDepth resolve line) := by
  have hrun : ∀ (rest : List Char) (st : Scan.State),
      Ensures I (fun _ => True) F (Scan.run maxDepth resolve st rest) := by
    intro rest
    induction rest with
    | nil => exact fun st => .pure trivial
    | cons c rest ih =>
      intro st
      rw [Scan.run]
      cases Scan.step maxDepth st c with
      | next st' => exact ih st'
      | limit => exact .pure trivial
      | resolve text andThen => exact (h text).bind fun a _ => ih (andThen a)
  exact (hrun line.toList .start).bind fun _ _ => .pure trivial

lemma resolveNested {c : Command} (hc : c.Declared) {call : String → Run String} {text : String}
    (h : Ensures I (fun _ => True) F (Command.resolveNested.orLiteral text (call text))) :
    Ensures I (fun _ => True) F (c.resolveNested call text) := by
  obtain ⟨r, d, hb⟩ := hc
  obtain ⟨action, arity, hname, harity, -, rfl⟩ := Registry.build_eq_ok hb
  simp only [Command.resolveNested]
  split <;> rename_i hd
  · exact .pure trivial
  · exact h
  · split at hd <;> cases hd

lemma typesOf {c : Command} (hc : c.Declared) {types : TypeTable}
    (htypes : ∀ r, I r → r.types = types) : Ensures I (· = types) F (Run.typesOf c) := by
  refine fun s hs => ⟨hs, ?_, ?_⟩
  · rintro _ ⟨⟩
    exact (hc.typesOf s).trans (htypes _ hs)
  · rintro _ ⟨⟩

lemma command {types : TypeTable} {call : String → Run String} {c : Command} (hc : c.Declared)
    (htypes : ∀ r, I r → r.types = types) {line : String} {W : String → Prop}
    (hempty : F (.command .emptyLine))
    (hname : c.answersTo line = false → F (.command (.wrongName c.name (leadingWord line))))
    (hlimit : ∀ limit, F (.command (.nestingLimit limit)))
    (hresolve : ∀ text, Ensures I (fun _ => True) F (c.resolveNested call text))
    (hanswer : ∀ tokens, Ensures I W F
      ((c.answer (LineShell.bind types c.parameters tokens (parameterText line))).run call)) :
    Ensures I W F (c.run call line) := by
  have htokens : Ensures I
      (fun bound => ∃ tokens,
        bound = LineShell.bind types c.parameters tokens (parameterText line)) F
      (c.readTokens call (parameterText line)) := by
    refine (Ensures.scan hresolve c.maxDepth _).bind fun scanned _ => ?_
    cases scanned with
    | error reached => exact .throw (hlimit _)
    | ok tokens =>
      refine (Ensures.typesOf hc htypes).bind fun _ h => .pure ⟨tokens, ?_⟩
      rw [h]
  have hline : Ensures I
      (fun bound => ∃ tokens,
        bound = LineShell.bind types c.parameters tokens (parameterText line)) F
      (c.readLine call line) := by
    rw [Command.readLine]
    split
    · exact .throw hempty
    · split
      · exact htokens
      · rename_i hother
        exact .throw (hname (Bool.eq_false_iff.mpr hother))
  rw [Command.run_eq]
  refine hline.bind fun bound hbound => ?_
  obtain ⟨tokens, rfl⟩ := hbound
  exact (Ensures.record _).bind fun _ _ => hanswer tokens

end Run.Ensures

/-- The commands of all registries of a class were created by registries, change the registry
within the class, and do not themselves fail for want of a command. -/
structure SelfContained (types : TypeTable) (I : Registry → Prop) : Prop where
  types_eq : ∀ r, I r → r.types = types
  declared : ∀ r name c, I r → r.get? name = some c → c.Declared
  answer : ∀ r name c, I r → r.get? name = some c → ∀ tokens raw budget,
    Ensures I (fun _ => True) Failure.Known
      ((c.answer (bind types c.parameters tokens raw)).run (execute budget))

namespace SelfContained

variable {types : TypeTable} (hI : SelfContained types I) {r : Registry} {name : String}
  {c : Command} (hr : I r) (hc : r.get? name = some c) {budget : Nat}

include hI hr hc

lemma run_ensures
    (h : ∀ text, Ensures I (fun _ => True) (fun _ => True) (execute budget text)) (line : String) :
    Ensures I (fun _ => True) Failure.Known (c.run (execute budget) line) := by
  have hresolve : ∀ text,
      Ensures I (fun _ => True) Failure.Known (c.resolveNested (execute budget) text) :=
    fun text => .resolveNested (hI.declared r name c hr hc) (.orLiteral (h text) text)
  exact .command (hI.declared r name c hr hc) hI.types_eq (by rintro name ⟨⟩)
    (by rintro - name ⟨⟩) (by rintro limit name ⟨⟩)
    hresolve fun tokens => hI.answer r name c hr hc tokens _ budget

end SelfContained

lemma Registry.dispatch_eq_notFound_iff {r : Registry} {line name : String} :
    r.dispatch line = .error (.notFound name) ↔
      isBlankText line = false ∧ r.get? (leadingWord line) = none ∧ name = leadingWord line := by
  rw [Registry.dispatch]
  cases isBlankText line with
  | true => simp
  | false =>
    cases r.get? (leadingWord line) with
    | none => simp [eq_comm]
    | some c => simp

lemma resolveNested_unregistered {c : Command} (hc : c.delegate = .registry) (budget : Nat)
    {text : String} {s : Session} (hb : isBlankText text = false)
    (hs : s.registry.get? (leadingWord text) = none) :
    c.resolveNested (execute budget) text s = (.ok (Command.literal text), s) := by
  have hdispatch := Registry.dispatch_eq_notFound_iff.mpr ⟨hb, hs, rfl⟩
  simp only [Command.resolveNested, hc]
  rw [Command.orLiteral_apply, execute_of_dispatch_error hdispatch budget]
  rfl

lemma scan_run_unregistered {c : Command} (hc : c.delegate = .registry) (budget : Nat)
    (tokens : List String) (word group : List Char) (outer : List (List Char)) (escaped : Bool)
    (rest : List Char) {s : Session} (hb : isBlankText (Scan.textOf group) = false)
    (hs : s.registry.get? (leadingWord (Scan.textOf group)) = none) :
    Scan.run c.maxDepth (c.resolveNested (execute budget))
        ⟨tokens, .grouped word group outer, escaped⟩ ('\x7d' :: rest) s =
      Scan.run c.maxDepth (c.resolveNested (execute budget))
        (Scan.closeGroup tokens word outer ("\x7b" ++ Scan.textOf group ++ "\x7d")) rest s := by
  have hstep : Scan.step c.maxDepth ⟨tokens, .grouped word group outer, escaped⟩ '\x7d'
      = .resolve (Scan.textOf group) (Scan.closeGroup tokens word outer) := rfl
  rw [Scan.run, hstep]
  dsimp only
  rw [bind_apply, resolveNested_unregistered hc budget hb hs]
  rfl

lemma group_eval_apply {resolve : String → Run String} {body : List Scan.Piece}
    {text : List Char} {s t : Session} (h : Scan.evalPieces resolve body s = (.ok text, t)) :
    (Scan.Piece.group body).eval resolve s =
        (((resolve (String.ofList text) t).1).map String.toList,
          (resolve (String.ofList text) t).2) ∧
      (Scan.Item.group body).eval resolve s = resolve (String.ofList text) t := by
  constructor
  · rw [Scan.Piece.eval, bind_apply, h]
    change (resolve (String.ofList text) >>= fun result => pure result.toList) t = _
    rw [bind_apply]
    cases (resolve (String.ofList text) t).1 <;> rfl
  · rw [Scan.Item.eval, bind_apply, h]
    rfl

lemma group_eval_unregistered {c : Command} (hc : c.delegate = .registry) {budget : Nat}
    {body : List Scan.Piece} {text : List Char} {s t : Session}
    (h : Scan.evalPieces (c.resolveNested (execute budget)) body s = (.ok text, t))
    (hb : isBlankText (String.ofList text) = false)
    (ht : t.registry.get? (leadingWord (String.ofList text)) = none) :
    (Scan.Piece.group body).eval (c.resolveNested (execute budget)) s =
        (.ok ('\x7b' :: text ++ ['\x7d']), t) ∧
      (Scan.Item.group body).eval (c.resolveNested (execute budget)) s =
        (.ok (String.ofList ('\x7b' :: text ++ ['\x7d'])), t) := by
  obtain ⟨hpiece, hitem⟩ := group_eval_apply h
  have hkept := resolveNested_unregistered hc budget hb ht
  have hliteral : Command.literal (String.ofList text)
      = String.ofList ('\x7b' :: text ++ ['\x7d']) := by
    apply String.toList_injective
    simp [Command.literal, String.toList_append]
  rw [hkept, hliteral] at hpiece hitem
  refine ⟨hpiece.trans ?_, hitem⟩
  simp [Except.map]

namespace Scan

lemma scan_eq_eval_within {m : Type → Type} [Monad m] [LawfulMonad m]
    (resolve : String → m String) (limit : Nat) (line : String) :
    scan limit resolve line =
      if limit = 0 ∨ depth line ≤ limit then
        (outline line).eval resolve >>= fun tokens => pure (.ok tokens)
      else (outline (shallow limit line)).eval resolve >>= fun _ => pure (.error ⟨limit⟩) := by
  have hfree : ∀ text, scan 0 resolve text
      = (outline text).eval resolve >>= fun tokens => pure (.ok tokens) := by
    intro text
    have h := finishing_bare resolve [] [] false text.toList
    simpa only [finishing, Outline.resume, List.reverse_nil, List.nil_append] using! h
  rcases Nat.eq_zero_or_pos limit with rfl | hpos
  · rw [if_pos (.inl rfl)]
    exact hfree line
  · rw [scan_eq_of_pos resolve hpos, hfree, hfree]
    by_cases hdepth : depth line ≤ limit
    · rw [if_pos hdepth, if_pos (.inr hdepth)]
    · have hneither : ¬ (limit = 0 ∨ depth line ≤ limit) := by omega
      rw [if_neg hdepth, if_neg hneither, bind_assoc]
      simp only [pure_bind]

end Scan

lemma SelfContained.execute_ensures {types : TypeTable} (hI : SelfContained types I)
    (budget : Nat) (line : String) {s : Session} (hs : I s.registry) :
    I (execute budget line s).2.registry ∧
      ∀ c, s.registry.dispatch line = .ok c →
        ∀ f, (execute budget line s).1 = .error f → f.Known := by
  induction budget generalizing line s with
  | zero =>
    cases hd : s.registry.dispatch line with
    | error e =>
      rw [execute_of_dispatch_error hd]
      exact ⟨hs, by rintro c ⟨⟩⟩
    | ok c =>
      rw [execute_zero_apply hd]
      refine ⟨hs, fun _ _ f hf => ?_⟩
      cases hf
      rintro name ⟨⟩
  | succ n ih =>
    have hcall : ∀ text, Ensures I (fun _ => True) (fun _ => True) (execute n text) :=
      fun text t ht => ⟨(ih text ht).1, fun _ _ => trivial, fun _ _ => trivial⟩
    cases hd : s.registry.dispatch line with
    | error e =>
      rw [execute_of_dispatch_error hd]
      exact ⟨hs, by rintro c ⟨⟩⟩
    | ok c =>
      have hc := Registry.get?_of_dispatch hd
      have hclone : c.clone = c := (hI.declared _ _ c hs hc).clone_eq
      have hrun := (hI.run_ensures hs hc hcall line).inSpan ("execute:" ++ leadingWord line)
        [("line", .string line)]
      obtain ⟨hkept, -, hknown⟩ := hrun s hs
      rw [execute_succ_apply hd, hclone]
      exact ⟨hkept, fun _ _ => hknown⟩

/-- Executing a line fails for want of a command just if the line is not blank and its own leading
word was not registered when it was dispatched. A group whose leading word is not registered when it
closes, once the groups inside it have been replaced, adds its text between braces to the text
around it, or is that token. -/
theorem execute_notFound_iff {types : TypeTable} (hI : SelfContained types I) :
    (∀ budget line s, I s.registry → ∀ name,
      (execute budget line s).1 = .error (.notFound name) ↔
        isBlankText line = false ∧ s.registry.get? (leadingWord line) = none ∧
          name = leadingWord line) ∧
    ∀ (c : Command) budget, c.delegate = .registry →
      let resolve := c.resolveNested (execute budget)
      (∀ line, scan c.maxDepth resolve line =
        if c.maxDepth = 0 ∨ Scan.depth line ≤ c.maxDepth then
          (Scan.outline line).eval resolve >>= fun tokens => pure (.ok tokens)
        else
          (Scan.outline (Scan.shallow c.maxDepth line)).eval resolve >>= fun _ =>
            pure (.error ⟨c.maxDepth⟩)) ∧
      ∀ body text (s t : Session), Scan.evalPieces resolve body s = (.ok text, t) →
        isBlankText (String.ofList text) = false →
        t.registry.get? (leadingWord (String.ofList text)) = none →
          (Scan.Piece.group body).eval resolve s = (.ok ('\x7b' :: text ++ ['\x7d']), t) ∧
          (Scan.Item.group body).eval resolve s =
            (.ok (String.ofList ('\x7b' :: text ++ ['\x7d'])), t) := by
  refine ⟨fun budget line s hs name => ?_, fun c budget hc => ⟨fun line => ?_, ?_⟩⟩
  · rw [← Registry.dispatch_eq_notFound_iff]
    cases hd : s.registry.dispatch line with
    | error e =>
      rw [execute_of_dispatch_error hd]
      simp [Failure.notFound]
    | ok c =>
      have hknown := (hI.execute_ensures budget line hs).2 c hd
      refine ⟨fun h => absurd rfl (hknown _ h name), ?_⟩
      rintro ⟨⟩
  · exact Scan.scan_eq_eval_within _ c.maxDepth line
  · exact fun body text s t h hb ht => group_eval_unregistered hc h hb ht

def lateDefinition : Definition Script :=
  ⟨"late", some fun _ => .done "here", [], "", none, none, none⟩

def toggle : Script :=
  .survey fun commands =>
    if commands.any fun s => s.name == "late" then .remove "late" (.after (.done "gone"))
    else .create lateDefinition (.after (.done "late"))

def toggleCommand : Command :=
  plainCommand defaultMaxDepth "toggle" fun _ => toggle

def lateCommand : Command :=
  plainCommand defaultMaxDepth "late" fun _ => .done "here"

def earlyRegistry : Registry :=
  plainRegistry defaultMaxDepth [toggleCommand]

def lateRegistry : Registry :=
  plainRegistry defaultMaxDepth [toggleCommand, lateCommand]

def Toggling (r : Registry) : Prop :=
  r = earlyRegistry ∨ r = lateRegistry

lemma early_create : earlyRegistry.create lateDefinition
    = .ok (lateCommand, lateRegistry) := rfl

lemma late_remove : lateRegistry.remove "late" = .ok earlyRegistry := rfl

lemma toggle_run (call : String → Run String) {s : Session} (hs : Toggling s.registry) :
    ∃ text r, Toggling r ∧ toggle.run call s = (.ok text, { s with registry := r }) := by
  rcases hs with h | h
  · refine ⟨"late", lateRegistry, .inr rfl, ?_⟩
    rw [toggle, Script.run, registry_bind, h]
    change (caught (declare lateDefinition) >>= fun made =>
      ((Script.done "late").after made).run call) s = _
    rw [caught_bind_ok (declare_of_ok (h ▸ early_create))]
    rfl
  · refine ⟨"gone", earlyRegistry, .inl rfl, ?_⟩
    rw [toggle, Script.run, registry_bind, h]
    change (caught (Run.remove "late") >>= fun removed =>
      ((Script.done "gone").after removed).run call) s = _
    rw [caught_bind_ok (remove_of_ok (h ▸ late_remove))]
    rfl

lemma toggling_selfContained : SelfContained .builtin Toggling := by
  have hcommands : ∀ r name c, Toggling r → r.get? name = some c →
      c = toggleCommand ∨ c = lateCommand := by
    rintro r name c (rfl | rfl) hc
    · have hmem := Entries.mem_of_get? hc
      simp only [earlyRegistry, plainRegistry, List.map_cons, List.map_nil, List.mem_singleton,
        Prod.mk.injEq] at hmem
      exact .inl hmem.2
    · have hmem := Entries.mem_of_get? hc
      simp only [lateRegistry, plainRegistry, List.map_cons, List.map_nil, List.mem_cons,
        List.not_mem_nil, or_false, Prod.mk.injEq] at hmem
      exact hmem.imp And.right And.right
  refine ⟨?_, ?_, ?_⟩
  · rintro r (rfl | rfl) <;> rfl
  · intro r name c hr hc
    rcases hcommands r name c hr hc with rfl | rfl <;> exact plainCommand_declared _ _ _
  · intro r name c hr hc tokens raw budget
    rcases hcommands r name c hr hc with rfl | rfl
    · intro s hs
      obtain ⟨text, r', hr', hrun⟩ := toggle_run (execute budget) hs
      change Toggling (toggle.run (execute budget) s).2.registry ∧
        (∀ a, (toggle.run (execute budget) s).1 = .ok a → True) ∧
          ∀ f, (toggle.run (execute budget) s).1 = .error f → f.Known
      rw [hrun]
      exact ⟨hr', fun _ _ => trivial, by rintro f ⟨⟩⟩
    · exact Ensures.pure (a := "here") trivial

def lostBody : List Scan.Piece :=
  "lost ".toList.map .char ++ [.group ("toggle".toList.map .char)]

def toggler : String → Run String :=
  toggleCommand.resolveNested (execute 3)

lemma lost_text : (Scan.evalPieces toggler lostBody (.start earlyRegistry)).1
    = .ok "lost late".toList :=
  eq_ok_of_toOption (by decide +kernel)

lemma lost_unregistered :
    (Scan.evalPieces toggler lostBody (.start earlyRegistry)).2.registry.get?
      (leadingWord (String.ofList "lost late".toList)) = none :=
  Option.isNone_iff_eq_none.mp (by decide +kernel)

theorem toggle_notFound :
    SelfContained .builtin Toggling ∧ Toggling earlyRegistry ∧
      (∀ name, (execute 3 "toggle \x7blate \x7btoggle\x7d\x7d" (.start earlyRegistry)).1
        ≠ .error (.notFound name)) ∧
      (execute 3 "late \x7btoggle\x7d" (.start earlyRegistry)).1 = .error (.notFound "late") ∧
      (Scan.outline "a\x7blost \x7btoggle\x7d\x7d").items = [.token ['a'], .group lostBody] ∧
      ((Scan.Item.group lostBody).eval toggler (.start earlyRegistry)).1
        = .ok (String.ofList ('\x7b' :: "lost late".toList ++ ['\x7d'])) ∧
      (scan 3 toggler "a\x7blost \x7btoggle\x7d\x7d" (.start earlyRegistry)).1
        = .ok (.ok ["a", "\x7blost late\x7d"]) := by
  have hearly : Toggling earlyRegistry := .inl rfl
  obtain ⟨hline, hgroup⟩ := execute_notFound_iff toggling_selfContained
  have hbody : Scan.evalPieces toggler lostBody (.start earlyRegistry) = (.ok "lost late".toList,
      (Scan.evalPieces toggler lostBody (.start earlyRegistry)).2) := by
    rw [← lost_text, Prod.mk.eta]
  have hunregistered := (hgroup toggleCommand 3 rfl).2
  rw [← toggler] at hunregistered
  have hlost := (hunregistered lostBody "lost late".toList (.start earlyRegistry) _ hbody
    (by decide) lost_unregistered).2
  refine ⟨toggling_selfContained, hearly, fun name h => ?_, ?_, by cbv, by rw [hlost],
    eq_ok_of_toOption (by decide +kernel)⟩
  · obtain ⟨-, hmissing, -⟩ := (hline 3 _ (.start earlyRegistry) hearly name).mp h
    have hword : leadingWord "toggle \x7blate \x7btoggle\x7d\x7d" = "toggle" := by cbv
    rw [hword] at hmissing
    cases hmissing
  · have hword : leadingWord "late \x7btoggle\x7d" = "late" := by cbv
    refine (hline 3 _ (.start earlyRegistry) hearly "late").mpr ⟨by cbv, ?_, hword.symm⟩
    rw [hword]
    rfl

end LineShell
