import LineShell.Proofs.Registry.Orderly

/-! Registries that are changed while their commands run. Whatever the commands do, the registry is
in order after every single change, and a line never gets to a command of another name. -/

namespace LineShell

open Run LineShell.Text

def Failure.IsWrongName (f : Failure) : Prop :=
  ∃ expected actual, f = .command (.wrongName expected actual)

def current (start : Registry) : List Deed → Registry
  | [] => start
  | .called _ _ _ after :: _ => after
  | .raised _ :: past => current start past
  | .arrived _ _ :: past => current start past

/-- What a deed tells of the registry is true of the one that it found. A call that failed has left
it as it was. -/
def Deed.Fits (found : Registry) : Deed → Prop
  | .called _ before failure after => before = found ∧ (failure.isSome → after = before)
  | .arrived _ registry => registry = found
  | .raised _ => True

def Balanced (start : Registry) : List Deed → Prop
  | [] => start.Orderly []
  | d :: past =>
    d.Fits (current start past) ∧ (current start (d :: past)).Orderly (d :: past) ∧
      Balanced start past

structure Ledger.Sound (start : Registry) (a : Ledger) : Prop where
  current : a.session.registry = current start a.deeds
  balanced : Balanced start a.deeds

structure Ends {α : Type} (start : Registry) (V : α → Prop) (x : Chronicle α) (y : Run α)
    (a : Ledger) : Prop where
  outcome : (x a).1 = (y a.session).1
  session : (x a).2.session = (y a.session).2
  sound : (x a).2.Sound start
  value : ∀ v, (x a).1 = .ok v → V v
  deeds : ∃ more, (x a).2.deeds = more ++ a.deeds ∧
    ∀ f, f.IsWrongName → (x a).1 = .error f → .raised f ∈ more

def Keeps {α : Type} (start : Registry) (V : α → Prop) (x : Chronicle α) (y : Run α) : Prop :=
  ∀ a : Ledger, a.Sound start → Ends start V x y a

lemma Registry.create_cases (r : Registry) (d : Definition Script) :
    (∃ e, ¬ (Failure.command e).IsWrongName ∧ r.create d = .error e) ∨
    ∃ c : Command, c.name ∉ r.names ∧ d.name = c.name ∧
      r.create d = .ok (c, { r with commands := r.commands ++ [(c.name, c)] }) := by
  cases hb : r.build d with
  | error e =>
    refine .inl ⟨e, ?_, ?_⟩
    · rw [build] at hb
      split at hb
      · cases hb
      · cases hb
        rintro ⟨expected, actual, ⟨⟩⟩
    · exact create_of_invalid hb
  | ok c =>
    have hname := build_name hb
    by_cases htaken : d.name ∈ r.names
    · exact .inl ⟨_, by rintro ⟨expected, actual, ⟨⟩⟩, create_of_taken hb htaken⟩
    · refine .inr ⟨c, hname ▸ htaken, hname.symm, ?_⟩
      rw [create_of_free hb htaken, hname]

namespace Change

lemma run_cases (c : Change) (s : Session) :
    (∃ f, ¬ f.IsWrongName ∧ c.run s = (.error f, s)) ∨
    (∃ made : Command, made.name ∉ s.registry.names ∧
      c.registers? = some made.name ∧ c.frees? = none ∧
      c.run s = (.ok (), { s with registry :=
        { s.registry with commands := s.registry.commands ++ [(made.name, made)] } })) ∨
    (∃ name, c.registers? = none ∧ c.frees? = some name ∧
      c.run s = (.ok (), { s with registry :=
        { s.registry with commands := s.registry.commands.erase name } })) := by
  have hcreated : ∀ d : Definition Script, c.registers? = some d.name → c.frees? = none →
      c.run = declare d →
      (∃ f, ¬ f.IsWrongName ∧ c.run s = (.error f, s)) ∨
      (∃ made : Command, made.name ∉ s.registry.names ∧
        c.registers? = some made.name ∧ c.frees? = none ∧
        c.run s = (.ok (), { s with registry :=
          { s.registry with commands := s.registry.commands ++ [(made.name, made)] } })) := by
    intro d hregisters hfrees hrun
    rcases s.registry.create_cases d with ⟨e, he, hfails⟩ | ⟨made, hnew, hname, hmakes⟩
    · refine .inl ⟨.command e, he, ?_⟩
      rw [hrun, declare_of_error hfails]
    · refine .inr ⟨made, hnew, hname ▸ hregisters, hfrees, ?_⟩
      rw [hrun, declare_of_ok hmakes]
  cases c with
  | add given =>
    cases given with
    | none => exact .inl ⟨_, by rintro ⟨expected, actual, ⟨⟩⟩, rfl⟩
    | some c =>
      cases htaken : s.registry.contains c.name with
      | true =>
        refine .inl ⟨.command (.duplicateName c.name), by rintro ⟨expected, actual, ⟨⟩⟩, ?_⟩
        rw [run, registry_bind]
        simp [Registry.addGiven, Registry.add, htaken, Except.mapError]
        rfl
      | false =>
        have hnew : c.name ∉ s.registry.names := by
          rw [← Registry.contains_iff, htaken]
          exact Bool.false_ne_true
        refine .inr (.inl ⟨c, hnew, rfl, rfl, ?_⟩)
        rw [run, registry_bind]
        simp [Registry.addGiven, Registry.add, htaken, Except.mapError]
        rfl
  | create d => exact (hcreated d rfl rfl rfl).imp_right .inl
  | decorate d doc => exact (hcreated (Registry.documented d doc) rfl rfl rfl).imp_right .inl
  | remove name =>
    rw [run, Run.remove, registry_bind, Registry.remove]
    split
    · exact .inr (.inr ⟨name, rfl, rfl, rfl⟩)
    · exact .inl ⟨.command (.notFound name), by rintro ⟨expected, actual, ⟨⟩⟩, rfl⟩

end Change

variable {α β : Type} {start : Registry} {U : α → Prop} {V : β → Prop}

lemma Balanced.orderly {deeds : List Deed} (h : Balanced start deeds) :
    (current start deeds).Orderly deeds := by
  cases deeds with
  | nil => exact h
  | cons d past => exact h.2.1

namespace Ledger.Sound

lemma orderly {a : Ledger} (h : a.Sound start) : a.session.registry.Orderly a.deeds := by
  rw [h.current]
  exact h.balanced.orderly

lemma of_registry_eq {a : Ledger} (h : a.Sound start) {s : Session}
    (hs : s.registry = a.session.registry) : Ledger.Sound start ⟨s, a.deeds⟩ :=
  ⟨hs.trans h.current, h.balanced⟩

lemma enter {a : Ledger} (h : a.Sound start) {d : Deed} (hfits : d.Fits a.session.registry)
    (hr : ∀ name, d.registers name = false) (hf : ∀ name, d.frees name = false)
    (hcurrent : LineShell.current start (d :: a.deeds) = LineShell.current start a.deeds) :
    Ledger.Sound start ⟨a.session, d :: a.deeds⟩ := by
  refine ⟨h.current.trans hcurrent.symm, ?_, ?_, h.balanced⟩
  · rw [← h.current]
    exact hfits
  · rw [hcurrent]
    exact h.balanced.orderly.idle hr hf

end Ledger.Sound

namespace Keeps

lemma pure {v : α} (hv : U v) : Keeps start U (pure v) (pure v) := by
  refine fun a ha => ⟨rfl, rfl, ha, ?_, [], rfl, ?_⟩
  · rintro _ ⟨⟩
    exact hv
  · rintro f - ⟨⟩

lemma throw {f : Failure} (hf : ¬ f.IsWrongName) : Keeps start U (throw f) (throw f) := by
  refine fun a ha => ⟨rfl, rfl, ha, ?_, [], rfl, ?_⟩
  · rintro _ ⟨⟩
  · rintro _ hwrong ⟨⟩
    exact (hf hwrong).elim

lemma bind {x : Chronicle α} {y : Run α} {f : α → Chronicle β} {g : α → Run β}
    (hx : Keeps start U x y) (hf : ∀ v, U v → Keeps start V (f v) (g v)) :
    Keeps start V (x >>= f) (y >>= g) := by
  intro a ha
  obtain ⟨houtcome, hsession, hsound, hvalue, more, hmore, hwrong⟩ := hx a ha
  have hbind : (x >>= f) a = ExceptT.bindCont f (x a).1 (x a).2 := rfl
  cases hv : (x a).1 with
  | error e =>
    rw [hv] at houtcome
    refine ⟨?_, ?_, ?_, ?_, more, ?_, ?_⟩
    all_goals rw [hbind, hv]
    · rw [bind_apply, ← houtcome]
      rfl
    · rw [bind_apply, ← houtcome]
      exact hsession
    · exact hsound
    · rintro _ ⟨⟩
    · exact hmore
    · rintro _ hf ⟨⟩
      exact hwrong e hf hv
  | ok v =>
    rw [hv] at houtcome
    obtain ⟨houtcome', hsession', hsound', hvalue', more', hmore', hwrong'⟩ :=
      hf v (hvalue v hv) (x a).2 hsound
    have hgo : (x >>= f) a = f v (x a).2 := by rw [hbind, hv]; rfl
    have hrun : (y >>= g) a.session = g v (x a).2.session := by
      rw [bind_apply, ← houtcome, hsession]
      rfl
    rw [← hgo] at houtcome' hsession' hsound' hvalue' hmore' hwrong'
    rw [← hrun] at houtcome' hsession'
    refine ⟨houtcome', hsession', hsound', hvalue', more' ++ more, ?_, ?_⟩
    · rw [hmore', hmore, List.append_assoc]
    · exact fun e he h => List.mem_append_left _ (hwrong' e he h)

lemma lift {x : Run α} (hregistry : ∀ s, (x s).2.registry = s.registry)
    (hwrong : ∀ s past, s.registry.Orderly past → ∀ f, (x s).1 = .error f → ¬ f.IsWrongName)
    (hvalue : ∀ s past, s.registry.Orderly past → ∀ v, (x s).1 = .ok v → U v) :
    Keeps start U (Chronicle.lift x) x := by
  refine fun a ha => ⟨rfl, rfl, ha.of_registry_eq (hregistry a.session),
    hvalue a.session a.deeds ha.orderly, [], rfl, ?_⟩
  exact fun f hf h => (hwrong a.session a.deeds ha.orderly f h hf).elim

lemma refuse {e : CommandError} (he : ¬ (Failure.command e).IsWrongName) :
    Keeps start U (Chronicle.lift (refuse e)) (refuse e) := by
  refine lift (fun _ => rfl) ?_ ?_
  · rintro s past - _ ⟨⟩
    exact he
  · rintro s past - _ ⟨⟩

lemma registry : Keeps start (fun _ => True) (Chronicle.lift registry) registry :=
  lift (fun _ => rfl) (by rintro s past - _ ⟨⟩) fun _ _ _ _ _ => trivial

lemma typesOf (c : Command) :
    Keeps start (fun _ => True) (Chronicle.lift (Run.typesOf c)) (Run.typesOf c) :=
  lift (fun _ => rfl) (by rintro s past - _ ⟨⟩) fun _ _ _ _ _ => trivial

lemma record (e : Event) :
    Keeps start (fun _ => True) (Chronicle.lift (Run.record e)) (Run.record e) :=
  lift (fun _ => rfl) (by rintro s past - _ ⟨⟩) fun _ _ _ _ _ => trivial

lemma raise (f : Failure) : Keeps start U (Chronicle.raise f) (MonadExcept.throw f) := by
  intro a ha
  refine ⟨rfl, rfl, ?_, ?_, [.raised f], rfl, ?_⟩
  · exact ha.enter trivial (fun _ => rfl) (fun _ => rfl) rfl
  · rintro _ ⟨⟩
  · rintro _ - ⟨⟩
    exact List.mem_singleton_self _

lemma arrive (line : String) :
    Keeps start (fun _ => True) (Chronicle.arrive line) (Pure.pure ()) := by
  intro a ha
  refine ⟨rfl, rfl, ?_, fun _ _ => trivial, [.arrived line a.session.registry], rfl, ?_⟩
  · exact ha.enter rfl (fun _ => rfl) (fun _ => rfl) rfl
  · rintro _ - ⟨⟩

lemma change (c : Change) : Keeps start (fun _ => True) (Chronicle.change c) c.run := by
  intro a ha
  have hsteps : ∀ s' o, c.run a.session = (o, s') →
      s'.registry.Orderly (.called c a.session.registry (failure? o) s'.registry :: a.deeds) →
      ((failure? o).isSome → s'.registry = a.session.registry) →
      (∀ f, o = .error f → ¬ f.IsWrongName) →
        Ends start (fun _ => True) (Chronicle.change c) c.run a := by
    intro s' o hrun horderly hkept hwrong
    have hledger : Chronicle.change c a
        = (o, ⟨s', .called c a.session.registry (failure? o) s'.registry :: a.deeds⟩) := by
      rw [Chronicle.change, hrun]
    refine ⟨?_, ?_, ?_, fun _ _ => trivial, [.called c a.session.registry (failure? o) s'.registry],
      ?_, ?_⟩
    all_goals rw [hledger]
    · rw [hrun]
    · rw [hrun]
    · exact ⟨rfl, ⟨ha.current, hkept⟩, horderly, ha.balanced⟩
    · rfl
    · exact fun f hf h => (hwrong f h hf).elim
  rcases c.run_cases a.session with ⟨f, hf, hrun⟩ | ⟨made, hnew, hr, hfree, hrun⟩ |
    ⟨name, hr, hfree, hrun⟩
  · refine hsteps _ _ hrun (ha.orderly.idle (fun _ => rfl) fun _ => rfl) (fun _ => rfl) ?_
    rintro _ ⟨⟩
    exact hf
  · refine hsteps _ _ hrun (ha.orderly.add hnew ?_ ?_) (by rintro ⟨⟩) (by rintro _ ⟨⟩)
    · intro name
      change (c.registers? == some name) = true ↔ name = made.name
      rw [hr, beq_iff_eq, Option.some_inj, eq_comm]
    · intro name
      simp [Deed.frees, failure?, hfree]
  · refine hsteps _ _ hrun (ha.orderly.remove ?_ ?_) (by rintro ⟨⟩) (by rintro _ ⟨⟩)
    · intro other
      simp [Deed.registers, failure?, hr]
    · intro other
      change (c.frees? == some other) = true ↔ other = name
      rw [hfree, beq_iff_eq, Option.some_inj, eq_comm]

lemma caught {x : Chronicle α} {y : Run α} (h : Keeps start U x y) :
    Keeps start (fun _ => True) (Chronicle.caught x) (Run.caught y) := by
  intro a ha
  obtain ⟨houtcome, hsession, hsound, -, more, hmore, -⟩ := h a ha
  refine ⟨congrArg handled houtcome, hsession, hsound, fun _ _ => trivial, more, hmore, ?_⟩
  -- Only the end of the program gets past the handler.
  rintro f ⟨expected, actual, rfl⟩ hf
  change handled (x a).1 = _ at hf
  generalize (x a).1 = outcome at hf
  rcases outcome with (e | code) | v <;> cases hf

lemma orLiteral {x : Chronicle String} {y : Run String} (h : Keeps start (fun _ => True) x y)
    (text : String) :
    Keeps start (fun _ => True) (Chronicle.orLiteral text x)
      (Command.resolveNested.orLiteral text y) := by
  intro a ha
  obtain ⟨houtcome, hsession, hsound, -, more, hmore, hwrong⟩ := h a ha
  refine ⟨?_, ?_, hsound, fun _ _ => trivial, more, hmore, ?_⟩
  · rw [Command.orLiteral_apply, ← houtcome]
    rfl
  · rw [Command.orLiteral_apply]
    exact hsession
  · intro f hf h
    change Command.substitute text (x a).1 = .error f at h
    cases hx : (x a).1 with
    | ok answer =>
      rw [hx] at h
      cases h
    | error g =>
      rw [hx] at h
      rcases Command.substitute_error text g with hg | hg
      · rw [hg] at h
        cases h
      · rw [hg] at h
        obtain rfl := Except.error.inj h
        exact hwrong g hf hx

lemma inSpan {x : Chronicle α} {y : Run α} (h : Keeps start U x y) (name : String)
    (notes : List (String × Datum)) :
    Keeps start U (Chronicle.inSpan name notes x) (Run.inSpan name notes y) := by
  intro a ha
  have hopened : (Watched.opened name notes a.session).registry = a.session.registry := by
    rw [Watched.opened]
    split <;> rfl
  have hclosed : ∀ s t, (Watched.closed name s t).registry = t.registry := by
    intro s t
    rw [Watched.closed]
    split <;> rfl
  have hrun : ∀ s, Run.inSpan name notes y s = ((y (Watched.opened name notes s)).1,
      Watched.closed name s (y (Watched.opened name notes s)).2) := by
    intro s
    rw [Watched.opened]
    unfold Watched.closed
    cases henter : s.telemetry.enter? name with
    | none => exact inSpan_of_none henter y
    | some t => exact inSpan_of_some henter y
  obtain ⟨houtcome, hsession, hsound, hvalue, more, hmore, hwrong⟩ :=
    h _ (ha.of_registry_eq hopened)
  refine ⟨?_, ?_, ?_, hvalue, more, hmore, hwrong⟩
  · rw [hrun]
    exact houtcome
  · rw [hrun]
    exact congrArg (Watched.closed name a.session) hsession
  · exact hsound.of_registry_eq (hclosed _ _)

lemma scan {resolve : String → Chronicle String} {resolve' : String → Run String}
    (h : ∀ text, Keeps start (fun _ => True) (resolve text) (resolve' text)) (maxDepth : Int)
    (line : String) :
    Keeps start (fun _ => True) (scan maxDepth resolve line)
      (LineShell.scan maxDepth resolve' line) := by
  have hrun : ∀ (rest : List Char) (st : Scan.State), Keeps start (fun _ => True)
      (Scan.run maxDepth resolve st rest) (Scan.run maxDepth resolve' st rest) := by
    intro rest
    induction rest with
    | nil => exact fun st => .pure trivial
    | cons c rest ih =>
      intro st
      rw [Scan.run, Scan.run]
      cases Scan.step maxDepth st c with
      | next st' => exact ih st'
      | limit => exact .pure trivial
      | resolve text andThen => exact (h text).bind fun a _ => ih (andThen a)
  exact (hrun line.toList .start).bind fun _ _ => .pure trivial

section Calls

variable {call : String → Chronicle String} {call' : String → Run String}
  (hcall : ∀ line, Keeps start (fun _ => True) (call line) (call' line))

include hcall

lemma script (σ : Script) : Keeps start (fun _ => True) (σ.chronicle call) (σ.run call') := by
  induction σ using Script.induction with
  | done result => exact .pure trivial
  | fail f => exact .raise f
  | execute line rest ih => exact (hcall line).bind fun result _ => ih result
  | attempt line rest ih => exact (hcall line).caught.bind fun outcome _ => ih outcome
  | create d rest ih => exact (change (.create d)).caught.bind fun made _ => ih made
  | remove name rest ih => exact (change (.remove name)).caught.bind fun removed _ => ih removed
  | survey rest ih => exact registry.bind fun r _ => ih _
  | note label content rest ih => exact (record _).bind fun _ _ => ih

lemma nested (c : Command) (text : String) :
    Keeps start (fun _ => True) (c.chronicleNested call text) (c.resolveNested call' text) := by
  rw [Command.chronicleNested, Command.resolveNested]
  cases c.delegate with
  | none => exact .pure trivial
  | registry => exact (hcall text).orLiteral text
  | outside resolve => exact ((record _).bind fun _ _ => script hcall (resolve text)).orLiteral text

lemma tokens (c : Command) (text : String) :
    Keeps start (fun _ => True) (c.chronicleTokens call text) (c.readTokens call' text) := by
  refine (scan (nested hcall c) c.maxDepth text).bind fun scanned _ => ?_
  cases scanned with
  | error reached => exact refuse (by rintro ⟨expected, actual, ⟨⟩⟩)
  | ok tokens => exact (typesOf c).bind fun types _ => .pure trivial

lemma command {c : Command} {line : String} (hc : c.answersTo line = true) :
    Keeps start (fun _ => True) (c.chronicle call line) (c.run call' line) := by
  have hline : Keeps start (fun _ => True) (c.chronicleLine call line) (c.readLine call' line) := by
    rw [Command.chronicleLine, Command.readLine, hc]
    split
    · exact refuse (by rintro ⟨expected, actual, ⟨⟩⟩)
    · exact tokens hcall c _
  rw [Command.run_eq]
  exact hline.bind fun bound _ => (record _).bind fun _ _ => script hcall _

end Calls

lemma dispatch (line : String) :
    Keeps start (fun c => c.answersTo line = true)
      (Chronicle.lift (do ofExcept ((← Run.registry).dispatch line)))
      (do ofExcept ((← Run.registry).dispatch line)) := by
  have hcases : ∀ s : Session,
      (do ofExcept ((← Run.registry).dispatch line) : Run Command) s
        = ((s.registry.dispatch line).mapError .command, s) := by
    intro s
    rw [registry_bind]
    cases s.registry.dispatch line <;> rfl
  refine lift (fun s => by rw [hcases]) ?_ ?_
  · intro s past _ f hf
    rw [hcases] at hf
    cases hd : s.registry.dispatch line with
    | ok c =>
      rw [hd] at hf
      cases hf
    | error e =>
      rw [hd] at hf
      cases hf
      rintro ⟨expected, actual, ⟨⟩⟩
      rw [Registry.dispatch] at hd
      split at hd
      · cases hd
      · split at hd <;> cases hd
  · intro s past horderly c hc
    rw [hcases] at hc
    cases hd : s.registry.dispatch line with
    | error e =>
      rw [hd] at hc
      cases hc
    | ok c' =>
      rw [hd] at hc
      obtain rfl := Except.ok.inj hc
      have hkeyed := horderly.keyed _ (Entries.mem_of_get? (Registry.get?_of_dispatch hd))
      rw [Command.answersTo]
      exact beq_iff_eq.mpr hkeyed

lemma execute (budget : Nat) (line : String) :
    Keeps start (fun _ => True) (chronicle budget line) (LineShell.execute budget line) := by
  have harrive : ∀ line, Keeps start (fun _ => True) (Chronicle.arrive line) (Pure.pure ()) :=
    arrive
  induction budget generalizing line with
  | zero =>
    have hlast : Keeps start (fun _ : String => True) (MonadExcept.throw .tooDeep)
        (MonadExcept.throw .tooDeep) := throw (by rintro ⟨expected, actual, ⟨⟩⟩)
    exact (harrive line).bind fun _ _ => (dispatch line).bind fun _ _ => hlast
  | succ n ih =>
    have hrun : ∀ c : Command, c.answersTo line = true → Keeps start (fun _ => True)
        (Chronicle.inSpan ("execute:" ++ leadingWord line) [("line", .string line)]
          (c.clone.chronicle (chronicle n) line))
        (Run.inSpan ("execute:" ++ leadingWord line) [("line", .string line)]
          (c.clone.run (LineShell.execute n) line)) :=
      fun c hc => inSpan (command ih (c := c.clone) hc) _ _
    exact (harrive line).bind fun _ _ => (dispatch line).bind hrun

lemma order (o : Order) : Keeps start (fun _ => True) o.chronicle o.run := by
  cases o with
  | change c => exact (change c).bind fun _ _ => .pure trivial
  | execute budget line => exact (execute budget line).bind fun _ _ => .pure trivial

end Keeps

lemma Order.chronicleAll_keeps (orders : List Order) {a : Ledger} (ha : a.Sound start) :
    (chronicleAll orders a).1 = (runAll orders a.session).1 ∧
      (chronicleAll orders a).2.session = (runAll orders a.session).2 ∧
      (chronicleAll orders a).2.Sound start := by
  induction orders generalizing a with
  | nil => exact ⟨rfl, rfl, ha⟩
  | cons order orders ih =>
    obtain ⟨houtcome, hsession, hsound, -, -⟩ := Keeps.order order a ha
    obtain ⟨houtcomes, hlast, hkept⟩ := ih hsound
    rw [hsession] at houtcomes hlast
    exact ⟨List.cons_eq_cons.mpr ⟨houtcome, houtcomes⟩, hlast, hkept⟩

lemma Balanced.of_suffix {past deeds : List Deed} (h : Balanced start deeds)
    (hpast : past <:+ deeds) : Balanced start past := by
  obtain ⟨later, rfl⟩ := hpast
  induction later with
  | nil => exact h
  | cons d later ih => exact ih h.2.2

/-- Whatever is asked of a registry that starts out empty, and whatever its commands do to it
meanwhile: nothing but the calls of the ledger changes it, and one that fails leaves it as it was.
After every deed it is in order, each stored command answers to its name, and a line that is then
executed ends in a wrong name only if a script raises that failure. -/
theorem registry_stays_orderly (types : TypeTable) (maxDepth : Int) (nested : Bool) (s : Session)
    (orders : List Order) :
    let start := Registry.empty types maxDepth nested
    let s := { s with registry := start }
    let (outcomes, a) := Order.chronicleAll orders ⟨s, []⟩
    (outcomes, a.session) = Order.runAll orders s ∧
      a.session.registry = current start a.deeds ∧
      (∀ d past, d :: past <:+ a.deeds → d.Fits (current start past)) ∧
      ∀ past, past <:+ a.deeds →
        (current start past).Orderly past ∧ (current start past).Reachable ∧
          ∀ t : Session, t.registry = current start past → ∀ budget line f, f.IsWrongName →
            (LineShell.execute budget line t).1 = .error f →
              ∃ more, (chronicle budget line ⟨t, past⟩).2.deeds = more ++ past ∧
                .raised f ∈ more := by
  intro start s
  have hempty : Ledger.Sound start ⟨s, []⟩ := ⟨rfl, Registry.Orderly.empty types maxDepth nested⟩
  obtain ⟨houtcomes, hsession, hsound⟩ := Order.chronicleAll_keeps orders hempty
  refine ⟨Prod.ext houtcomes hsession, hsound.current, ?_, ?_⟩
  · exact fun d past hpast => (hsound.balanced.of_suffix hpast).1
  · intro past hpast
    have hbalanced := hsound.balanced.of_suffix hpast
    refine ⟨hbalanced.orderly, hbalanced.orderly.reachable, ?_⟩
    intro t ht budget line f hf hfailed
    obtain ⟨houtcome, -, -, -, more, hmore, hwrong⟩ :=
      Keeps.execute budget line ⟨t, past⟩ ⟨ht, hbalanced⟩
    exact ⟨more, hmore, hwrong f hf (houtcome.trans hfailed)⟩

def insistent : Definition Script :=
  ⟨"insist", some fun _ => .fail (.command (.wrongName "insist" "other")), [], "", none, none, none⟩

def insisting : List Order :=
  [.change (.create insistent), .change (.create insistent)]

theorem insist_raised :
    let start := Registry.empty .builtin defaultMaxDepth true
    let a := (Order.chronicleAll insisting ⟨.start start, []⟩).2
    a.session.registry.names = ["insist"] ∧ a.session.registry.Orderly a.deeds ∧
      a.session.registry.Reachable ∧
      (LineShell.execute 1 "insist" a.session).1
        = .error (.command (.wrongName "insist" "other")) ∧
      ∃ more, (chronicle 1 "insist" a).2.deeds = more ++ a.deeds ∧
        .raised (.command (.wrongName "insist" "other")) ∈ more := by
  intro start a
  obtain ⟨-, hcurrent, -, hstates⟩ :=
    registry_stays_orderly .builtin defaultMaxDepth true (.start start) insisting
  obtain ⟨horderly, hreachable, hwrong⟩ := hstates a.deeds List.suffix_rfl
  have hfails : (LineShell.execute 1 "insist" a.session).1
      = .error (.command (.wrongName "insist" "other")) := rfl
  refine ⟨rfl, hcurrent ▸ horderly, hcurrent ▸ hreachable, hfails, ?_⟩
  exact hwrong a.session hcurrent 1 "insist" _ ⟨_, _, rfl⟩ hfails

end LineShell
