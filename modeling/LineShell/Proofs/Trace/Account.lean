import LineShell.Proofs.Trace.Watched

/-! Accounts of runs: what relates the session before, the marks, the failure and the session after.
An account that survives the steps of a run holds of whole runs. -/

namespace LineShell

open Watched

abbrev Account := Session → List Mark → Option Failure → Session → Prop

def failure? {α : Type} : Except Failure α → Option Failure
  | .ok _ => none
  | .error f => some f

namespace Account

structure Chains (P : Account) : Prop where
  quiet : ∀ {s t} r, t.telemetry = s.telemetry → P s [] r t
  andThen : ∀ {s t u a b r}, P s a none t → P t b r u → P s (a ++ b) r u

structure Threads (P : Account) : Prop extends P.Chains where
  caught : ∀ {s a r t}, P s a r t → P s a none t

/-- The account `P` holds of lines and their groups, provided that `Q` holds of the scripts that
commands run. -/
structure Law (P Q : Account) : Prop extends P.Chains where
  threads : Q.Threads
  script : ∀ {s a r t}, Q s a r t → P s a r t
  bound : ∀ s name found, P s [.bound name found] none s
  group : ∀ {s a t} text answer, P s a (failure? answer) t →
    P s (.asked text :: (a ++ [.answered answer t])) (failure? (Command.substitute text answer)) t
  refused : ∀ s line f, P s [.refused line] (some f) s
  inLine : ∀ {s a r t} line,
    P (opened ("execute:" ++ leadingWord line) [("line", .string line)] s) a r t →
      P s (.entered line :: (a ++ [.left])) r (closed ("execute:" ++ leadingWord line) s t)

end Account

variable {α β : Type} {P Q : Account}

def Watched.Obeys (P : Account) (x : Watched α) : Prop :=
  ∀ s, P s (x s).2 (failure? (x s).1.1) (x s).1.2

namespace Watched.Obeys

lemma pure (hP : P.Chains) (a : α) : Obeys P (pure a) :=
  fun _ => hP.quiet _ rfl

lemma lift (hP : P.Chains) {x : Run α} (hx : ∀ s, (x s).2.telemetry = s.telemetry) :
    Obeys P (lift x) :=
  fun s => hP.quiet _ (hx s)

lemma outcome (hP : P.Chains) (o : Except Failure α) : Obeys P (outcome o) :=
  fun _ => hP.quiet _ rfl

lemma result (hP : P.Threads) {x : Watched α} (hx : Obeys P x) : Obeys P (result x) :=
  fun s => hP.caught (hx s)

lemma caught (hP : P.Threads) {x : Watched α} (hx : Obeys P x) : Obeys P (caught x) := by
  intro s
  have hs := hx s
  change P s (x s).2 (failure? (Run.handled (x s).1.1)) (x s).1.2
  generalize (x s).1.1 = outcome at hs
  rcases outcome with (e | code) | a
  · exact hP.caught hs
  · exact hs
  · exact hs

lemma bind (hP : P.Chains) {x : Watched α} {f : α → Watched β} (hx : Obeys P x)
    (hf : ∀ a, Obeys P (f a)) : Obeys P (x >>= f) := by
  intro s
  have hs := hx s
  rw [bind_apply]
  generalize (x s).1 = inner at hs
  obtain ⟨e | a, t⟩ := inner
  · exact hs
  · exact hP.andThen hs (hf a t)

lemma scan (hP : P.Chains) {resolve : String → Watched String}
    (h : ∀ text, Obeys P (resolve text)) (maxDepth : Int) (line : String) :
    Obeys P (scan maxDepth resolve line) := by
  have hrun : ∀ (rest : List Char) (st : Scan.State),
      Obeys P (Scan.run maxDepth resolve st rest) := by
    intro rest
    induction rest with
    | nil => exact fun st => .pure hP _
    | cons c rest ih =>
      intro st
      rw [Scan.run]
      cases Scan.step maxDepth st c with
      | next st' => exact ih st'
      | limit => exact .pure hP _
      | resolve text andThen => exact (h text).bind hP fun a => ih (andThen a)
  exact (hrun line.toList .start).bind hP fun _ => .pure hP _

end Watched.Obeys

lemma Run.declare_telemetry (d : Definition Script) (s : Session) :
    (Run.declare d s).2.telemetry = s.telemetry := by
  cases h : s.registry.create d with
  | ok made => rw [declare_of_ok h]
  | error e => rw [declare_of_error h]

lemma Run.remove_telemetry (name : String) (s : Session) :
    (Run.remove name s).2.telemetry = s.telemetry := by
  cases h : s.registry.remove name with
  | ok r => rw [remove_of_ok h]
  | error e => rw [remove_of_error h]

lemma Script.watch_obeys (hP : P.Threads) {call : String → Watched String}
    (hcall : ∀ line, Obeys P (call line)) (σ : Script) : Obeys P (σ.watch call) := by
  have hchains := hP.toChains
  induction σ using Script.induction with
  | done result => exact .pure hchains result
  | fail f => exact .lift hchains fun _ => rfl
  | execute line rest ih => exact (hcall line).bind hchains ih
  | attempt line rest ih => exact ((hcall line).caught hP).bind hchains ih
  | create d rest ih =>
    have hdeclare : Obeys P (lift (Run.caught (Run.declare d))) :=
      .lift hchains (Run.declare_telemetry d)
    exact hdeclare.bind hchains ih
  | remove name rest ih =>
    have hremove : Obeys P (lift (Run.caught (Run.remove name))) :=
      .lift hchains (Run.remove_telemetry name)
    exact hremove.bind hchains ih
  | survey rest ih =>
    have hregistry : Obeys P (lift Run.registry) := .lift hchains fun _ => rfl
    exact hregistry.bind hchains fun r => ih _
  | note label content rest ih =>
    have hrecord : Obeys P (lift (Run.record (.noted label content))) := .lift hchains fun _ => rfl
    exact hrecord.bind hchains fun _ => ih

namespace Command

variable {ask call : String → Watched String} (hP : P.Law Q) (hask : ∀ text, Obeys P (ask text))
  (hcall : ∀ line, Obeys Q (call line)) (c : Command)

include hP hask hcall

lemma watchNested_obeys (text : String) : Obeys P (c.watchNested ask call text) := by
  have hchains := hP.toChains
  cases hd : c.delegate with
  | none =>
    simp only [watchNested, hd]
    exact .pure hchains _
  | registry =>
    intro s
    rw [watchNested_of_registry hd]
    exact hP.group text _ (hask text s)
  | outside f =>
    simp only [watchNested, hd]
    have hscript := (Script.watch_obeys hP.threads hcall (f text)).result hP.threads
    have hanswer : Obeys P (result ((f text).watch call)) := fun s => hP.script (hscript s)
    have hrecord : Obeys P (lift (Run.record (.asked text))) := .lift hchains fun _ => rfl
    exact hrecord.bind hchains fun _ => hanswer.bind hchains fun _ => .outcome hchains _

lemma watchLine_obeys (line : String) : Obeys P (c.watchLine ask call line) := by
  have hchains := hP.toChains
  simp only [watchLine]
  split
  · exact .lift hchains fun _ => rfl
  · split
    · refine (Obeys.scan hchains (c.watchNested_obeys hP hask hcall) _ _).bind hchains ?_
      rintro (reached | tokens)
      · exact .lift hchains fun _ => rfl
      · have htypes : Obeys P (lift (Run.typesOf c)) := .lift hchains fun _ => rfl
        exact htypes.bind hchains fun _ => .pure hchains _
    · exact .lift hchains fun _ => rfl

lemma watch_obeys (line : String) : Obeys P (c.watch ask call line) := by
  have hchains := hP.toChains
  refine (c.watchLine_obeys hP hask hcall line).bind hchains fun found => ?_
  have hbound : Obeys P (mark fun _ => .bound c.name found) := fun s => hP.bound s c.name found
  have hrecord : Obeys P (lift (Run.record (c.entry found))) := .lift hchains fun _ => rfl
  have hscript := Script.watch_obeys hP.threads hcall (c.answer found)
  exact hbound.bind hchains fun _ => hrecord.bind hchains fun _ s => hP.script (hscript s)

end Command

lemma watch_obeys {scripts : Bool} (hP : P.Law Q)
    (hscripts : ∀ n, (∀ line, Obeys P (watch scripts n line)) →
      ∀ line, Obeys Q ((if scripts then watch scripts n else unwatched n) line))
    (budget : Nat) (line : String) : Obeys P (watch scripts budget line) := by
  induction budget generalizing line with
  | zero =>
    intro s
    cases hd : s.registry.dispatch line with
    | error e =>
      rw [watch_of_dispatch_error scripts 0 hd]
      exact hP.refused s line _
    | ok c =>
      rw [watch_zero_apply scripts hd]
      exact hP.refused s line _
  | succ n ih =>
    intro s
    cases hd : s.registry.dispatch line with
    | error e =>
      rw [watch_of_dispatch_error scripts _ hd]
      exact hP.refused s line _
    | ok c =>
      rw [watch_succ_apply scripts n hd, inLine_apply]
      exact hP.inLine line (c.clone.watch_obeys hP ih (hscripts n ih) line _)

end LineShell
