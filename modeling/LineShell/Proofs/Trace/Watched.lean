import LineShell.Proofs.Run.Level

/-! Runs under watch. A watched run does what the run does and tells besides, in order, which lines
were executed, which groups were resolved to what, and which tokens were bound. -/

namespace LineShell

inductive Mark
  -- a line whose command was found, and its end, however it came
  | entered (line : String)
  | left
  -- a line without a command, or without room for it
  | refused (line : String)
  -- a group that has closed, and what came of it, with the session by then
  | asked (text : String)
  | answered (outcome : Except Failure String) (session : Session)
  | bound (command : String) (outcome : Except ParameterError BoundParameters)

def Run.result {α : Type} (x : Run α) : Run (Except Failure α) := fun s => (.ok (x s).1, (x s).2)

def Watched (α : Type) := Session → (Except Failure α × Session) × List Mark

namespace Watched

variable {α β : Type}

instance : Monad Watched where
  pure a := fun s => ((.ok a, s), [])
  bind x f := fun s =>
    match (x s).1 with
    | (.ok a, t) => ((f a t).1, (x s).2 ++ (f a t).2)
    | (.error e, t) => ((.error e, t), (x s).2)

def run (x : Watched α) : Run α := fun s => (x s).1

def lift (x : Run α) : Watched α := fun s => (x s, [])

def mark (m : Session → Mark) : Watched Unit := fun s => ((.ok (), s), [m s])

def caught (x : Watched α) : Watched (Except Exception α) := fun s =>
  (Run.caught x.run s, (x s).2)

def result (x : Watched α) : Watched (Except Failure α) := fun s =>
  (Run.result x.run s, (x s).2)

def outcome (o : Except Failure α) : Watched α := fun s => ((o, s), [])

def opened (name : String) (notes : List (String × Datum)) (s : Session) : Session :=
  match s.telemetry.enter? name with
  | none => s
  | some t => { s with telemetry := notes.foldl (fun t a => t.annotate a.1 a.2) t }

def closed (name : String) (s t : Session) : Session :=
  match s.telemetry.enter? name with
  | none => t
  | some _ => { t with telemetry := t.telemetry.leave }

def inLine (line : String) (body : Watched α) : Watched α := fun s =>
  let name := "execute:" ++ leadingWord line
  let notes := [("line", Datum.string line)]
  (Run.inSpan name notes body.run s, .entered line :: ((body (opened name notes s)).2 ++ [.left]))

end Watched

open Watched LineShell.Text

def Script.watch (call : String → Watched String) : Script → Watched String
  | .done result => pure result
  | .fail f => lift (throw f)
  | .execute line rest => do (rest (← call line)).watch call
  | .attempt line rest => do (rest (← caught (call line))).watch call
  | .create d rest => do (rest (← lift (Run.caught (Run.declare d)))).watch call
  | .remove name rest => do (rest (← lift (Run.caught (Run.remove name)))).watch call
  | .survey rest => do
    let r ← lift Run.registry
    (rest (r.commands.map fun e => e.2.signature)).watch call
  | .note label content rest => do
    lift (Run.record (.noted label content))
    rest.watch call

namespace Command

variable (ask call : String → Watched String) (c : Command)

def watchNested (text : String) : Watched String :=
  match c.delegate with
  | .none => pure (literal text)
  | .registry => do
    mark fun _ => .asked text
    let answer ← result (ask text)
    mark (.answered answer)
    outcome (substitute text answer)
  | .outside resolve => do
    lift (Run.record (.asked text))
    let answer ← result ((resolve text).watch call)
    outcome (substitute text answer)

def watchTokens (text : String) : Watched (Except ParameterError BoundParameters) := do
  match ← scan c.maxDepth (c.watchNested ask call) text with
  | .error reached => lift (Run.refuse (.nestingLimit reached.limit))
  | .ok tokens =>
    let types ← lift (Run.typesOf c)
    pure (bind types c.parameters tokens text)

def watchLine (line : String) : Watched (Except ParameterError BoundParameters) :=
  if isBlankText line then lift (Run.refuse .emptyLine)
  else if c.answersTo line then c.watchTokens ask call (parameterText line)
  else lift (Run.refuse (.wrongName c.name (leadingWord line)))

def watch (line : String) : Watched String := do
  let found ← c.watchLine ask call line
  mark fun _ => .bound c.name found
  lift (Run.record (c.entry found))
  (c.answer found).watch call

end Command

def unwatched (budget : Nat) (line : String) : Watched String :=
  lift (execute budget line)

/-- Executes a line under watch. The lines of its groups are watched too, those that scripts execute
are if `scripts` says so. -/
def watch (scripts : Bool) : Nat → String → Watched String
  | 0, line => fun s => (execute 0 line s, [.refused line])
  | n + 1, line => fun s =>
    match s.registry.dispatch line with
    | .error e => ((.error (.command e), s), [.refused line])
    | .ok c =>
      let call := if scripts then watch scripts n else unwatched n
      inLine line (c.clone.watch (watch scripts n) call line) s

namespace Watched

variable {α β : Type}

lemma inLine_apply (line : String) (body : Watched α) (s : Session) :
    inLine line body s =
      let name := "execute:" ++ leadingWord line
      let inner := body (opened name [("line", .string line)] s)
      ((inner.1.1, closed name s inner.1.2), .entered line :: (inner.2 ++ [.left])) := by
  cases h : s.telemetry.enter? ("execute:" ++ leadingWord line) with
  | none => simp only [inLine, opened, closed, h, Run.inSpan_of_none h, run]
  | some t => simp only [inLine, opened, closed, h, Run.inSpan_of_some h, run]

@[simp] lemma run_pure (a : α) : run (pure a : Watched α) = pure a := rfl

@[simp] lemma run_lift (x : Run α) : run (lift x) = x := rfl

@[simp] lemma run_mark (m : Session → Mark) : run (mark m) = pure () := rfl

@[simp] lemma run_outcome (o : Except Failure α) : run (outcome o) = fun s => (o, s) := rfl

@[simp] lemma run_caught (x : Watched α) : run (caught x) = Run.caught x.run := rfl

@[simp] lemma run_result (x : Watched α) : run (result x) = Run.result x.run := rfl

lemma bind_apply (x : Watched α) (f : α → Watched β) (s : Session) :
    (x >>= f) s =
      match (x s).1 with
      | (.ok a, t) => ((f a t).1, (x s).2 ++ (f a t).2)
      | (.error e, t) => ((.error e, t), (x s).2) := rfl

lemma bind_of_error {x : Watched α} {s t : Session} {f : Failure} {marks : List Mark}
    (h : x s = ((.error f, t), marks)) (g : α → Watched β) :
    (x >>= g) s = ((.error f, t), marks) := by
  rw [bind_apply, h]

@[simp] lemma run_bind (x : Watched α) (f : α → Watched β) :
    run (x >>= f) = x.run >>= fun a => (f a).run := by
  funext s
  rw [run, bind_apply, Run.bind_apply, run]
  rcases (x s).1 with ⟨e | a, t⟩ <;> rfl

lemma run_scan (resolve : String → Watched String) (maxDepth : Int) (line : String) :
    run (scan maxDepth resolve line) = scan maxDepth (fun text => (resolve text).run) line := by
  have hrun : ∀ (rest : List Char) (st : Scan.State),
      run (Scan.run maxDepth resolve st rest)
        = Scan.run maxDepth (fun text => (resolve text).run) st rest := by
    intro rest
    induction rest with
    | nil => exact fun st => rfl
    | cons c rest ih =>
      intro st
      rw [Scan.run, Scan.run]
      cases Scan.step maxDepth st c with
      | next st' => exact ih st'
      | limit => rfl
      | resolve text andThen => simp only [run_bind, ih]
  simp only [scan, run_bind, run_pure, hrun]

end Watched

lemma Script.run_watch (call : String → Watched String) (σ : Script) :
    (σ.watch call).run = σ.run fun line => (call line).run := by
  induction σ using Script.induction with
  | done result => rfl
  | fail f => rfl
  | execute line rest ih => simp only [Script.watch, Script.run, run_bind, ih]
  | attempt line rest ih => simp only [Script.watch, Script.run, run_bind, run_caught, ih]
  | create d rest ih => simp only [Script.watch, Script.run, run_bind, run_lift, ih]
  | remove name rest ih => simp only [Script.watch, Script.run, run_bind, run_lift, ih]
  | survey rest ih => simp only [Script.watch, Script.run, run_bind, run_lift, ih]
  | note label content rest ih => simp only [Script.watch, Script.run, run_bind, run_lift, ih]

namespace Command

lemma orLiteral_eq (text : String) (x : Run String) :
    (Run.result x >>= fun answer s => (substitute text answer, s))
      = resolveNested.orLiteral text x := by
  funext s
  rw [orLiteral_apply]
  rfl

variable {ask call : String → Watched String}

lemma watchNested_of_registry {c : Command} (h : c.delegate = .registry) (text : String)
    (s : Session) :
    c.watchNested ask call text s =
      let answer := ask text s
      ((substitute text answer.1.1, answer.1.2),
        .asked text :: (answer.2 ++ [.answered answer.1.1 answer.1.2])) := by
  simp only [watchNested, h]
  rfl

section Erasure

variable {execute : String → Run String}
  (hask : ∀ line, (ask line).run = execute line) (hcall : ∀ line, (call line).run = execute line)
  (c : Command)

include hcall

lemma run_watch_script (σ : Script) : (σ.watch call).run = σ.run execute := by
  rw [Script.run_watch, funext hcall]

include hask

lemma run_watchNested (text : String) :
    (c.watchNested ask call text).run = c.resolveNested execute text := by
  simp only [watchNested, resolveNested]
  cases c.delegate with
  | none => rfl
  | registry =>
    simp only [run_bind, run_mark, run_result, run_outcome, pure_bind, hask]
    exact orLiteral_eq text _
  | outside f =>
    simp only [run_bind, run_lift, run_result, run_outcome, run_watch_script hcall]
    funext s
    rw [orLiteral_apply]
    rfl

lemma run_watchTokens (text : String) :
    (c.watchTokens ask call text).run = c.readTokens execute text := by
  simp only [watchTokens, readTokens, run_bind, run_scan, run_watchNested hask hcall]
  congr 1
  funext scanned
  cases scanned <;> rfl

lemma run_watchLine (line : String) :
    (c.watchLine ask call line).run = c.readLine execute line := by
  simp only [watchLine, readLine]
  split
  · rfl
  · split
    · exact c.run_watchTokens hask hcall _
    · rfl

lemma run_watch (line : String) : (c.watch ask call line).run = c.run execute line := by
  rw [run_eq]
  simp only [watch, run_bind, run_mark, run_lift, pure_bind, c.run_watchLine hask hcall,
    run_watch_script hcall]
  rfl

end Erasure

end Command

lemma watch_of_dispatch_error (scripts : Bool) (budget : Nat) {line : String} {s : Session}
    {e : CommandError} (h : s.registry.dispatch line = .error e) :
    watch scripts budget line s = ((.error (.command e), s), [.refused line]) := by
  cases budget with
  | zero => simp only [watch, execute_of_dispatch_error h]
  | succ n => simp only [watch, h]

lemma watch_zero_apply (scripts : Bool) {line : String} {s : Session} {c : Command}
    (h : s.registry.dispatch line = .ok c) :
    watch scripts 0 line s = ((.error .tooDeep, s), [.refused line]) := by
  simp only [watch, execute_zero_apply h]

lemma watch_succ_apply (scripts : Bool) (n : Nat) {line : String} {s : Session} {c : Command}
    (h : s.registry.dispatch line = .ok c) :
    watch scripts (n + 1) line s =
      inLine line (c.clone.watch (watch scripts n)
        (if scripts then watch scripts n else unwatched n) line) s := by
  simp only [watch, h]

lemma run_watch (scripts : Bool) (budget : Nat) (line : String) :
    (watch scripts budget line).run = execute budget line := by
  induction budget generalizing line with
  | zero => rfl
  | succ n ih =>
    have hcall : ∀ line, Watched.run ((if scripts then watch scripts n else unwatched n) line)
        = execute n line := by
      intro line
      cases scripts with
      | true => exact ih line
      | false => rfl
    funext s
    rw [Watched.run]
    cases hd : s.registry.dispatch line with
    | error e => rw [watch_of_dispatch_error scripts _ hd, execute_of_dispatch_error hd]
    | ok c =>
      rw [watch_succ_apply scripts n hd, execute_succ_apply hd, ← c.clone.run_watch ih hcall]
      rfl

end LineShell
