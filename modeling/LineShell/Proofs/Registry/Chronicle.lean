import LineShell.Proofs.Trace.Account

/-! Runs with a ledger. A ledger tells of every call that may change a registry what the registry
was before and after it, wherever the call was made, and of every line and every failure of a
script when it came. -/

namespace LineShell

open Run LineShell.Text

inductive Change
  | add (given : Option Command)
  | create (d : Definition Script)
  | decorate (d : Definition Script) (doc : String)
  | remove (name : String)

namespace Change

def run : Change → Run Unit
  | .add given => do
    match (← registry).addGiven given with
    | .ok r => setRegistry r
    | .error f => throw f
  | .create d => declare d
  | .decorate d doc => declare (Registry.documented d doc)
  | .remove name => Run.remove name

def registers? : Change → Option String
  | .add given => given.map (·.name)
  | .create d => some d.name
  | .decorate d _ => some d.name
  | .remove _ => none

def frees? : Change → Option String
  | .remove name => some name
  | _ => none

end Change

inductive Deed
  | called (change : Change) (before : Registry) (failure : Option Failure) (after : Registry)
  | raised (failure : Failure)
  | arrived (line : String) (registry : Registry)

/-- A session with what was done in it, the latest first. -/
structure Ledger where
  session : Session
  deeds : List Deed

abbrev Chronicle := ExceptT Failure (StateM Ledger)

namespace Chronicle

variable {α : Type}

def lift (x : Run α) : Chronicle α := fun a =>
  ((x a.session).1, { a with session := (x a.session).2 })

def change (c : Change) : Chronicle Unit := fun a =>
  let (outcome, after) := c.run a.session
  (outcome, ⟨after,
    .called c a.session.registry (failure? outcome) after.registry :: a.deeds⟩)

def raise (f : Failure) : Chronicle α := fun a =>
  (.error f, { a with deeds := .raised f :: a.deeds })

def arrive (line : String) : Chronicle Unit := fun a =>
  (.ok (), { a with deeds := .arrived line a.session.registry :: a.deeds })

def caught (x : Chronicle α) : Chronicle (Except Exception α) := fun a =>
  (handled (x a).1, (x a).2)

def orLiteral (text : String) (answer : Chronicle String) : Chronicle String := fun a =>
  (Command.substitute text (answer a).1, (answer a).2)

def inSpan (name : String) (notes : List (String × Datum)) (body : Chronicle α) : Chronicle α :=
  fun a =>
    let (outcome, b) := body { a with session := Watched.opened name notes a.session }
    (outcome, { b with session := Watched.closed name a.session b.session })

end Chronicle

open Chronicle

def Script.chronicle (call : String → Chronicle String) : Script → Chronicle String
  | .done result => pure result
  | .fail f => raise f
  | .execute line rest => do (rest (← call line)).chronicle call
  | .attempt line rest => do (rest (← caught (call line))).chronicle call
  | .create d rest => do (rest (← caught (change (.create d)))).chronicle call
  | .remove name rest => do (rest (← caught (change (.remove name)))).chronicle call
  | .survey rest => do
    let r ← lift registry
    (rest (r.commands.map fun e => e.2.signature)).chronicle call
  | .note label content rest => do
    lift (record (.noted label content))
    rest.chronicle call

namespace Command

variable (call : String → Chronicle String) (c : Command)

def chronicleNested (text : String) : Chronicle String :=
  match c.delegate with
  | .none => pure (literal text)
  | .registry => orLiteral text (call text)
  | .outside resolve => orLiteral text do
    lift (record (.asked text))
    (resolve text).chronicle call

def chronicleTokens (text : String) : Chronicle (Except ParameterError BoundParameters) := do
  match ← scan c.maxDepth (c.chronicleNested call) text with
  | .error reached => lift (refuse (.nestingLimit reached.limit))
  | .ok tokens =>
    let types ← lift (typesOf c)
    pure (bind types c.parameters tokens text)

def chronicleLine (line : String) : Chronicle (Except ParameterError BoundParameters) :=
  if isBlankText line then lift (refuse .emptyLine)
  else if c.answersTo line then c.chronicleTokens call (parameterText line)
  else lift (refuse (.wrongName c.name (leadingWord line)))

def chronicle (line : String) : Chronicle String := do
  let bound ← c.chronicleLine call line
  lift (record (c.entry bound))
  (c.answer bound).chronicle call

end Command

def chronicle (budget : Nat) (line : String) : Chronicle String := do
  arrive line
  let c ← lift (do ofExcept ((← registry).dispatch line))
  match budget with
  | 0 => throw .tooDeep
  | n + 1 =>
    Chronicle.inSpan ("execute:" ++ leadingWord line) [("line", .string line)]
      (c.clone.chronicle (chronicle n) line)

/-- What is asked of a registry from outside: a change, or to execute a line. -/
inductive Order
  | change (c : Change)
  | execute (budget : Nat) (line : String)

namespace Order

def run : Order → Run (Option String)
  | .change c => do
    c.run
    pure none
  | .execute budget line => do
    let text ← LineShell.execute budget line
    pure (some text)

def chronicle : Order → Chronicle (Option String)
  | .change c => do
    Chronicle.change c
    pure none
  | .execute budget line => do
    let text ← LineShell.chronicle budget line
    pure (some text)

def runAll : List Order → Session → List (Except Failure (Option String)) × Session
  | [], s => ([], s)
  | order :: orders, s =>
    let (outcome, s) := order.run s
    let (outcomes, s) := runAll orders s
    (outcome :: outcomes, s)

def chronicleAll : List Order → Ledger → List (Except Failure (Option String)) × Ledger
  | [], a => ([], a)
  | order :: orders, a =>
    let (outcome, a) := order.chronicle a
    let (outcomes, a) := chronicleAll orders a
    (outcome :: outcomes, a)

end Order

end LineShell
