import LineShell.Cli.App

namespace LineShell.Cli.Shell

open LineShell.Text

inductive Turn
  | next (failures : Nat)
  | ended (exitCode : Nat)
  deriving DecidableEq, Repr

def prompt : Step Unit := do
  let a ← get
  if a.interactive then App.write (.output (dropEscapes a.settings.shell.prompt))

def close (failures : Nat) : Step Turn := do
  let a ← get
  if a.interactive then App.say ""
  if failures ≠ 0 ∧ !a.settings.quiet ∧ !a.settings.jsonOutput then
    App.warn (Decimal.natText failures ++ " line(s) failed")
  return .ended 0

def turn (stopOnError : Bool) (failures : Nat) : Option String → Step Turn
  | none => close failures
  | some line => do
    let word := stripped line
    if word.isEmpty then return .next failures
    if (← get).settings.shell.exitWords.contains word then close failures
    else if ← App.execute line then return .next failures
    else if stopOnError then return .ended 1
    else return .next (failures + 1)

def loop (stopOnError : Bool) (failures : Nat) : List String → Step Nat
  | [] => do
    prompt
    match ← turn stopOnError failures none with
    | .ended code => return code
    | .next _ => return 0
  | line :: rest => do
    prompt
    match ← turn stopOnError failures (some line) with
    | .ended code => return code
    | .next failures => loop stopOnError failures rest

def lines (input : String) : List String :=
  go [] input.toList
where
  go (line : List Char) : List Char → List String
    | '\r' :: '\n' :: rest => String.ofList line.reverse :: go [] rest
    | c :: rest =>
      if c = '\n' || c = '\r' then String.ofList line.reverse :: go [] rest
      else go (c :: line) rest
    | [] => if line.isEmpty then [] else [String.ofList line.reverse]

end LineShell.Cli.Shell
