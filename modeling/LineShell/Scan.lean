/-!
Scanning a parameter text into tokens. Words are separated by spaces, double quotes hold one token
together, and a group between braces is replaced by what a resolver returns for it: a group inside
another one within its text, an outermost group as a token of its own.

Characters are read one after the other. A group is resolved when its brace closes, so inner groups
come before outer ones and the rest goes from left to right.
-/

namespace LineShell

structure LimitReached where
  limit : Int
  deriving DecidableEq, Repr

namespace Scan

inductive Mode
  | bare (word : List Char)
  | quoted (word : List Char)
  /-- Within groups: the word before the outermost one, the text of the innermost group so far, and
  those of the groups around it from the inside out. -/
  | grouped (word : List Char) (group : List Char) (outer : List (List Char))
  deriving DecidableEq, Repr

/-- The tokens so far, backwards, the place in the text, and whether a quote or a brace has just
closed: an opening brace right after it is an ordinary character. -/
structure State where
  tokens : List String
  mode : Mode
  justClosed : Bool
  deriving DecidableEq, Repr

def State.start : State := ⟨[], .bare [], false⟩

def textOf (backwards : List Char) : String :=
  String.ofList backwards.reverse

def addWord (word : List Char) (tokens : List String) : List String :=
  if word.isEmpty then tokens else textOf word :: tokens

def reaches (maxDepth : Int) (openGroups : Nat) : Bool :=
  maxDepth ≠ 0 && maxDepth ≤ openGroups

inductive Step
  | next (state : State)
  | limit
  | resolve (text : String) (andThen : String → State)

def bareStep (maxDepth : Int) (tokens : List String) (word : List Char) (justClosed : Bool)
    (c : Char) : Step :=
  if c = '\x7b' && !justClosed then
    if reaches maxDepth 0 then .limit else .next ⟨tokens, .grouped word [] [], false⟩
  else if c = '"' then .next ⟨tokens, .quoted word, false⟩
  else if c = ' ' then .next ⟨addWord word tokens, .bare [], false⟩
  else .next ⟨tokens, .bare (c :: word), false⟩

def quotedStep (tokens : List String) (word : List Char) (c : Char) : Step :=
  if c = '"' then .next ⟨textOf word :: tokens, .bare [], true⟩
  else .next ⟨tokens, .quoted (c :: word), false⟩

def closeGroup (tokens : List String) (word : List Char) :
    List (List Char) → String → State
  | [], result => ⟨result :: addWord word tokens, .bare [], true⟩
  | group :: outer, result => ⟨tokens, .grouped word (result.toList.reverse ++ group) outer, true⟩

def groupedStep (maxDepth : Int) (tokens : List String) (word group : List Char)
    (outer : List (List Char)) (justClosed : Bool) (c : Char) : Step :=
  if c = '\x7b' && !justClosed then
    if reaches maxDepth (outer.length + 1) then .limit
    else .next ⟨tokens, .grouped word [] (group :: outer), false⟩
  else if c = '\x7d' then .resolve (textOf group) (closeGroup tokens word outer)
  else .next ⟨tokens, .grouped word (c :: group) outer, false⟩

def step (maxDepth : Int) (s : State) (c : Char) : Step :=
  match s.mode with
  | .bare word => bareStep maxDepth s.tokens word s.justClosed c
  | .quoted word => quotedStep s.tokens word c
  | .grouped word group outer => groupedStep maxDepth s.tokens word group outer s.justClosed c

def State.finish (s : State) : List String :=
  match s.mode with
  | .bare word => (addWord word s.tokens).reverse
  | .quoted _ => s.tokens.reverse
  | .grouped word _ _ => (addWord word s.tokens).reverse

variable {m : Type → Type} [Monad m]

def run (maxDepth : Int) (resolve : String → m String) :
    State → List Char → m (Except LimitReached State)
  | s, [] => pure (.ok s)
  | s, c :: rest =>
    match step maxDepth s c with
    | .next s => run maxDepth resolve s rest
    | .limit => pure (.error ⟨maxDepth⟩)
    | .resolve text andThen => do
      let result ← resolve text
      run maxDepth resolve (andThen result) rest

end Scan

/-- The tokens of a parameter text. At most `maxDepth` braces may be open at once, any number if it
is zero; the resolver's own failures end the scan. -/
def scan {m : Type → Type} [Monad m] (maxDepth : Int) (resolve : String → m String)
    (line : String) : m (Except LimitReached (List String)) := do
  let outcome ← Scan.run maxDepth resolve .start line.toList
  pure (outcome.map Scan.State.finish)

end LineShell
