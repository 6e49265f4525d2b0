import LineShell.Command

/-!
The registry: commands under distinct names in the order of registration, the table of types that
they parse with, and the defaults for commands that are declared on it.
-/

namespace LineShell

open LineShell.Text

structure Registry where
  types : TypeTable
  commands : Entries Command
  maxDepth : Int
  nested : Bool

namespace Registry

def empty (types : TypeTable) (maxDepth : Int) (nested : Bool) : Registry :=
  ⟨types, [], maxDepth, nested⟩

def names (r : Registry) : List String :=
  r.commands.keys

def size (r : Registry) : Nat :=
  r.commands.length

def contains (r : Registry) (name : String) : Bool :=
  r.commands.has name

def get? (r : Registry) (name : String) : Option Command :=
  r.commands.get? name

def list (r : Registry) : List Command :=
  r.commands.map fun e => e.2.clone

def add (r : Registry) (c : Command) : Except CommandError Registry :=
  if r.contains c.name then .error (.duplicateName c.name)
  else .ok { r with commands := r.commands ++ [(c.name, c)] }

def addGiven (r : Registry) : Option Command → Except Failure Registry
  | none => .error (.raised "TypeError" "command must not be None")
  | some c => (r.add c).mapError .command

def remove (r : Registry) (name : String) : Except CommandError Registry :=
  if r.contains name then .ok { r with commands := r.commands.erase name }
  else .error (.notFound name)

def build (r : Registry) (d : Definition Script) : Except CommandError Command :=
  let delegate := if d.nested.getD r.nested then Delegate.registry else .none
  match Command.ofDefinition d delegate .registry (d.maxDepth.getD r.maxDepth) with
  | .ok c => .ok c
  | .error fault => .error (.invalidDefinition fault)

def create (r : Registry) (d : Definition Script) : Except CommandError (Command × Registry) := do
  let c ← r.build d
  let r ← r.add c
  pure (c, r)

def firstLine (doc : String) : String :=
  String.ofList ((strip doc.toList).takeWhile fun c => !isLineEnd c)

def documented (d : Definition Script) (doc : String) : Definition Script :=
  { d with description := if d.description.isEmpty then firstLine doc else d.description }

def dispatch (r : Registry) (line : String) : Except CommandError Command :=
  if isBlankText line then .error .emptyLine
  else
    match r.get? (leadingWord line) with
    | some c => .ok c
    | none => .error (.notFound (leadingWord line))

end Registry

end LineShell
