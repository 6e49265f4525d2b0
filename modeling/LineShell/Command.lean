import LineShell.Parameter.Binding

/-!
Commands and what their actions may do. An action is a function from bound parameters to a script:
a program of steps that ends in a text or a failure. Scripts are data, so that running them is a
matter of one interpreter, and every effect of an action is a step of its script.
-/

namespace LineShell

open LineShell.Text

def leadingWord (line : String) : String :=
  String.ofList (line.toList.takeWhile (· != ' '))

def parameterText (line : String) : String :=
  String.ofList (line.toList.dropWhile (· != ' '))

def isWord (s : String) : Bool :=
  !s.isEmpty && !s.toList.any isBlank

structure Signature where
  name : String
  description : String
  parameters : List ParameterSpec
  deriving DecidableEq, Repr

def Signature.usage (s : Signature) : String :=
  " ".intercalate (s.name :: s.parameters.map ParameterSpec.usage)

structure Definition (σ : Type) where
  name : String
  action : Option (BoundParameters → σ)
  parameters : List ParameterSpec
  description : String
  maxDepth : Option Int
  nested : Option Bool
  hook : Option (ParameterError → σ)

/-- A program of steps on a registry. -/
inductive Script
  | done (result : String)
  | fail (failure : Failure)
  | execute (line : String) (rest : String → Script)
  | attempt (line : String) (rest : Except Exception String → Script)
  | create (definition : Definition Script) (rest : Except Exception Unit → Script)
  | remove (name : String) (rest : Except Exception Unit → Script)
  | survey (rest : List Signature → Script)
  | note (label : String) (content : Datum) (rest : Script)

instance : Inhabited Script := ⟨.done ""⟩

def Script.after (rest : Script) : Except Exception Unit → Script
  | .ok () => rest
  | .error e => .fail (.exception e)

inductive Delegate
  | none
  | registry
  | outside (resolve : String → Script)

def Delegate.isSome : Delegate → Bool
  | .none => false
  | _ => true

/-- Where a command finds the types of its parameters: in the table for commands that are given
none, in that of the registry, or in one of its own. -/
inductive TypeSource
  | default
  | registry
  | own (types : TypeTable)

structure Command where
  name : String
  action : BoundParameters → Script
  parameters : List ParameterSpec
  description : String
  delegate : Delegate
  maxDepth : Nat
  hook : Option (ParameterError → Script)
  types : TypeSource
  /-- A specialised command's own treatment of failures to bind, which takes the place of the hook.
  It belongs to this very command: copies do without it. -/
  override : Option (ParameterError → Script)
  arity : Arity
  name_isWord : isWord name = true
  parameters_arity : Schema.arity parameters = .ok arity

def defaultMaxDepth : Nat := 3

namespace Command

/-- The command of a definition with what the definition leaves open, unless it breaks a rule. The
name is looked at first, then the action, the limit and the parameters. -/
def ofDefinition (d : Definition Script) (delegate : Delegate) (types : TypeSource)
    (maxDepth : Int) : Except DefinitionFault Command :=
  if isBlankText d.name then .error .emptyName
  else if hname : isWord d.name then
    match d.action with
    | none => .error (.notCallable d.name)
    | some action =>
      if maxDepth < 0 then .error (.negativeDepth d.name)
      else
        match harity : Schema.arity d.parameters with
        | .error fault => .error fault
        | .ok arity =>
          .ok { name := d.name, action, parameters := d.parameters, description := d.description,
                delegate, maxDepth := maxDepth.toNat, hook := d.hook, types, override := none,
                arity, name_isWord := hname, parameters_arity := harity }
  else .error (.notOneWord d.name)

def signature (c : Command) : Signature :=
  ⟨c.name, c.description, c.parameters⟩

def usage (c : Command) : String :=
  c.signature.usage

def answersTo (c : Command) (line : String) : Bool :=
  leadingWord line == c.name

def clone (c : Command) : Command where
  name := c.name
  action := c.action
  parameters := c.parameters
  description := c.description
  delegate := c.delegate
  maxDepth := c.maxDepth
  hook := c.hook
  types := c.types
  override := none
  arity := c.arity
  name_isWord := c.name_isWord
  parameters_arity := c.parameters_arity

def onParameterError (c : Command) (e : ParameterError) : Script :=
  match c.override, c.hook with
  | some f, _ => f e
  | none, some f => f e
  | none, none => .fail (.parameter e)

def summary (c : Command) : String :=
  "Command(name=" ++ quoted c.name ++ ", parameters="
    ++ Decimal.natText c.parameters.length ++ ")"

end Command

end LineShell
