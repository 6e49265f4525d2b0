import LineShell.Plugin.Basic
import LineShell.Text.Upper

namespace LineShell.CorePlugin

open LineShell.Decimal

def name : String := "core"

def joinTokens (separator : String) (p : BoundParameters) : String :=
  separator.intercalate p.tokens

def floats (p : BoundParameters) : List Float :=
  p.values.filterMap fun v =>
    match v with
    | .float x => some x
    | _ => none

def sum (p : BoundParameters) : Float :=
  (floats p).foldl (· + ·) 0

def product (p : BoundParameters) : Float :=
  match floats p with
  | a :: b :: _ => a * b
  | _ => 0

def textOf (p : BoundParameters) (name : String) : String :=
  match p.get? name with
  | some (.string s) => s
  | _ => ""

def describe (s : Signature) : String :=
  "\n".intercalate
    (s.usage :: (if s.description.isEmpty then [] else [s.description])
      ++ (s.parameters.filter fun q => !q.description.isEmpty).map fun q =>
        "  " ++ q.name ++ ": " ++ q.description)

def help (p : BoundParameters) : Script :=
  .survey fun commands =>
    match p.get? "name" with
    | some (.string wanted) =>
      match commands.find? fun s => s.name == wanted with
      | some s => .done (describe s)
      | none => .fail (.notFound wanted)
    | _ => .done ("\n".intercalate (commands.map Signature.usage))

def define (name description : String) (parameters : List ParameterSpec)
    (action : BoundParameters → Script) : Definition Script :=
  { name, action := some action, parameters, description, maxDepth := none, nested := none,
    hook := none }

def definitions : List (Definition Script) :=
  [define "echo" "Repeat all parameters separated by single spaces." []
      fun p => .done (joinTokens " " p),
    define "add" "Add two or three numbers."
      [.required floatTypeName "a" "First addend", .required floatTypeName "b" "Second addend",
        .optional floatTypeName "c" "Optional third addend"]
      fun p => .done (numberText (sum p)),
    define "mul" "Multiply two numbers."
      [.required floatTypeName "a" "First factor", .required floatTypeName "b" "Second factor"]
      fun p => .done (numberText (product p)),
    define "upper" "Upper-case the parameters."
      [.required stringTypeName "text" "Text to convert"]
      fun p => .done (Text.upper (joinTokens " " p)),
    define "concat" "Join all parameters without separators." []
      fun p => .done (joinTokens "" p),
    define "len" "Number of characters in the first parameter."
      [.required stringTypeName "text" "Text to measure"]
      fun p => .done (natText (textOf p "text").length),
    { define "help" "List commands, or describe one command."
        [.optional stringTypeName "name" "Command to describe"] help with nested := some false }]

def plugin : Plugin :=
  { serial := 0, className := "CorePlugin", isClass := false, startup := none, typesHook := none,
    commandsHook := some (definitions.map .ok), observer := none }

end LineShell.CorePlugin
