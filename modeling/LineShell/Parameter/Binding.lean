import LineShell.Parameter.Spec
import LineShell.Parameter.Types

/-!
Binding tokens to parameters by position. Tokens beyond the schema are kept but not bound, and an
optional parameter without a token stays unbound.
-/

namespace LineShell

structure BoundParameters where
  values : List ParameterValue
  named : Entries ParameterValue
  tokens : List String
  rawLine : String

namespace BoundParameters

instance : Inhabited BoundParameters := ⟨⟨[], [], [], ""⟩⟩

def get? (p : BoundParameters) (name : String) : Option Datum :=
  (p.named.get? name).map ParameterValue.plain

def has (p : BoundParameters) (name : String) : Bool :=
  p.named.has name

end BoundParameters

def ParameterSpec.parse (types : TypeTable) (p : ParameterSpec) (token : String) :
    Except ParameterError ParameterValue :=
  match types.parse p.typeName token with
  | .error (.mismatch _ _ reason _) => .error (.mismatch p.name token reason p.typeName)
  | outcome => outcome

def bindValues (types : TypeTable) :
    List ParameterSpec → List String → Except ParameterError (Entries ParameterValue)
  | [], _ => .ok []
  | p :: ps, [] => if p.isOptional then bindValues types ps [] else .error (.missing p.name)
  | p :: ps, token :: tokens =>
    match p.parse types token with
    | .error e => .error e
    | .ok value => (bindValues types ps tokens).map ((p.name, value) :: ·)

def Entries.ofList {α : Type} (es : List (String × α)) : Entries α :=
  es.foldl (fun d e => d.set e.1 e.2) []

def bind (types : TypeTable) (parameters : List ParameterSpec) (tokens : List String)
    (rawLine : String) : Except ParameterError BoundParameters :=
  (bindValues types parameters tokens).map fun bound =>
    ⟨bound.map Prod.snd, Entries.ofList bound, tokens, rawLine⟩

end LineShell
