import LineShell.Failure

namespace LineShell

open LineShell.Text

structure ParameterSpec where
  typeName : String
  name : String
  description : String
  isOptional : Bool
  deriving DecidableEq, Repr

namespace ParameterSpec

def recordName : String := "ParameterSpec"

def notBlank (d : Datum) : Checked String :=
  (Check.string d).andThen fun s =>
    if isBlankText s then .issue (.refused "must not be empty") else .valid s

def check : Datum → Checked ParameterSpec :=
  Check.record recordName fun es =>
    ParameterSpec.mk <$> Check.required es "type_name" notBlank
      <*> Check.required es "name" notBlank
      <*> Check.optional es "description" "" Check.string
      <*> Check.optional es "optional" false Check.bool

def required (typeName name description : String) : ParameterSpec :=
  ⟨typeName, name, description, false⟩

def optional (typeName name description : String) : ParameterSpec :=
  ⟨typeName, name, description, true⟩

def label (p : ParameterSpec) : String :=
  p.typeName ++ " - " ++ p.name

def usage (p : ParameterSpec) : String :=
  if p.isOptional then "[" ++ p.name ++ ":" ++ p.typeName ++ "]"
  else "<" ++ p.name ++ ":" ++ p.typeName ++ ">"

def toDatum (p : ParameterSpec) : Datum :=
  .object [("type_name", .string p.typeName), ("name", .string p.name),
    ("description", .string p.description), ("optional", .bool p.isOptional)]

end ParameterSpec

structure Arity where
  required : Nat
  optional : Nat
  deriving DecidableEq, Repr

namespace Schema

def arityFrom (seen : List String) (counts : Arity) :
    List ParameterSpec → Except DefinitionFault Arity
  | [] => .ok counts
  | p :: rest =>
    if p.name ∈ seen then .error (.repeatedParameter p.name)
    else if p.isOptional then
      arityFrom (p.name :: seen) { counts with optional := counts.optional + 1 } rest
    else if counts.optional ≠ 0 then .error .requiredAfterOptional
    else arityFrom (p.name :: seen) { counts with required := counts.required + 1 } rest

def arity (parameters : List ParameterSpec) : Except DefinitionFault Arity :=
  arityFrom [] ⟨0, 0⟩ parameters

end Schema

end LineShell
