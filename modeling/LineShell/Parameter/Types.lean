import LineShell.Datum.Printer
import LineShell.Decimal.Layout
import LineShell.Decimal.Read
import LineShell.Failure
import LineShell.Text.Quoted

namespace LineShell

open LineShell.Text LineShell.Decimal

def intTypeName : String := "int"

def floatTypeName : String := "float"

def stringTypeName : String := "string"

inductive ParameterValue
  | integer (n : Int)
  | float (x : Float)
  | text (s : String)
  | custom (kind : String) (value : Datum)

namespace ParameterValue

instance : Inhabited ParameterValue := ⟨.text ""⟩

def kind : ParameterValue → String
  | .integer _ => intTypeName
  | .float _ => floatTypeName
  | .text _ => stringTypeName
  | .custom kind _ => kind

def plain : ParameterValue → Datum
  | .integer n => .int n
  | .float x => .float x
  | .text s => .string s
  | .custom _ value => value

def toText (v : ParameterValue) : String :=
  v.plain.text

end ParameterValue

/-- What a parse function returns: a typed value, or plain data that the name of the type tags. -/
inductive Parsed
  | typed (value : ParameterValue)
  | plain (value : Datum)

def Parsed.value (typeName : String) : Parsed → ParameterValue
  | .typed v => v
  | .plain d => .custom typeName d

abbrev Parser := String → Except Exception Parsed

namespace Parser

def refuse {α : Type} (reason : String) : Except Exception α :=
  .error (.raised "ValueError" reason)

def inRange (n : Int) : Bool :=
  -9223372036854775808 ≤ n && n ≤ 9223372036854775807

def separatorReason (literal : String) : String :=
  "invalid literal for int() with base 10: " ++ String.ofList ((quoted literal).toList.take 200)

def startsWithSeparator (s : List Char) : Bool :=
  (dropLeading isNumericBlank s).head?.any isBlank

def integer : Parser := fun literal =>
  match integerShape? literal.toList with
  | none => refuse ("Invalid int value: " ++ literal)
  | some (negative, ds) =>
    if startsWithSeparator literal.toList then refuse (separatorReason literal)
    else if digitLimit < ds.length then refuse (digitLimitReason ds.length)
    else if startsWithSeparator literal.toList.reverse then refuse (separatorReason literal)
    else
      let n := signedNat negative ds
      if inRange n then .ok (.typed (.integer n))
      else refuse ("Int value out of range: " ++ literal)

def mentionsInfinity : List Char → Bool
  | [] => false
  | c :: r => ((c :: r).take 3).map Char.toLower == ['i', 'n', 'f'] || mentionsInfinity r

def float : Parser := fun literal =>
  let invalid := refuse ("Invalid float value: " ++ literal)
  if literal.toList.contains '_' then invalid
  else
    match readFloat? literal with
    | none => invalid
    | some x =>
      if x.isInf && !mentionsInfinity literal.toList then
        refuse ("Float value out of range: " ++ literal)
      else .ok (.typed (.float x))

def string : Parser := fun literal => .ok (.typed (.text literal))

end Parser

inductive RegistrationFault
  | blankName
  | notCallable (name : String)
  deriving DecidableEq, Repr

def RegistrationFault.failure : RegistrationFault → Exception
  | .blankName => .raised "ValueError" "Parameter type name must not be empty"
  | .notCallable name =>
    .raised "TypeError" ("Parse function for parameter type " ++ quoted name ++ " must be callable")

structure TypeTable where
  parsers : Entries Parser

namespace TypeTable

def empty : TypeTable := ⟨[]⟩

def builtin : TypeTable :=
  ⟨[(intTypeName, Parser.integer), (floatTypeName, Parser.float), (stringTypeName, Parser.string)]⟩

def names (t : TypeTable) : List String :=
  t.parsers.keys

def contains (t : TypeTable) (name : String) : Bool :=
  t.parsers.has name

def register (t : TypeTable) (name : String) (offer : Option Parser) :
    Except RegistrationFault (Bool × TypeTable) :=
  if isBlankText name then .error .blankName
  else
    match offer with
    | none => .error (.notCallable name)
    | some parser =>
      if t.contains name then .ok (false, t)
      else .ok (true, ⟨t.parsers ++ [(name, parser)]⟩)

/-- The value of a literal under the type of a name. All that a parse function raises becomes a
mismatch; a mismatch that it raises itself stays. -/
def parse (t : TypeTable) (name literal : String) : Except ParameterError ParameterValue :=
  match t.parsers.get? name with
  | none => .error (.unknownType name)
  | some parser =>
    match parser literal with
    | .ok parsed => .ok (parsed.value name)
    | .error (.command (.parameter (.mismatch n l r k))) => .error (.mismatch n l r k)
    | .error e => .error (.mismatch name literal e.message name)

end TypeTable

end LineShell
