import LineShell.Datum.Basic
import LineShell.Decimal.Lenient

/-!
Checking data against declared records. A check either gives a value or all the issues it found,
each with the place where it was found; a record collects the issues of its fields in their order.
Checks are lenient: numbers and truth values may also be written as texts.
-/

namespace LineShell

open LineShell.Text LineShell.Decimal

inductive IssueKind
  | notString
  | notPath
  | notInteger
  | notIntegerText
  | longInteger
  | fractionalNumber
  | notFinite
  | notBool
  | notBoolText
  | notList
  | notObject
  | missing
  | notRecord (name : String)
  | unknownKey
  | negative
  | refused (reason : String)
  deriving DecidableEq, Repr

def IssueKind.code : IssueKind → String
  | .notString => "string_type"
  | .notPath => "path_type"
  | .notInteger => "int_type"
  | .notIntegerText => "int_parsing"
  | .longInteger => "int_parsing_size"
  | .fractionalNumber => "int_from_float"
  | .notFinite => "finite_number"
  | .notBool => "bool_type"
  | .notBoolText => "bool_parsing"
  | .notList => "list_type"
  | .notObject => "dict_type"
  | .missing => "missing"
  | .notRecord _ => "model_type"
  | .unknownKey => "extra_forbidden"
  | .negative => "greater_than_equal"
  | .refused _ => "value_error"

def IssueKind.message : IssueKind → String
  | .notString => "Input should be a valid string"
  | .notPath => "Input is not a valid path for <class 'pathlib.Path'>"
  | .notInteger => "Input should be a valid integer"
  | .notIntegerText => "Input should be a valid integer, unable to parse string as an integer"
  | .longInteger => "Unable to parse input string as an integer, exceeded maximum size"
  | .fractionalNumber => "Input should be a valid integer, got a number with a fractional part"
  | .notFinite => "Input should be a finite number"
  | .notBool => "Input should be a valid boolean"
  | .notBoolText => "Input should be a valid boolean, unable to interpret input"
  | .notList => "Input should be a valid list"
  | .notObject => "Input should be a valid dictionary"
  | .missing => "Field required"
  | .notRecord name => "Input should be a valid dictionary or instance of " ++ name
  | .unknownKey => "Extra inputs are not permitted"
  | .negative => "Input should be greater than or equal to 0"
  | .refused reason => "Value error, " ++ reason

inductive Place
  | key (name : String)
  | index (n : Nat)
  deriving DecidableEq, Repr

structure Issue where
  place : List Place
  kind : IssueKind
  deriving DecidableEq, Repr

inductive Checked (α : Type)
  | valid (value : α)
  | invalid (issues : List Issue)

namespace Checked

variable {α β : Type}

def issue (kind : IssueKind) : Checked α := .invalid [⟨[], kind⟩]

def issues : Checked α → List Issue
  | .valid _ => []
  | .invalid issues => issues

def map (f : α → β) : Checked α → Checked β
  | .valid a => .valid (f a)
  | .invalid issues => .invalid issues

def both (f : Checked (α → β)) (x : Checked α) : Checked β :=
  match f, x with
  | .valid f, .valid a => .valid (f a)
  | f, x => .invalid (f.issues ++ x.issues)

def andThen (x : Checked α) (f : α → Checked β) : Checked β :=
  match x with
  | .valid a => f a
  | .invalid issues => .invalid issues

instance : Applicative Checked where
  pure := .valid
  map := map
  seq f x := both f (x ())

def within (step : Place) : Checked α → Checked α
  | .valid a => .valid a
  | .invalid issues => .invalid (issues.map fun i => { i with place := step :: i.place })

def toExcept : Checked α → Except (List Issue) α
  | .valid a => .ok a
  | .invalid issues => .error issues

end Checked

namespace Check

variable {α : Type}

def string : Datum → Checked String
  | .string s => .valid s
  | _ => .issue .notString

def boolWord? (s : String) : Option Bool :=
  let word := String.ofList (s.toList.map Char.toLower)
  if ["1", "on", "t", "true", "y", "yes"].contains word then some true
  else if ["0", "off", "f", "false", "n", "no"].contains word then some false
  else none

def isWord (n : Int) : Bool :=
  -(twoTo 63 : Int) ≤ n && n < twoTo 63

def wordOfFloat? (x : Float) : Option Int :=
  (integer? x).filter fun n => n.natAbs < twoTo 63

def bool : Datum → Checked Bool
  | .bool b => .valid b
  | .string s =>
    match boolWord? s with
    | some b => .valid b
    | none => .issue .notBoolText
  | .int n => if isWord n then ofInt n else .issue .notBool
  | .float x =>
    match wordOfFloat? x with
    | some n => ofInt n
    | none => .issue .notBool
  | _ => .issue .notBool
where
  ofInt (n : Int) : Checked Bool :=
    if n = 0 then .valid false else if n = 1 then .valid true else .issue .notBoolText

def integer : Datum → Checked Int
  | .int n => .valid n
  | .bool b => .valid (if b then 1 else 0)
  | .float x =>
    match Exact.ofFloat x with
    | .finite .. =>
      if (integer? x).isNone then .issue .fractionalNumber
      else
        match wordOfFloat? x with
        | some n => .valid n
        | none => .issue .longInteger
    | _ => .issue .notFinite
  | .string s =>
    match readLenient s with
    | .ok n => .valid n
    | .error .notInteger => .issue .notIntegerText
    | .error .tooLong => .issue .longInteger
  | _ => .issue .notInteger

def natural (d : Datum) : Checked Nat :=
  (integer d).andThen fun n => if n < 0 then .issue .negative else .valid n.toNat

def items (check : Datum → Checked α) : Nat → List Datum → Checked (List α)
  | _, [] => .valid []
  | n, d :: ds => List.cons <$> (check d).within (.index n) <*> items check (n + 1) ds

def list (check : Datum → Checked α) : Datum → Checked (List α)
  | .array ds => items check 0 ds
  | _ => .issue .notList

def object : Datum → Checked (Entries Datum)
  | .object es => .valid es
  | _ => .issue .notObject

def nullable (check : Datum → Checked α) : Datum → Checked (Option α)
  | .null => .valid none
  | d => some <$> check d

def required (es : Entries Datum) (key : String) (check : Datum → Checked α) : Checked α :=
  match es.get? key with
  | some d => (check d).within (.key key)
  | none => (Checked.issue .missing).within (.key key)

def optional (es : Entries Datum) (key : String) (default : α) (check : Datum → Checked α) :
    Checked α :=
  match es.get? key with
  | some d => (check d).within (.key key)
  | none => .valid default

def record (name : String) (fields : Entries Datum → Checked α) : Datum → Checked α
  | .object es => fields es
  | _ => .issue (.notRecord name)

end Check

end LineShell
