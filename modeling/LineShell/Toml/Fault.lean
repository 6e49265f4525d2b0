import LineShell.Decimal.Binary
import LineShell.Text.Quoted

namespace LineShell.Toml

open LineShell.Text LineShell.Decimal

inductive FaultKind
  | statement
  | lineEnd
  | keyStart
  | equalsSign
  | value
  | tableEnd
  | tableListEnd
  | declaredTwice (key : List String)
  | immutable (key : List String)
  | redefined (key : List String)
  | overwrite
  | repeatedInlineKey (key : String)
  | openArray
  | openInlineTable
  | openString
  | illegalChar (c : Char)
  | invalidChar (c : Char)
  | expected (text : String)
  | escape
  | hexValue
  | notScalar
  | date
  | longInteger (digits : Nat)
  | tooDeep
  deriving DecidableEq, Repr

def depthReason : String := "maximum recursion depth exceeded"

def keyText : List String → String
  | [k] => "(" ++ quoted k ++ ",)"
  | ks => "(" ++ ", ".intercalate (ks.map quoted) ++ ")"

def FaultKind.message : FaultKind → String
  | .statement => "Invalid statement"
  | .lineEnd => "Expected newline or end of document after a statement"
  | .keyStart => "Invalid initial character for a key part"
  | .equalsSign => "Expected '=' after a key in a key/value pair"
  | .value => "Invalid value"
  | .tableEnd => "Expected ']' at the end of a table declaration"
  | .tableListEnd => "Expected ']]' at the end of an array declaration"
  | .declaredTwice key => "Cannot declare " ++ keyText key ++ " twice"
  | .immutable key => "Cannot mutate immutable namespace " ++ keyText key
  | .redefined key => "Cannot redefine namespace " ++ keyText key
  | .overwrite => "Cannot overwrite a value"
  | .repeatedInlineKey key => "Duplicate inline table key " ++ quoted key
  | .openArray => "Unclosed array"
  | .openInlineTable => "Unclosed inline table"
  | .openString => "Unterminated string"
  | .illegalChar c => "Illegal character " ++ quoted (String.singleton c)
  | .invalidChar c => "Found invalid character " ++ quoted (String.singleton c)
  | .expected text => "Expected " ++ quoted text
  | .escape => "Unescaped '\\' in a string"
  | .hexValue => "Invalid hex value"
  | .notScalar => "Escaped character is not a Unicode scalar value"
  | .date => "Invalid date or datetime"
  | .longInteger digits => digitLimitReason digits
  | .tooDeep => depthReason

structure Fault where
  kind : FaultKind
  remaining : Nat
  deriving DecidableEq, Repr

def placeText (document : List Char) (position : Nat) : String :=
  if document.length ≤ position then "end of document"
  else
    let before := document.take position
    let line := before.count '\n' + 1
    let column := (before.reverse.takeWhile (· != '\n')).length + 1
    "line " ++ natText line ++ ", column " ++ natText column

def Fault.message (document : List Char) (f : Fault) : String :=
  f.kind.message ++ " (at " ++ placeText document (document.length - f.remaining) ++ ")"

inductive Refusal
  | malformed (reason : String)
  | longInteger (digits : Nat)
  | tooDeep
  deriving DecidableEq, Repr

def Fault.refusal (document : List Char) (f : Fault) : Refusal :=
  match f.kind with
  | .longInteger digits => .longInteger digits
  | .tooDeep => .tooDeep
  | _ => .malformed (f.message document)

def Refusal.message : Refusal → String
  | .malformed reason => reason
  | .longInteger digits => digitLimitReason digits
  | .tooDeep => depthReason

abbrev Reader (α : Type) := List Char → Except Fault (α × List Char)

def faultAt {α : Type} (rest : List Char) (kind : FaultKind) : Except Fault α :=
  .error ⟨kind, rest.length⟩

def isSpace (c : Char) : Bool :=
  c = ' ' || c = '\t'

def isSpaceOrLineEnd (c : Char) : Bool :=
  isSpace c || c = '\n'

def isControl (c : Char) : Bool :=
  c != '\t' && (c.toNat < 32 || c.toNat = 127)

def skipSpace (s : List Char) : List Char :=
  s.dropWhile isSpace

def skipComment (s : List Char) : Except Fault (List Char) :=
  match s with
  | '#' :: r =>
    match r.dropWhile fun c => c != '\n' && !isControl c with
    | [] => .ok []
    | '\n' :: r' => .ok ('\n' :: r')
    | c :: r' => faultAt (c :: r') (.invalidChar c)
  | s => .ok s

def skipGaps : Nat → List Char → Except Fault (List Char)
  | 0, s => .ok s
  | fuel + 1, s => do
    let r := s.dropWhile isSpaceOrLineEnd
    let r ← skipComment r
    if r.length = s.length then .ok r else skipGaps fuel r

end LineShell.Toml
