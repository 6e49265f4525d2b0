import LineShell.Decimal.Binary
import LineShell.Text.Character

namespace LineShell.Decimal

open LineShell.Text

def splitSign : List Char → Bool × List Char
  | '+' :: r => (false, r)
  | '-' :: r => (true, r)
  | r => (false, r)

def integerShape? (s : List Char) : Option (Bool × List Char) :=
  let (negative, ds) := splitSign (strip s)
  if !ds.isEmpty && ds.all isBasicDigit then some (negative, ds) else none

def signedNat (negative : Bool) (ds : List Char) : Int :=
  if negative then -(readNat ds : Int) else readNat ds

def spanDigits : List Char → List Nat × List Char
  | [] => ([], [])
  | c :: r =>
    match digitValue? c with
    | some d =>
      let (ds, rest) := spanDigits r
      (d :: ds, rest)
    | none => ([], c :: r)

def readExponent? : List Char → Option Int
  | [] => some 0
  | c :: r =>
    if c = 'e' || c = 'E' then
      let (negative, r) := splitSign r
      match spanDigits r with
      | ([], _) => none
      | (ds, []) => some (if negative then -(ofDigits ds : Int) else ofDigits ds)
      | (_, _ :: _) => none
    else none

def readUnsigned? (negative : Bool) (s : List Char) : Option Float :=
  let (whole, rest) := spanDigits s
  let (fraction, rest) :=
    match rest with
    | '.' :: r => spanDigits r
    | r => ([], r)
  if whole.isEmpty && fraction.isEmpty then none
  else
    (readExponent? rest).map fun e =>
      let ds := (whole ++ fraction).dropWhile (· == 0)
      floatOfDecimal negative (ofDigits ds) ds.length (e - fraction.length)

def readFloat? (s : String) : Option Float :=
  let (negative, body) := splitSign (stripNumeric s.toList)
  let word := String.ofList (body.map Char.toLower)
  if word = "inf" || word = "infinity" then some (floatOfQuotient negative (twoTo 1100) 1)
  else if word = "nan" then some (Float.ofBits 0x7FF8000000000000)
  else readUnsigned? negative body

end LineShell.Decimal
