import LineShell.Decimal.Read

namespace LineShell.Decimal

open LineShell.Text

inductive NumeralFault
  | notInteger
  | tooLong
  deriving DecidableEq, Repr

def readPlain (s : List Char) : Except NumeralFault Int :=
  let (negative, body) :=
    match s with
    | '-' :: r => (true, r)
    | r => (false, r)
  match body with
  | ['0'] => .ok 0
  | '0' :: _ => .error .notInteger
  | body =>
    let ds := body.takeWhile isBasicDigit
    if ds.isEmpty then .error .notInteger
    else if digitLimit < ds.length then .error .tooLong
    else if ds.length = body.length then .ok (signedNat negative ds)
    else .error .notInteger

def afterZeros (last : Char) : List Char → Option (List Char)
  | [] => some [last]
  | c :: r =>
    if c = '0' || c = '_' then afterZeros c r
    else if isBasicDigit c || c = '-' then some (c :: r)
    else if c = '.' then some (last :: c :: r)
    else none

def dropStartZeros? : List Char → Option (List Char)
  | [] => none
  | c :: r => if c = '0' then afterZeros c r else if isBasicDigit c then some (c :: r) else none

def dropSignedZeros? : List Char → Option (List Char)
  | '-' :: r => (dropStartZeros? r).map ('-' :: ·)
  | r => dropStartZeros? r

def dropZeroFraction (s : List Char) : List Char :=
  let whole := s.takeWhile (· != '.')
  match s.drop whole.length with
  | _ :: c :: r => if (c :: r).all (· == '0') then whole else s
  | _ => s

def hasDoubleBar : List Char → Bool
  | '_' :: '_' :: _ => true
  | _ :: r => hasDoubleBar r
  | [] => false

def dropBars (s : List Char) : List Char :=
  if s.head? == some '_' || s.getLast? == some '_' || hasDoubleBar s then s
  else s.filter (· != '_')

def plainNumeral? (s : List Char) : Option (List Char) :=
  let unsigned :=
    match stripNumeric s with
    | '+' :: '-' :: _ => none
    | '+' :: r => some r
    | r => some r
  (unsigned.bind dropSignedZeros?).map fun r => dropBars (dropZeroFraction r)

def readLenient (s : String) : Except NumeralFault Int :=
  match readPlain s.toList with
  | .error .notInteger =>
    match plainNumeral? s.toList with
    | some r => (readPlain r).mapError fun _ => .notInteger
    | none => .error .notInteger
  | found => found

end LineShell.Decimal
