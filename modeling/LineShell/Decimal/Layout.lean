import LineShell.Decimal.Shortest

namespace LineShell.Decimal

structure Layout where
  lowest : Int
  ceiling : Int
  exponentDigits : Nat
  nan : String
  infinity : String
  negativeInfinity : String

def Layout.plain : Layout := ⟨-4, 16, 2, "nan", "inf", "-inf"⟩

def Layout.document : Layout := ⟨-5, 16, 1, "null", "null", "null"⟩

def padZeros (width : Nat) (s : String) : String :=
  String.ofList (List.replicate (width - s.length) '0') ++ s

def positional (ds : String) (point : Int) : String :=
  let n := ds.length
  if point ≤ 0 then "0." ++ String.ofList (List.replicate (-point).toNat '0') ++ ds
  else if n ≤ point then ds ++ String.ofList (List.replicate (point.toNat - n) '0') ++ ".0"
  else
    let cs := ds.toList
    String.ofList (cs.take point.toNat) ++ "." ++ String.ofList (cs.drop point.toNat)

def Layout.decimal (l : Layout) (s : Scientific) : String :=
  let ds := natText s.digits
  let e := s.exponent + ds.length - 1
  if l.lowest ≤ e ∧ e < l.ceiling then positional ds (e + 1)
  else
    let cs := ds.toList
    let mantissa :=
      match cs.drop 1 with
      | [] => ds
      | rest => String.ofList (cs.take 1) ++ "." ++ String.ofList rest
    let sign := if e < 0 then "-" else "+"
    mantissa ++ "e" ++ sign ++ padZeros l.exponentDigits (natText e.natAbs)

def Layout.float (l : Layout) (x : Float) : String :=
  match Exact.ofFloat x with
  | .nan => l.nan
  | .infinite negative => if negative then l.negativeInfinity else l.infinity
  | .finite negative m e =>
    (if negative then "-" else "") ++ if m = 0 then "0.0" else l.decimal (shortest m e)

def floatText (x : Float) : String :=
  Layout.plain.float x

def numberText (x : Float) : String :=
  match integer? x with
  | some n => intText n
  | none => floatText x

def roundPlaces (places : Nat) (m : Nat) (e : Int) : Nat :=
  if 0 ≤ e then m * twoTo e.toNat * tenTo places
  else roundHalfEven (m * tenTo places) (twoTo (-e).toNat)

def fixedText (places : Nat) (x : Float) : String :=
  match Exact.ofFloat x with
  | .nan => "nan"
  | .infinite negative => if negative then "-inf" else "inf"
  | .finite negative m e =>
    let n := roundPlaces places m e
    (if negative then "-" else "") ++ natText (n / tenTo places) ++ "."
      ++ padZeros places (natText (n % tenTo places))

def roundedFloat (places : Nat) (x : Float) : Float :=
  match Exact.ofFloat x with
  | .finite negative m e => floatOfQuotient negative (roundPlaces places m e) (tenTo places)
  | _ => x

def padLeft (width : Nat) (s : String) : String :=
  String.ofList (List.replicate (width - s.length) ' ') ++ s

end LineShell.Decimal
