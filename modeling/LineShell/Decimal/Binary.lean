namespace LineShell.Decimal

def twoTo (n : Nat) : Nat := Nat.pow 2 n

def tenTo (n : Nat) : Nat := Nat.pow 10 n

def natText (n : Nat) : String :=
  String.ofList (Nat.toDigits 10 n)

def intText : Int → String
  | .ofNat n => natText n
  | .negSucc n => "-" ++ natText (n + 1)

def ofDigits (ds : List Nat) : Nat :=
  ds.foldl (fun n d => 10 * n + d) 0

def readNat (cs : List Char) : Nat :=
  ofDigits (cs.map fun c => c.toNat - 48)

def digitLimit : Nat := 4300

def digitLimitReason (count : Nat) : String :=
  "Exceeds the limit (" ++ natText digitLimit
    ++ " digits) for integer string conversion: value has "
    ++ natText count ++ " digits; use sys.set_int_max_str_digits() to increase the limit"

inductive Exact
  | nan
  | infinite (negative : Bool)
  | finite (negative : Bool) (mantissa : Nat) (exponent : Int)
  deriving Repr, DecidableEq

def Exact.ofBits (bits : Nat) : Exact :=
  let negative := bits / twoTo 63 % 2 == 1
  let exponent : Nat := bits / twoTo 52 % 2048
  let fraction : Nat := bits % twoTo 52
  if exponent == 2047 then
    if fraction == 0 then .infinite negative else .nan
  else if exponent == 0 then .finite negative fraction (-1074)
  else .finite negative (twoTo 52 + fraction) ((exponent : Int) - 1075)

def Exact.ofFloat (x : Float) : Exact :=
  .ofBits x.toBits.toNat

def roundHalfEven (num den : Nat) : Nat :=
  let q := num / den
  let r := num % den
  if 2 * r < den then q
  else if den < 2 * r then q + 1
  else if q % 2 = 0 then q else q + 1

def log2Quotient (num den : Nat) : Int :=
  let guess : Int := (num.log2 : Int) - (den.log2 : Int)
  let fits := if 0 ≤ guess then den * twoTo guess.toNat ≤ num else den ≤ num * twoTo (-guess).toNat
  if fits then guess else guess - 1

def roundToBits (num den : Nat) : Nat :=
  if num = 0 then 0
  else
    let scale := max (log2Quotient num den - 52) (-1074)
    let m :=
      if 0 ≤ scale then roundHalfEven num (den * twoTo scale.toNat)
      else roundHalfEven (num * twoTo (-scale).toNat) den
    let (m, scale) := if m = twoTo 53 then (twoTo 52, scale + 1) else (m, scale)
    if m < twoTo 52 then m
    else
      let exponent := (scale + 1075).toNat
      if 2047 ≤ exponent then 2047 * twoTo 52 else exponent * twoTo 52 + (m - twoTo 52)

def floatOfQuotient (negative : Bool) (num den : Nat) : Float :=
  let sign := if negative then twoTo 63 else 0
  Float.ofBits (UInt64.ofNat (sign + roundToBits num den))

def floatOfDecimal (negative : Bool) (digits : Nat) (count : Nat) (exponent : Int) : Float :=
  if digits = 0 then floatOfQuotient negative 0 1
  else if 400 < exponent + count then floatOfQuotient negative (twoTo 1100) 1
  else if exponent + count < -400 then floatOfQuotient negative 0 1
  else if 0 ≤ exponent then floatOfQuotient negative (digits * tenTo exponent.toNat) 1
  else floatOfQuotient negative digits (tenTo (-exponent).toNat)

def floatOfInt (n : Int) : Float :=
  floatOfQuotient (n < 0) n.natAbs 1

def integer? (x : Float) : Option Int :=
  match Exact.ofFloat x with
  | .finite negative m e =>
    let magnitude? :=
      if 0 ≤ e then some (m * twoTo e.toNat)
      else if m % twoTo (-e).toNat = 0 then some (m / twoTo (-e).toNat) else none
    magnitude?.map fun n => if negative then -(n : Int) else n
  | _ => none

end LineShell.Decimal
