import LineShell.Decimal.Binary

/-!
The shortest decimal that reads back as a given float: the fewest digits, and of those the nearest.
A float is the nearest one for all numbers of an interval around it, so the search takes one digit
count after the other and looks at the two neighbours of the float on that decimal grid.
-/

namespace LineShell.Decimal

structure Scientific where
  digits : Nat
  exponent : Int
  deriving Repr, DecidableEq

structure Scaled where
  num : Nat
  den : Nat

def Scaled.of (m : Nat) (binary decimal : Int) : Scaled :=
  let num := if 0 ≤ binary then m * twoTo binary.toNat else m
  let den := if 0 ≤ binary then 1 else twoTo (-binary).toNat
  if 0 ≤ decimal then ⟨num, den * tenTo decimal.toNat⟩ else ⟨num * tenTo (-decimal).toNat, den⟩

def log10Floor (m : Nat) (e : Int) : Int :=
  let guess := ((m.log2 + e) * 30103) / 100000
  let above (d : Int) : Bool :=
    let s := Scaled.of m e d
    s.den ≤ s.num
  if above (guess + 1) then guess + 1
  else if above guess then guess
  else guess - 1

structure Margin where
  below : Nat
  above : Nat

def Margin.of (m : Nat) (e : Int) : Margin :=
  if m = twoTo 52 ∧ -1074 < e then ⟨1, 2⟩ else ⟨2, 2⟩

def readsBack (m : Nat) (e g : Int) (c : Nat) : Bool :=
  let margin := Margin.of m e
  let low := Scaled.of (4 * m - margin.below) (e - 2) g
  let high := Scaled.of (4 * m + margin.above) (e - 2) g
  if m % 2 = 0 then low.num ≤ c * low.den && c * high.den ≤ high.num
  else low.num < c * low.den && c * high.den < high.num

def nearestOnGrid? (m : Nat) (e g : Int) : Option Nat :=
  let s := Scaled.of m e g
  let low := s.num / s.den
  let twice := 2 * (s.num % s.den)
  match readsBack m e g low, readsBack m e g (low + 1) with
  | true, true =>
    if twice < s.den then some low
    else if s.den < twice then some (low + 1)
    else if low % 2 = 0 then some low else some (low + 1)
  | true, false => some low
  | false, true => some (low + 1)
  | false, false => none

def dropZeros : Nat → Scientific → Scientific
  | 0, s => s
  | fuel + 1, s =>
    if s.digits ≠ 0 ∧ s.digits % 10 = 0 then dropZeros fuel ⟨s.digits / 10, s.exponent + 1⟩ else s

/-- The shortest decimal for m times a power of two, m positive. Seventeen digits always suffice. -/
def shortest (m : Nat) (e : Int) : Scientific :=
  let top := log10Floor m e
  let found := (List.range 17).findSome? fun (n : Nat) =>
    let g := top - (n : Int)
    (nearestOnGrid? m e g).map fun c => Scientific.mk c g
  match found with
  | some s => dropZeros 20 s
  | none => ⟨m, e⟩

end LineShell.Decimal
