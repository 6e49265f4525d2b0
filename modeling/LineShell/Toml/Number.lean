import LineShell.Datum.Reader
import LineShell.Decimal.Layout
import LineShell.Toml.Fault

namespace LineShell.Toml

open LineShell.Text LineShell.Decimal

def spanGrouped (p : Char → Bool) : List Char → List Char × List Char
  | [] => ([], [])
  | [c] => if p c then ([c], []) else ([], [c])
  | c :: d :: r =>
    if !p c then ([], c :: d :: r)
    else if d = '_' then
      match spanGrouped p r with
      | ([], _) => ([c], d :: r)
      | (ds, rest) => (c :: ds, rest)
    else
      let (ds, rest) := spanGrouped p (d :: r)
      (c :: ds, rest)

def basedInteger? (base : Nat) (p : Char → Bool) (s : List Char) : Option (Datum × List Char) :=
  match spanGrouped p s with
  | ([], _) => none
  | (ds, rest) =>
    some (.nat ((ds.filterMap Datum.hexValue?).foldl (fun n d => base * n + d) 0), rest)

def decimalNumber? (negative : Bool) (s : List Char) :
    Except Fault (Option (Datum × List Char)) :=
  let (whole, rest) :=
    match s with
    | '0' :: r => (['0'], r)
    | s => spanGrouped isBasicDigit s
  if whole.isEmpty then .ok none
  else
    let (fraction, rest) :=
      match rest with
      | '.' :: r =>
        match spanGrouped isBasicDigit r with
        | ([], _) => ([], rest)
        | found => found
      | r => ([], r)
    let (exponent, rest) :=
      match rest with
      | c :: r =>
        if c = 'e' || c = 'E' then
          let (minus, r) := splitSign r
          match spanGrouped isBasicDigit r with
          | ([], _) => (none, rest)
          | (ds, r) => (some (signedNat minus ds), r)
        else (none, rest)
      | [] => (none, rest)
    if fraction.isEmpty && exponent.isNone then
      if digitLimit < whole.length then faultAt s (.longInteger whole.length)
      else .ok (some (.int (signedNat negative whole), rest))
    else
      let ds := (whole ++ fraction).dropWhile (· == '0')
      .ok (some (.float (floatOfDecimal negative (readNat ds) ds.length
        (exponent.getD 0 - fraction.length)), rest))

def readNumber? (s : List Char) : Except Fault (Option (Datum × List Char)) :=
  let based :=
    match s with
    | '0' :: 'x' :: r => basedInteger? 16 (fun c => (Datum.hexValue? c).isSome) r
    | '0' :: 'b' :: r => basedInteger? 2 (fun c => c = '0' || c = '1') r
    | '0' :: 'o' :: r => basedInteger? 8 (fun c => '0' ≤ c && c ≤ '7') r
    | _ => none
  match based with
  | some found => .ok (some found)
  | none =>
    let (negative, body) := splitSign s
    decimalNumber? negative body

def readWord? (s : List Char) : Option (Datum × List Char) :=
  let (negative, body) := splitSign s
  if "inf".toList.isPrefixOf body then
    some (.float (floatOfQuotient negative (twoTo 1100) 1), body.drop 3)
  else if "nan".toList.isPrefixOf body then
    some (.float (Float.ofBits 0x7FF8000000000000), body.drop 3)
  else none

def twoDigits? (bound : Nat) : List Char → Option (Nat × List Char)
  | a :: b :: r =>
    if isBasicDigit a && isBasicDigit b && readNat [a, b] ≤ bound then some (readNat [a, b], r)
    else none
  | _ => none

def expect? (c : Char) : List Char → Option (List Char)
  | d :: r => if d = c then some r else none
  | [] => none

def fractionText (ds : List Char) : String :=
  let micros := (ds ++ List.replicate 6 '0').take 6
  if micros.all (· == '0') then "" else "." ++ String.ofList micros

def twoText (n : Nat) : String :=
  if n < 10 then "0" ++ natText n else natText n

def readTime? (s : List Char) : Option (String × List Char) := do
  let (hour, r) ← twoDigits? 23 s
  let r ← expect? ':' r
  let (minute, r) ← twoDigits? 59 r
  let r ← expect? ':' r
  let (second, r) ← twoDigits? 59 r
  let (fraction, r) :=
    match r with
    | '.' :: r' =>
      let (ds, rest) := r'.span isBasicDigit
      if ds.isEmpty then ([], r) else (ds, rest)
    | r => ([], r)
  some (twoText hour ++ ":" ++ twoText minute ++ ":" ++ twoText second ++ fractionText fraction, r)

def readOffset (s : List Char) : String × List Char :=
  match s with
  | 'z' :: r | 'Z' :: r => ("+00:00", r)
  | c :: r =>
    if c = '+' || c = '-' then
      let offset := do
        let (hour, r) ← twoDigits? 23 r
        let r ← expect? ':' r
        let (minute, r) ← twoDigits? 59 r
        let sign := if hour = 0 ∧ minute = 0 then '+' else c
        some (String.singleton sign ++ twoText hour ++ ":" ++ twoText minute, r)
      offset.getD ("", s)
    else ("", s)
  | [] => ("", s)

def daysOf (year month : Nat) : Nat :=
  if month = 2 then
    if year % 4 = 0 ∧ (year % 100 ≠ 0 ∨ year % 400 = 0) then 29 else 28
  else if [4, 6, 9, 11].contains month then 30
  else 31

def readDate? : List Char → Option ((Nat × Nat × Nat) × List Char)
  | a :: b :: c :: d :: r => do
    guard ([a, b, c, d].all isBasicDigit)
    let r ← expect? '-' r
    let (month, r) ← twoDigits? 12 r
    let r ← expect? '-' r
    let (day, r) ← twoDigits? 31 r
    guard (month ≠ 0 ∧ day ≠ 0)
    some ((readNat [a, b, c, d], month, day), r)
  | _ => none

def readMoment? (s : List Char) : Except Fault (Option (Datum × List Char)) :=
  match readDate? s with
  | none => .ok ((readTime? s).map fun (t, r) => (.moment t, r))
  | some ((year, month, day), r) =>
    if year = 0 || daysOf year month < day then faultAt s .date
    else
      let text := padZeros 4 (natText year) ++ "-" ++ twoText month ++ "-" ++ twoText day
      let time :=
        match r with
        | c :: r' =>
          if c = 'T' || c = 't' || c = ' ' then
            (readTime? r').map fun (t, r) =>
              let (offset, r) := readOffset r
              (text ++ " " ++ t ++ offset, r)
          else none
        | [] => none
      let (text, r) := time.getD (text, r)
      .ok (some (.moment text, r))

end LineShell.Toml
