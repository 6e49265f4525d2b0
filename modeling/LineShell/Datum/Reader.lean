import LineShell.Datum.Basic
import LineShell.Decimal.Read

namespace LineShell.Datum

open LineShell.Text LineShell.Decimal

def isGap (c : Char) : Bool :=
  c = ' ' || c = '\t' || c = '\n' || c = '\r'

def skipGap (s : List Char) : List Char :=
  s.dropWhile isGap

def hexValue? (c : Char) : Option Nat :=
  if '0' ≤ c && c ≤ '9' then some (c.toNat - 48)
  else if 'a' ≤ c && c ≤ 'f' then some (c.toNat - 87)
  else if 'A' ≤ c && c ≤ 'F' then some (c.toNat - 55)
  else none

def readUnit? : List Char → Option (Nat × List Char)
  | a :: b :: c :: d :: r => do
    let a ← hexValue? a
    let b ← hexValue? b
    let c ← hexValue? c
    let d ← hexValue? d
    some (4096 * a + 256 * b + 16 * c + d, r)
  | _ => none

def escaped? (c : Char) : Option Char :=
  match c with
  | '"' => some '"'
  | '\\' => some '\\'
  | '/' => some '/'
  | 'b' => some (Char.ofNat 8)
  | 'f' => some (Char.ofNat 12)
  | 'n' => some '\n'
  | 'r' => some '\r'
  | 't' => some '\t'
  | _ => none

def joinUnits (high low : Nat) : Char :=
  Char.ofNat (0x10000 + (high - 0xD800) * 1024 + (low - 0xDC00))

def readString? : Nat → List Char → List Char → Option (String × List Char)
  | 0, _, _ => none
  | _ + 1, _, [] => none
  | fuel + 1, acc, c :: r =>
    if c = '"' then some (String.ofList acc.reverse, r)
    else if c.toNat < 32 then none
    else if c = '\\' then
      match r with
      | 'u' :: r => do
        let (unit, r) ← readUnit? r
        if 0xD800 ≤ unit && unit < 0xDC00 then
          match r with
          | '\\' :: 'u' :: r' => do
            let (low, r') ← readUnit? r'
            if 0xDC00 ≤ low && low < 0xE000 then readString? fuel (joinUnits unit low :: acc) r'
            else readString? fuel (Char.ofNat 0xFFFD :: acc) r
          | _ => readString? fuel (Char.ofNat 0xFFFD :: acc) r
        else readString? fuel (Char.ofNat unit :: acc) r
      | e :: r => do
        let c ← escaped? e
        readString? fuel (c :: acc) r
      | [] => none
    else readString? fuel (c :: acc) r

def splitDigits (s : List Char) : List Char × List Char :=
  s.span isBasicDigit

def readNumber? (s : List Char) : Option (Datum × List Char) :=
  let (negative, body) :=
    match s with
    | '-' :: r => (true, r)
    | r => (false, r)
  let (whole, rest) :=
    match body with
    | '0' :: r => (['0'], r)
    | r => splitDigits r
  if whole.isEmpty then none
  else
    let (fraction, rest) :=
      match rest with
      | '.' :: r =>
        let (ds, r') := splitDigits r
        if ds.isEmpty then ([], rest) else (ds, r')
      | r => ([], r)
    let (exponent, rest) :=
      match rest with
      | c :: r =>
        if c = 'e' || c = 'E' then
          let (minus, r) := splitSign r
          let (ds, r') := splitDigits r
          if ds.isEmpty then (none, rest)
          else (some (if minus then -(readNat ds : Int) else readNat ds), r')
        else (none, rest)
      | [] => (none, rest)
    if fraction.isEmpty && exponent.isNone then
      if digitLimit < whole.length then none else some (.int (signedNat negative whole), rest)
    else
      let ds := (whole ++ fraction).dropWhile (· == '0')
      let e := exponent.getD 0 - fraction.length
      some (.float (floatOfDecimal negative (readNat ds) ds.length e), rest)

def words : List (List Char × Datum) :=
  [("null".toList, .null), ("true".toList, .bool true), ("false".toList, .bool false),
    ("NaN".toList, .float (Float.ofBits 0x7FF8000000000000)),
    ("Infinity".toList, .float (floatOfQuotient false (twoTo 1100) 1)),
    ("-Infinity".toList, .float (floatOfQuotient true (twoTo 1100) 1))]

def readPlain? (s : List Char) : Option (Datum × List Char) :=
  match words.find? fun w => w.1.isPrefixOf s with
  | some (w, d) => some (d, s.drop w.length)
  | none => readNumber? s

inductive Container
  | array
  | object
  deriving DecidableEq, Repr

def Container.name : Container → String
  | .array => "array"
  | .object => "object"

inductive ReadFault
  | malformed
  | noRoom (innermost : Container)
  deriving DecidableEq, Repr

def orMalformed {α : Type} : Option α → Except ReadFault α
  | some a => .ok a
  | none => .error .malformed

mutual

def readValue (room : Nat) : Nat → List Char → Except ReadFault (Datum × List Char)
  | 0, _ => .error .malformed
  | fuel + 1, s =>
    match s with
    | '"' :: r =>
      orMalformed ((readString? (r.length + 1) [] r).map fun (t, r) => (.string t, r))
    | '[' :: r =>
      match room with
      | 0 => .error (.noRoom .array)
      | room + 1 =>
        match skipGap r with
        | ']' :: r => .ok (.array [], r)
        | r => (readItems room fuel r).map fun (ds, r) => (.array ds, r)
    | '\x7b' :: r =>
      match room with
      | 0 => .error (.noRoom .object)
      | room + 1 =>
        match skipGap r with
        | '\x7d' :: r => .ok (.object [], r)
        | r => (readEntries room fuel [] r).map fun (es, r) => (.object es, r)
    | _ => orMalformed (readPlain? s)

def readItems (room : Nat) : Nat → List Char → Except ReadFault (List Datum × List Char)
  | 0, _ => .error .malformed
  | fuel + 1, s => do
    let (d, r) ← readValue room fuel s
    match skipGap r with
    | ',' :: r =>
      let (ds, r) ← readItems room fuel (skipGap r)
      .ok (d :: ds, r)
    | ']' :: r => .ok ([d], r)
    | _ => .error .malformed

def readEntries (room : Nat) :
    Nat → Entries Datum → List Char → Except ReadFault (Entries Datum × List Char)
  | 0, _, _ => .error .malformed
  | fuel + 1, es, s => do
    let '"' :: r := s | .error .malformed
    let (key, r) ← orMalformed (readString? (r.length + 1) [] r)
    let ':' :: r := skipGap r | .error .malformed
    let (d, r) ← readValue room fuel (skipGap r)
    let es := es.set key d
    match skipGap r with
    | ',' :: r => readEntries room fuel es (skipGap r)
    | '\x7d' :: r => .ok (es, r)
    | _ => .error .malformed

end

def read (room : Nat) (s : String) : Except ReadFault Datum := do
  let cs := skipGap s.toList
  let (d, r) ← readValue room (cs.length + 1) cs
  if (skipGap r).isEmpty then .ok d else .error .malformed

end LineShell.Datum
