import LineShell.Datum.Reader
import LineShell.Toml.Fault

namespace LineShell.Toml

def escape? (c : Char) : Option Char :=
  match c with
  | 'b' => some (Char.ofNat 8)
  | 't' => some '\t'
  | 'n' => some '\n'
  | 'f' => some (Char.ofNat 12)
  | 'r' => some '\r'
  | '"' => some '"'
  | '\\' => some '\\'
  | _ => none

def readHexChar (width : Nat) : Reader Char := fun s =>
  let ds := s.take width
  let values := ds.filterMap Datum.hexValue?
  if values.length ≠ width then faultAt s .hexValue
  else
    let n := values.foldl (fun n d => 16 * n + d) 0
    let r := s.drop width
    if n < 0xD800 || (0xE000 ≤ n && n < 0x110000) then .ok (Char.ofNat n, r)
    else faultAt r .notScalar

def readEscape (multiline : Bool) : Reader (List Char) := fun s =>
  match s with
  | [] => faultAt [] .escape
  | 'u' :: r => (readHexChar 4 r).map fun (c, r) => ([c], r)
  | 'U' :: r => (readHexChar 8 r).map fun (c, r) => ([c], r)
  | e :: r =>
    if multiline && isSpaceOrLineEnd e then
      match if e = '\n' then '\n' :: r else skipSpace r with
      | [] => .ok ([], [])
      | '\n' :: r => .ok ([], r.dropWhile isSpaceOrLineEnd)
      | c :: r => faultAt (c :: r) .escape
    else
      match escape? e with
      | some c => .ok ([c], r)
      | none => faultAt r .escape

def readBasic (multiline : Bool) : Nat → List Char → Reader (List Char)
  | 0, _, s => faultAt s .openString
  | fuel + 1, acc, s =>
    match s with
    | [] => faultAt [] .openString
    | '"' :: r =>
      if !multiline then .ok (acc.reverse, r)
      else
        match r with
        | '"' :: '"' :: r => .ok (acc.reverse, r)
        | r => readBasic multiline fuel ('"' :: acc) r
    | '\\' :: r => do
      let (cs, r) ← readEscape multiline r
      readBasic multiline fuel (cs.reverse ++ acc) r
    | c :: r =>
      if isControl c && !(multiline && c = '\n') then faultAt (c :: r) (.illegalChar c)
      else readBasic multiline fuel (c :: acc) r

def splitBefore? (mark : List Char) : List Char → Option (List Char × List Char)
  | [] => none
  | c :: r =>
    if mark.isPrefixOf (c :: r) then some ([], (c :: r).drop mark.length)
    else (splitBefore? mark r).map fun (before, rest) => (c :: before, rest)

def readLiteral (mark : String) (multiline : Bool) : Reader (List Char) := fun s =>
  match splitBefore? mark.toList s with
  | none => faultAt [] (.expected mark)
  | some (body, rest) =>
    let bad := fun c => isControl c && !(multiline && c = '\n')
    match body.find? bad with
    | some c => faultAt (s.dropWhile fun c => !bad c) (.invalidChar c)
    | none => .ok (body, rest)

def takeQuotes (quote : Char) (body : List Char) : List Char → List Char × List Char
  | a :: b :: r =>
    if a = quote && b = quote then (body ++ [quote, quote], r)
    else if a = quote then (body ++ [quote], b :: r)
    else (body, a :: b :: r)
  | [a] => if a = quote then (body ++ [quote], []) else (body, [a])
  | [] => (body, [])

def skipLineEnd : List Char → List Char
  | '\n' :: r => r
  | r => r

def readString : Reader String := fun s =>
  let text : List Char × List Char → String × List Char := fun (cs, r) => (String.ofList cs, r)
  match s with
  | '"' :: '"' :: '"' :: r =>
    (readBasic true (r.length + 1) [] (skipLineEnd r)).map fun (cs, r) => text (takeQuotes '"' cs r)
  | '"' :: r => (readBasic false (r.length + 1) [] r).map text
  | '\'' :: '\'' :: '\'' :: r =>
    (readLiteral "'''" true (skipLineEnd r)).map fun (cs, r) => text (takeQuotes '\'' cs r)
  | '\'' :: r => (readLiteral "'" false r).map text
  | s => faultAt s .value

def isBareKeyChar (c : Char) : Bool :=
  c.isAlphanum || c = '-' || c = '_'

def readKeyPart : Reader String := fun s =>
  match s with
  | '"' :: r => (readBasic false (r.length + 1) [] r).map fun (cs, r) => (String.ofList cs, r)
  | '\'' :: r => (readLiteral "'" false r).map fun (cs, r) => (String.ofList cs, r)
  | s =>
    let (part, rest) := s.span isBareKeyChar
    if part.isEmpty then faultAt s .keyStart else .ok (String.ofList part, rest)

def readKeyParts : Nat → Reader (List String)
  | 0, s => faultAt s .keyStart
  | fuel + 1, s => do
    let (part, r) ← readKeyPart s
    match skipSpace r with
    | '.' :: r =>
      let (parts, r) ← readKeyParts fuel (skipSpace r)
      .ok (part :: parts, r)
    | r => .ok ([part], r)

def readKey : Reader (List String) := fun s =>
  readKeyParts (s.length + 1) s

end LineShell.Toml
