import LineShell.Text.Character

/-!
Programs that do nothing. Of a program that is given as a text only the plainest statements are
understood: comments, values that stand alone, names for them, and `pass`. Such a
program defines no class; any other text is not taken for a program at all.
-/

namespace LineShell.Inert

open LineShell.Text

def isGap (c : Char) : Bool :=
  c = ' ' || c = '\t' || c = '\x0c'

def isHexDigit (c : Char) : Bool :=
  isBasicDigit c || ('a' ≤ c.toLower && c.toLower ≤ 'f')

def escapeDigits (c : Char) : Nat :=
  if c = 'x' then 2 else if c = 'u' then 4 else if c = 'U' then 8 else 0

def isEscape (c : Char) (rest : List Char) : Bool :=
  let ds := rest.take (escapeDigits c)
  c != 'N' && ds.length = escapeDigits c && ds.all isHexDigit
    && (c != 'U' || (ds.take 3 == ['0', '0', '0'] || ds.take 4 == ['0', '0', '1', '0']))

def afterText? (raw : Bool) (closing : List Char) : List Char → Option (List Char)
  | [] => none
  | '\\' :: c :: r => if raw || isEscape c r then afterText? raw closing r else none
  | c :: r =>
    if closing.isPrefixOf (c :: r) then some (r.drop (closing.length - 1))
    else if c = '\n' && closing.length = 1 then none
    else afterText? raw closing r

def afterQuotes? (raw : Bool) : List Char → Option (List Char)
  | a :: b :: c :: r =>
    if (a = '"' || a = '\'') && b = a && c = a then afterText? raw [a, a, a] r
    else afterOne a (b :: c :: r)
  | a :: r => afterOne a r
  | [] => none
where
  afterOne (quote : Char) (r : List Char) : Option (List Char) :=
    if quote = '"' || quote = '\'' then afterText? raw [quote] r else none

def afterLiteral? (s : List Char) : Option (List Char) :=
  match s with
  | 'r' :: r | 'R' :: r => afterQuotes? true r
  | 'u' :: r | 'U' :: r => afterQuotes? false r
  | s => afterQuotes? false s

def afterLiterals? : Nat → List Char → Option (List Char)
  | 0, _ => none
  | fuel + 1, s =>
    (afterLiteral? s).map fun r =>
      (afterLiterals? fuel (r.dropWhile isGap)).getD r

def isNameChar (c : Char) : Bool :=
  c.isAlphanum || c = '_'

def afterNumber? (s : List Char) : Option (List Char) :=
  let (ds, rest) := s.span isBasicDigit
  let plain := ds == ['0'] || (!ds.isEmpty && ds.head? != some '0')
  if plain && ds.length < 4000 && !(rest.head?.any fun c => isNameChar c || c = '.') then some rest
  else none

def reserved : List String :=
  ["False", "None", "True", "and", "as", "assert", "async", "await", "break", "class", "continue",
    "def", "del", "elif", "else", "except", "finally", "for", "from", "global", "if", "import",
    "in", "is", "lambda", "nonlocal", "not", "or", "pass", "raise", "return", "try", "while",
    "with", "yield", "__debug__"]

def afterWord? (s : List Char) : Option (List Char) :=
  let (word, r) := s.span isNameChar
  if ["False", "None", "True"].contains (String.ofList word) then some r else none

def afterValue? (s : List Char) : Option (List Char) :=
  (afterLiterals? (s.length + 1) s <|> afterNumber? s) <|> afterWord? s

def isName (word : List Char) : Bool :=
  word.head?.any (fun c => !isBasicDigit c) && !reserved.contains (String.ofList word)

def afterStatement? (s : List Char) : Option (List Char) :=
  match afterValue? s with
  | some r => some r
  | none =>
    let (name, r) := s.span isNameChar
    let r := r.dropWhile isGap
    if String.ofList name = "pass" then some r
    else
      match isName name, r with
      | true, '=' :: r => afterValue? (r.dropWhile isGap)
      | _, _ => none

def afterStatements? : Nat → List Char → Option (List Char)
  | 0, _ => none
  | fuel + 1, s =>
    (afterStatement? s).bind fun r =>
      match r.dropWhile isGap with
      | ';' :: r =>
        let r := r.dropWhile isGap
        if r.head?.all fun c => c = '\n' || c = '#' then some r else afterStatements? fuel r
      | r => some r

def isIndented (s : List Char) : Bool :=
  !((s.takeWhile isGap).reverse.takeWhile (· != '\x0c')).isEmpty

def areLines : Nat → List Char → Bool
  | 0, _ => false
  | fuel + 1, s =>
    let rest : Option (List Char) :=
      match s.dropWhile isGap with
      | [] => some []
      | c :: r =>
        if c = '\n' || c = '#' then some (c :: r)
        else if isIndented s then none
        else (afterStatements? (s.length + 1) (c :: r)).map fun r => r.dropWhile isGap
    let next := rest.map fun r => if r.head? == some '#' then r.dropWhile (· != '\n') else r
    match next with
    | some [] => true
    | some ('\n' :: r) => areLines fuel r
    | _ => false

def isInert (s : String) : Bool :=
  let cs :=
    match s.toList with
    | '\ufeff' :: r => r
    | r => r
  let cs := unifyLineEnds cs
  !cs.contains '\x00' && areLines (cs.length + 1) cs

end LineShell.Inert
