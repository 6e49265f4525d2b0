namespace LineShell.Text

def isBlank (c : Char) : Bool :=
  let n := c.toNat
  (9 ≤ n && n ≤ 13) || (28 ≤ n && n ≤ 32) || n == 0x85 || n == 0xA0 || n == 0x1680
    || (0x2000 ≤ n && n ≤ 0x200A) || n == 0x2028 || n == 0x2029 || n == 0x202F
    || n == 0x205F || n == 0x3000

def isNumericBlank (c : Char) : Bool :=
  isBlank c && !(28 ≤ c.toNat && c.toNat ≤ 31)

def isLineEnd (c : Char) : Bool :=
  let n := c.toNat
  (10 ≤ n && n ≤ 13) || (28 ≤ n && n ≤ 30) || n == 0x85 || n == 0x2028 || n == 0x2029

def dropLeading (p : Char → Bool) (s : List Char) : List Char :=
  s.dropWhile p

def dropTrailing (p : Char → Bool) (s : List Char) : List Char :=
  (s.reverse.dropWhile p).reverse

def strip (s : List Char) : List Char :=
  dropTrailing isBlank (dropLeading isBlank s)

def stripNumeric (s : List Char) : List Char :=
  dropTrailing isNumericBlank (dropLeading isNumericBlank s)

def unifyLineEnds : List Char → List Char
  | '\r' :: '\n' :: r => '\n' :: unifyLineEnds r
  | '\r' :: r => '\n' :: unifyLineEnds r
  | c :: r => c :: unifyLineEnds r
  | [] => []

def isBlankText (s : String) : Bool :=
  s.toList.all isBlank

def dropTrailingOf (p : Char → Bool) (s : String) : String :=
  String.ofList (dropTrailing p s.toList)

def stripped (s : String) : String :=
  String.ofList (strip s.toList)

def decimalZeros : List Nat :=
  [48, 0x660, 0x6f0, 0x7c0, 0x966, 0x9e6, 0xa66, 0xae6, 0xb66, 0xbe6, 0xc66, 0xce6, 0xd66, 0xde6,
    0xe50, 0xed0, 0xf20, 0x1040, 0x1090, 0x17e0, 0x1810, 0x1946, 0x19d0, 0x1a80, 0x1a90, 0x1b50,
    0x1bb0, 0x1c40, 0x1c50, 0xa620, 0xa8d0, 0xa900, 0xa9d0, 0xa9f0, 0xaa50, 0xabf0, 0xff10, 0x104a0,
    0x10d30, 0x11066, 0x110f0, 0x11136, 0x111d0, 0x112f0, 0x11450, 0x114d0, 0x11650, 0x116c0,
    0x11730, 0x118e0, 0x11950, 0x11c50, 0x11d50, 0x11da0, 0x16a60, 0x16ac0, 0x16b50, 0x1d7ce,
    0x1d7d8, 0x1d7e2, 0x1d7ec, 0x1d7f6, 0x1e140, 0x1e2f0, 0x1e950, 0x1fbf0]

def digitValue? (c : Char) : Option Nat :=
  let n := c.toNat
  if n < 128 then
    if 48 ≤ n && n ≤ 57 then some (n - 48) else none
  else
    (decimalZeros.find? fun z => z ≤ n && n < z + 10).map (n - ·)

def isBasicDigit (c : Char) : Bool :=
  '0' ≤ c && c ≤ '9'

example : decimalZeros.length = 66 := by decide

def inRangesBetween (table : Array (Nat × Nat)) (n : Nat) (low high : Nat) : Bool :=
  if _h : low < high then
    let middle := (low + high) / 2
    match table[middle]? with
    | none => false
    | some (first, last) =>
      if n < first then inRangesBetween table n low middle
      else if last < n then inRangesBetween table n (middle + 1) high
      else true
  else false
termination_by high - low

def inRanges (table : Array (Nat × Nat)) (n : Nat) : Bool :=
  inRangesBetween table n 0 table.size

end LineShell.Text
