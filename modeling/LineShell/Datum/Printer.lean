import LineShell.Datum.Basic
import LineShell.Decimal.Layout
import LineShell.Text.Quoted

namespace LineShell.Datum

open LineShell.Text LineShell.Decimal

def openBrace : String := "\x7b"

def closeBrace : String := "\x7d"

def commonEscape? (c : Char) : Option String :=
  match c with
  | '"' => some "\\\""
  | '\\' => some "\\\\"
  | '\n' => some "\\n"
  | '\r' => some "\\r"
  | '\t' => some "\\t"
  | _ =>
    if c.toNat = 8 then some "\\b"
    else if c.toNat = 12 then some "\\f"
    else if c.toNat < 32 then some ("\\u" ++ String.ofList (hexDigits 4 c.toNat))
    else none

def basicChar (c : Char) : String :=
  match commonEscape? c with
  | some e => e
  | none =>
    let n := c.toNat
    let unit (k : Nat) := "\\u" ++ String.ofList (hexDigits 4 k)
    if n < 127 then String.singleton c
    else if n < 0x10000 then unit n
    else unit (0xD800 + (n - 0x10000) / 1024) ++ unit (0xDC00 + (n - 0x10000) % 1024)

def fullChar (c : Char) : String :=
  (commonEscape? c).getD (String.singleton c)

def writeString (write : Char → String) (s : String) : String :=
  s.foldl (fun t c => t ++ write c) "\"" ++ "\""

def wordLayout : Layout :=
  ⟨-4, 16, 2, "NaN", "Infinity", "-Infinity"⟩

mutual

def compact : Datum → String
  | .null => "null"
  | .bool b => if b then "true" else "false"
  | .int n => intText n
  | .float x => wordLayout.float x
  | .string s | .moment s => writeString basicChar s
  | .array ds => "[" ++ compactItems ds ++ "]"
  | .object es => openBrace ++ compactEntries es ++ closeBrace

def compactItems : List Datum → String
  | [] => ""
  | [d] => compact d
  | d :: ds => compact d ++ "," ++ compactItems ds

def compactEntries : List (String × Datum) → String
  | [] => ""
  | [(k, d)] => writeString basicChar k ++ ":" ++ compact d
  | (k, d) :: es => writeString basicChar k ++ ":" ++ compact d ++ "," ++ compactEntries es

end

def lineBreak (level : Nat) : String :=
  "\n" ++ String.ofList (List.replicate (2 * level) ' ')

mutual

def indented (level : Nat) : Datum → String
  | .null => "null"
  | .bool b => if b then "true" else "false"
  | .int n => intText n
  | .float x => Layout.document.float x
  | .string s | .moment s => writeString fullChar s
  | .array [] => "[]"
  | .array ds => "[" ++ indentedItems (level + 1) ds ++ lineBreak level ++ "]"
  | .object [] => openBrace ++ closeBrace
  | .object es => openBrace ++ indentedEntries (level + 1) es ++ lineBreak level ++ closeBrace

def indentedItems (level : Nat) : List Datum → String
  | [] => ""
  | [d] => lineBreak level ++ indented level d
  | d :: ds => lineBreak level ++ indented level d ++ "," ++ indentedItems level ds

def indentedEntries (level : Nat) : List (String × Datum) → String
  | [] => ""
  | [(k, d)] => lineBreak level ++ writeString fullChar k ++ ": " ++ indented level d
  | (k, d) :: es =>
    lineBreak level ++ writeString fullChar k ++ ": " ++ indented level d ++ ","
      ++ indentedEntries level es

end

def document (d : Datum) : String :=
  indented 0 d

mutual

def inner : Datum → String
  | .null => "None"
  | .bool b => if b then "True" else "False"
  | .int n => intText n
  | .float x => floatText x
  | .string s => quoted s
  | .moment s => s
  | .array ds => "[" ++ innerItems ds ++ "]"
  | .object es => openBrace ++ innerEntries es ++ closeBrace

def innerItems : List Datum → String
  | [] => ""
  | [d] => inner d
  | d :: ds => inner d ++ ", " ++ innerItems ds

def innerEntries : List (String × Datum) → String
  | [] => ""
  | [(k, d)] => quoted k ++ ": " ++ inner d
  | (k, d) :: es => quoted k ++ ": " ++ inner d ++ ", " ++ innerEntries es

end

def text : Datum → String
  | .string s => s
  | d => inner d

end LineShell.Datum
