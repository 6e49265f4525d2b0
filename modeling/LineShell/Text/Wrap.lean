import LineShell.Text.Character
import LineShell.Text.Cluster

/-!
Wrapping texts to a number of cells. A line breaks before the first word that does not fit; a word
that fits no line is folded into pieces, or cut with an ellipsis where folding is not wanted. White
space between words stays as it is, but for what stands beyond the width at the end of a line.
-/

namespace LineShell.Text

def isTerminalControl (c : Char) : Bool :=
  let n := c.toNat
  n == 7 || n == 8 || n == 11 || n == 12 || n == 13

def printable (s : String) : List Char :=
  s.toList.filter fun c => !isTerminalControl c

def linesOf : List Char → List (List Char)
  | [] => [[]]
  | c :: rest =>
    if c = '\n' then [] :: linesOf rest
    else
      match linesOf rest with
      | [] => [[c]]
      | line :: lines => (c :: line) :: lines

def tabParts : List Char → List (List Char)
  | [] => [[]]
  | c :: rest =>
    if c = '\t' then [] :: tabParts rest
    else
      match tabParts rest with
      | [] => [[c]]
      | part :: parts => (c :: part) :: parts

def joinTabs : Nat → List (List Char) → List Char
  | _, [] => []
  | _, [part] => part
  | column, part :: parts =>
    let part := part ++ [' ']
    let column := column + cellWidth part
    let spaces := (8 - column % 8) % 8
    part ++ List.replicate spaces ' ' ++ joinTabs (column + spaces) parts

def expandTabs (line : List Char) : List Char :=
  joinTabs 0 (tabParts line)

inductive Overflow
  | fold
  | ellipsis
  deriving DecidableEq, Repr

def chunks : Nat → List Char → List (List Char)
  | 0, _ => []
  | fuel + 1, s =>
    let lead := s.takeWhile isBlank
    let rest := s.dropWhile isBlank
    if rest.isEmpty then []
    else
      let word := rest.takeWhile fun c => !isBlank c
      let rest := rest.dropWhile fun c => !isBlank c
      let trail := rest.takeWhile isBlank
      (lead ++ word ++ trail) :: chunks fuel (rest.dropWhile isBlank)

def foldFrom (width : Nat) : List Char → Nat → List Cluster → List (List Char)
  | piece, _, [] => [piece.reverse]
  | piece, used, k :: ks =>
    if width < used + k.width then
      piece.reverse :: foldFrom width k.text.reverse k.width ks
    else foldFrom width (k.text.reverse ++ piece) (used + k.width) ks

structure Filling where
  done : List (List Char)
  line : List Char
  used : Nat

def Filling.break (f : Filling) : List (List Char) :=
  if f.line.isEmpty && f.done.isEmpty then f.done else f.line :: f.done

def Filling.add (width : Nat) (overflow : Overflow) (f : Filling) (word : List Char) : Filling :=
  let needed := cellWidth (dropTrailing isBlank word)
  if f.used + needed ≤ width then
    { f with line := f.line ++ word, used := f.used + cellWidth word }
  else if width < needed then
    match overflow with
    | .fold =>
      let pieces := foldFrom width [] 0 (clusters word)
      let last := pieces.getLast?.getD []
      ⟨pieces.dropLast.reverse ++ f.break, last, cellWidth last⟩
    | .ellipsis => ⟨f.break, word, cellWidth word⟩
  else if f.used = 0 then { f with line := f.line ++ word }
  else ⟨f.break, word, cellWidth word⟩

def trimEnd (width : Nat) (line : List Char) : List Char :=
  let blanks := (line.reverse.takeWhile isBlank).length
  line.take (line.length - min blanks (line.length - width))

def truncate (width : Nat) (overflow : Overflow) (line : List Char) : List Char :=
  if cellWidth line ≤ width then line
  else
    match overflow with
    | .fold => takeCells width (clusters line)
    | .ellipsis => takeCells (width - 1) (clusters line) ++ ['…']

def wrapLine (width : Nat) (overflow : Overflow) (line : List Char) : List (List Char) :=
  let line := expandTabs line
  let words := chunks (line.length + 1) line
  let pieces :=
    if words.isEmpty then [line]
    else
      let f := words.foldl (Filling.add width overflow) ⟨[], [], 0⟩
      (f.line :: f.done).reverse
  pieces.map fun p => truncate width overflow (trimEnd width p)

def wrap (width : Nat) (overflow : Overflow) (s : List Char) : List (List Char) :=
  (linesOf s).flatMap (wrapLine width overflow)

end LineShell.Text
