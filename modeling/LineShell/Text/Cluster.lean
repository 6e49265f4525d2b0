import LineShell.Text.CellWidth

/-!
Clusters: characters that a terminal shows in one place. A mark belongs to the character before
it, a joiner draws the next character into the cluster, and an emoji selector makes some symbols
wide. A text is only ever cut between clusters.
-/

namespace LineShell.Text

def joiner : Char := '\u200d'

def emojiSelector : Char := '\ufe0f'

def selectorWidth (last : Option Char) : Nat :=
  if last.any isWidened then 1 else 0

structure Measure where
  cells : Nat
  last : Option Char
  joined : Bool

def Measure.add (m : Measure) (c : Char) : Measure :=
  if m.joined then { m with joined := false }
  else if c = joiner then { m with joined := true }
  else if c = emojiSelector then ⟨m.cells + selectorWidth m.last, none, false⟩
  else
    match charWidth c with
    | 0 => m
    | n => ⟨m.cells + n, some c, false⟩

def cellWidth (s : List Char) : Nat :=
  (s.foldl Measure.add ⟨0, none, false⟩).cells

structure Cluster where
  text : List Char
  width : Nat
  deriving DecidableEq, Repr

structure Splitting where
  done : List Cluster
  chars : List Char
  width : Nat
  last : Option Char
  joined : Bool

namespace Splitting

def start : Splitting := ⟨[], [], 0, none, false⟩

def clusters (s : Splitting) : List Cluster :=
  if s.chars.isEmpty then s.done else ⟨s.chars.reverse, s.width⟩ :: s.done

def add (s : Splitting) (c : Char) : Splitting :=
  if s.joined then { s with chars := c :: s.chars, joined := false }
  else if c = joiner then { s with chars := c :: s.chars, joined := !s.chars.isEmpty }
  else if c = emojiSelector then
    { s with chars := c :: s.chars, width := s.width + selectorWidth s.last, last := none }
  else
    match charWidth c with
    | 0 => { s with chars := c :: s.chars }
    | n => ⟨s.clusters, [c], n, some c, false⟩

end Splitting

def clusters (s : List Char) : List Cluster :=
  (s.foldl Splitting.add .start).clusters.reverse

def takeCells : Nat → List Cluster → List Char
  | 0, _ => []
  | _, [] => []
  | room, k :: ks =>
    if k.width ≤ room then k.text ++ takeCells (room - k.width) ks else List.replicate room ' '

end LineShell.Text
