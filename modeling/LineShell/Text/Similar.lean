namespace LineShell.Text

structure SharedBlock where
  left : Nat
  right : Nat
  size : Nat
  deriving DecidableEq, Repr

def sharedStart : List Char → List Char → Nat
  | a :: as, b :: bs => if a = b then sharedStart as bs + 1 else 0
  | _, _ => 0

def sharedBlocks (a b : List Char) : List SharedBlock :=
  (List.range a.length).flatMap fun i =>
    (List.range b.length).map fun j => ⟨i, j, sharedStart (a.drop i) (b.drop j)⟩

def longestBlock (a b : List Char) : SharedBlock :=
  (sharedBlocks a b).foldl (fun best s => if best.size < s.size then s else best) ⟨0, 0, 0⟩

def sharedWithin : Nat → List Char → List Char → Nat
  | 0, _, _ => 0
  | blocks + 1, a, b =>
    let s := longestBlock a b
    if s.size = 0 then 0
    else
      sharedWithin blocks (a.take s.left) (b.take s.right) + s.size
        + sharedWithin blocks (a.drop (s.left + s.size)) (b.drop (s.right + s.size))

def sharedCount (a b : List Char) : Nat :=
  sharedWithin a.length a b

structure Likeness where
  word : String
  shared : Nat
  total : Nat

namespace Likeness

def of (other word : String) : Likeness :=
  ⟨word, sharedCount word.toList other.toList, word.length + other.length⟩

def isClose (l : Likeness) : Bool :=
  3 * l.total ≤ 10 * l.shared

def before (k l : Likeness) : Bool :=
  let left := k.shared * l.total
  let right := l.shared * k.total
  right < left || (left == right && !(k.word < l.word))

end Likeness

def closeWords (word : String) (words : List String) : List String :=
  let close := (words.map (Likeness.of word)).filter Likeness.isClose
  let best := ((close.mergeSort Likeness.before).take 3).map Likeness.word
  best.mergeSort fun a b => !(b < a)

end LineShell.Text
