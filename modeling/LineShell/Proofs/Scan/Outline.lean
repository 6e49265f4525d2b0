import LineShell.Scan
import Mathlib

/-! The structure of a parameter text, read off the text alone by recursive descent, and what a
resolver makes of it: inner groups before outer ones, the rest from left to right. -/

namespace LineShell.Scan

inductive Piece
  | char (c : Char)
  | group (body : List Piece)

inductive Item
  | token (text : List Char)
  | group (body : List Piece)

/-- Tokens and closed groups in their order, and what the groups hold that never end, from the
outermost one inwards. -/
structure Outline where
  items : List Item
  tail : List (List Piece)

inductive Reading
  | closed (body : List Piece) (rest : List Char)
  | cut (first : List Piece) (inner : List (List Piece))

namespace Reading

def cons (p : Piece) : Reading → Reading
  | .closed body rest => .closed (p :: body) rest
  | .cut first inner => .cut (p :: first) inner

def EndsWithin (n : Nat) : Reading → Prop
  | .closed _ rest => rest.length < n
  | .cut _ _ => True

lemma EndsWithin.cons {n k : Nat} {r : Reading} (h : r.EndsWithin n) (hn : n ≤ k) (p : Piece) :
    (r.cons p).EndsWithin k := by
  cases r with
  | closed body rest => exact Nat.lt_of_lt_of_le h hn
  | cut first inner => trivial

end Reading

def readGroup (escaped : Bool) : (s : List Char) → { r : Reading // r.EndsWithin s.length }
  | [] => ⟨.cut [] [], trivial⟩
  | c :: rest =>
    if c = '\x7b' && !escaped then
      match readGroup false rest with
      | ⟨.cut first inner, _⟩ => ⟨.cut [] (first :: inner), trivial⟩
      | ⟨.closed body after, h⟩ =>
        let r := readGroup true after
        ⟨r.1.cons (.group body), r.2.cons (Nat.le_succ_of_le (Nat.le_of_lt h)) _⟩
    else if c = '\x7d' then ⟨.closed [] rest, Nat.lt_succ_self _⟩
    else
      let r := readGroup false rest
      ⟨r.1.cons (.char c), r.2.cons (Nat.le_succ _) _⟩
termination_by s => s.length
decreasing_by
  · simp
  · have hlt : after.length < rest.length := h
    simp only [List.length_cons]
    omega
  · simp

def wordItem (word : List Char) : List Item :=
  if word.isEmpty then [] else [.token word]

def Outline.after (items : List Item) (o : Outline) : Outline :=
  ⟨items ++ o.items, o.tail⟩

def outlineFrom (escaped : Bool) (word : List Char) (s : List Char) : Outline :=
  match s with
  | [] => ⟨wordItem word, []⟩
  | c :: rest =>
    if c = '\x7b' && !escaped then
      match readGroup false rest with
      | ⟨.cut first inner, _⟩ => ⟨wordItem word, first :: inner⟩
      | ⟨.closed body behind, _h⟩ =>
        (outlineFrom true [] behind).after (wordItem word ++ [.group body])
    else if c = '"' then
      match _h : rest.dropWhile (· != '"') with
      | [] => ⟨[], []⟩
      | _ :: behind =>
        (outlineFrom true [] behind).after [.token (word ++ rest.takeWhile (· != '"'))]
    else if c = ' ' then (outlineFrom false [] rest).after (wordItem word)
    else outlineFrom false (word ++ [c]) rest
termination_by s.length
decreasing_by
  · have hlt : behind.length < rest.length := _h
    simp only [List.length_cons]
    omega
  · have hle : (rest.dropWhile (· != '"')).length ≤ rest.length :=
      (List.dropWhile_sublist _).length_le
    simp only [_h, List.length_cons] at hle ⊢
    omega
  · simp
  · simp

/-- The structure of a parameter text. -/
def outline (line : String) : Outline :=
  outlineFrom false [] line.toList

variable {m : Type → Type} [Monad m]

mutual

def Piece.eval (resolve : String → m String) : Piece → m (List Char)
  | .char c => pure [c]
  | .group body => do
    let text ← evalPieces resolve body
    let result ← resolve (String.ofList text)
    pure result.toList

def evalPieces (resolve : String → m String) : List Piece → m (List Char)
  | [] => pure []
  | p :: ps => do
    let text ← p.eval resolve
    let rest ← evalPieces resolve ps
    pure (text ++ rest)

end

def Item.eval (resolve : String → m String) : Item → m String
  | .token text => pure (String.ofList text)
  | .group body => do
    let text ← evalPieces resolve body
    resolve (String.ofList text)

def evalItems (resolve : String → m String) : List Item → m (List String)
  | [] => pure []
  | i :: is => do
    let token ← i.eval resolve
    let rest ← evalItems resolve is
    pure (token :: rest)

def evalTail (resolve : String → m String) : List (List Piece) → m Unit
  | [] => pure ()
  | ps :: rest => do
    let _ ← evalPieces resolve ps
    evalTail resolve rest

def Outline.eval (resolve : String → m String) (o : Outline) : m (List String) := do
  let tokens ← evalItems resolve o.items
  evalTail resolve o.tail
  pure tokens

end LineShell.Scan
