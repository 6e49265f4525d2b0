namespace LineShell

/-- A path: its slashes at the start, and its names without empty ones and single dots. -/
structure Path where
  anchor : String
  names : List String
  deriving DecidableEq, Repr

namespace Path

def pieces : List Char → List (List Char)
  | [] => [[]]
  | '/' :: rest => [] :: pieces rest
  | c :: rest =>
    match pieces rest with
    | [] => [[c]]
    | p :: ps => (c :: p) :: ps

def anchorOf : List Char → String
  | '/' :: '/' :: '/' :: _ => "/"
  | '/' :: '/' :: _ => "//"
  | '/' :: _ => "/"
  | _ => ""

def ofString (s : String) : Path :=
  let names := ((pieces s.toList).map String.ofList).filter fun n => n ≠ "" ∧ n ≠ "."
  ⟨anchorOf s.toList, names⟩

def toText (p : Path) : String :=
  if p.anchor.isEmpty && p.names.isEmpty then "." else p.anchor ++ "/".intercalate p.names

def isAbsolute (p : Path) : Bool :=
  !p.anchor.isEmpty

def append (p q : Path) : Path :=
  if q.isAbsolute then q else ⟨p.anchor, p.names ++ q.names⟩

def child (p : Path) (name : String) : Path :=
  ⟨p.anchor, p.names ++ [name]⟩

def parent (p : Path) : Path :=
  ⟨p.anchor, p.names.dropLast⟩

def hasNull (p : Path) : Bool :=
  p.names.any fun n => n.contains (Char.ofNat 0)

def name (p : Path) : String :=
  p.names.getLast?.getD ""

def stemOf (name : String) : String :=
  let ending := name.toList.reverse.takeWhile (· != '.')
  let rest := name.toList.take (name.length - ending.length - 1)
  if ending.isEmpty || ending.length = name.length || rest.isEmpty then name else String.ofList rest

def walk (names : List String) : List String :=
  names.foldl (fun done n => if n = ".." then done.dropLast else done ++ [n]) []

def resolve (cwd p : Path) : Path :=
  let full := cwd.append p
  ⟨"/", walk full.names⟩

def selfAndParents (p : Path) : List Path :=
  (List.range (p.names.length + 1)).reverse.map fun n => ⟨p.anchor, p.names.take n⟩

end Path

end LineShell
