namespace LineShell.Text

def escape : Char := '\x1b'

def isParameterChar (c : Char) : Bool :=
  '0' ≤ c && c ≤ '?'

def isMarkChar (c : Char) : Bool :=
  ' ' ≤ c && c ≤ '/'

def isFinalChar (c : Char) : Bool :=
  '@' ≤ c && c ≤ '~'

def afterSequence? : List Char → Option (List Char)
  | '[' :: r =>
    match (r.dropWhile isParameterChar).dropWhile isMarkChar with
    | c :: rest => if isFinalChar c then some rest else none
    | [] => none
  | _ => none

theorem length_dropWhile_le (p : Char → Bool) (s : List Char) :
    (s.dropWhile p).length ≤ s.length :=
  (List.dropWhile_suffix p).length_le

theorem length_afterSequence?_le {s rest : List Char} (h : afterSequence? s = some rest) :
    rest.length ≤ s.length := by
  unfold afterSequence? at h
  split at h
  · rename_i r
    have hp := length_dropWhile_le isParameterChar r
    have hm := length_dropWhile_le isMarkChar (r.dropWhile isParameterChar)
    split at h
    · rename_i c t ht
      rw [ht, List.length_cons] at hm
      split at h
      · obtain rfl := Option.some.inj h
        rw [List.length_cons]
        omega
      · cases h
    · cases h
  · cases h

def withoutEscapes : List Char → List Char
  | [] => []
  | c :: r =>
    if c = escape then
      match h : afterSequence? r with
      | some rest =>
        have := length_afterSequence?_le h
        withoutEscapes rest
      | none => c :: withoutEscapes r
    else c :: withoutEscapes r
termination_by s => s.length

def dropEscapes (s : String) : String :=
  String.ofList (withoutEscapes s.toList)

end LineShell.Text
