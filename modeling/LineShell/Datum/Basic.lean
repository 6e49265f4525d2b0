import LineShell.Entries

namespace LineShell

inductive Datum
  | null
  | bool (b : Bool)
  | int (n : Int)
  | float (x : Float)
  | string (s : String)
  | array (items : List Datum)
  | object (entries : List (String × Datum))
  | moment (text : String)

namespace Datum

instance : Inhabited Datum := ⟨.null⟩

def get? (key : String) : Datum → Option Datum
  | .object entries => Entries.get? entries key
  | _ => none

def entries : Datum → Entries Datum
  | .object entries => entries
  | _ => []

def items : Datum → List Datum
  | .array items => items
  | _ => []

def nat (n : Nat) : Datum := .int n

def strings (ss : List String) : Datum := .array (ss.map .string)

def optionString : Option String → Datum
  | some s => .string s
  | none => .null

mutual

def levels : Datum → Nat
  | .array items => levelsOfItems items + 1
  | .object entries => levelsOfEntries entries + 1
  | _ => 1

def levelsOfItems : List Datum → Nat
  | [] => 0
  | d :: ds => max (levels d) (levelsOfItems ds)

def levelsOfEntries : List (String × Datum) → Nat
  | [] => 0
  | (_, d) :: es => max (levels d) (levelsOfEntries es)

end

def isPresent : Datum → Bool
  | .null => false
  | .bool b => b
  | .int n => n != 0
  | .float x => x != 0
  | .string s => !s.isEmpty
  | .array items => !items.isEmpty
  | .object entries => !entries.isEmpty
  | .moment _ => true

end Datum

end LineShell
