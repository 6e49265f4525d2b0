import LineShell.Text.Quoted
import LineShell.Text.Similar

namespace LineShell.Cli

open LineShell.Text

inductive UsageFault
  | unknownOption (name : String) (similar : List String)
  | needsValue (option : String)
  | takesNoValue (option : String)
  | unknownCommand (name : String) (similar : List String)
  | missingOperand (name : String)
  | extraOperands (operands : List String)
  deriving DecidableEq, Repr

namespace UsageFault

def suggestion : List String → String
  | [] => ""
  | [word] => " Did you mean " ++ quoted word ++ "?"
  | words => " (Did you mean one of: " ++ ", ".intercalate (words.map quoted) ++ "?)"

def message : UsageFault → String
  | .unknownOption name similar => "No such option " ++ quoted name ++ "." ++ suggestion similar
  | .needsValue option => "Option " ++ quoted option ++ " requires an argument."
  | .takesNoValue option => "Option " ++ quoted option ++ " does not take a value."
  | .unknownCommand name similar => "No such command " ++ quoted name ++ "." ++ suggestion similar
  | .missingOperand name => "Missing argument '" ++ name ++ "'."
  | .extraOperands [operand] => "Got unexpected extra argument (" ++ operand ++ ")"
  | .extraOperands operands =>
    "Got unexpected extra arguments (" ++ " ".intercalate operands ++ ")"

def isAboutValue : UsageFault → Bool
  | .needsValue _ | .takesNoValue _ => true
  | _ => false

end UsageFault

inductive Meaning (α : Type)
  | flag (meaning : α)
  | withValue (metavar : String) (meaning : String → α)

structure Opt (α : Type) where
  names : List String
  meaning : Meaning α
  help : String

def isLong (name : String) : Bool :=
  name.startsWith "--"

structure Grammar (α : Type) where
  options : List (Opt α)
  interspersed : Bool
  lenient : Bool

structure Words (α : Type) where
  options : List α
  operands : List String

structure Reading (α : Type) where
  options : List α
  awaiting : Option (String × (String → α))
  operand : Option String

namespace Grammar

variable {α : Type}

def option? (g : Grammar α) (name : String) : Option (Opt α) :=
  g.options.find? fun o => o.names.contains name

def longNames (g : Grammar α) : List String :=
  (g.options.flatMap Opt.names).filter isLong

def readLong (o : Opt α) (name : String) (value : Option String) :
    Except UsageFault (Reading α) :=
  match o.meaning, value with
  | .flag a, none => .ok ⟨[a], none, none⟩
  | .flag _, some _ => .error (.takesNoValue name)
  | .withValue _ f, some v => .ok ⟨[f v], none, none⟩
  | .withValue _ f, none => .ok ⟨[], some (name, f), none⟩

def readShort (g : Grammar α) : List Char → List Char → Except UsageFault (Reading α)
  | unknown, [] =>
    .ok ⟨[], none, if unknown.isEmpty then none else some (String.ofList ('-' :: unknown.reverse))⟩
  | unknown, c :: rest =>
    let name := String.ofList ['-', c]
    match g.option? name with
    | none =>
      if g.lenient then readShort g (c :: unknown) rest else .error (.unknownOption name [])
    | some o =>
      match o.meaning with
      | .flag a => (readShort g unknown rest).map fun r => { r with options := a :: r.options }
      | .withValue _ f =>
        (readShort g unknown []).map fun r =>
          if rest.isEmpty then { r with awaiting := some (name, f) }
          else { r with options := [f (String.ofList rest)] }

def splitValue (word : String) : String × Option String :=
  let cs := word.toList
  (String.ofList (cs.takeWhile (· ≠ '=')),
    ((cs.dropWhile (· ≠ '=')).tail?).map String.ofList)

def readWord (g : Grammar α) (word : String) : Except UsageFault (Reading α) :=
  let (name, value) := splitValue word
  match if isLong name then g.option? name else none with
  | some o => readLong o name value
  | none =>
    if !isLong word then g.readShort [] (word.toList.drop 1)
    else if g.lenient then .ok ⟨[], none, some word⟩
    else .error (.unknownOption name (closeWords name g.longNames))

def looksLikeOption (word : String) : Bool :=
  word.startsWith "-" && word ≠ "-"

def read (g : Grammar α) : List String → Except UsageFault (Words α)
  | [] => .ok ⟨[], []⟩
  | word :: rest =>
    if word = "--" then .ok ⟨[], rest⟩
    else if looksLikeOption word then
      match g.readWord word with
      | .error e => .error e
      | .ok r =>
        match r.awaiting, rest with
        | none, rest => (g.read rest).map (add r.options r.operand)
        | some (_, f), value :: rest => (g.read rest).map (add (r.options ++ [f value]) r.operand)
        | some (name, _), [] => .error (.needsValue name)
    else if g.interspersed then (g.read rest).map (add [] (some word))
    else .ok ⟨[], word :: rest⟩
where
  add (options : List α) (operand : Option String) (w : Words α) : Words α :=
    ⟨options ++ w.options, operand.toList ++ w.operands⟩

end Grammar

end LineShell.Cli
