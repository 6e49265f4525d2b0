import LineShell.Execution

namespace LineShell

inductive TypeOffers
  | raises (e : Exception)
  | nothing
  | malformed
  | offers (types : List (String × Option Parser))

structure Observation where
  notes : List Datum
  failure : Option Failure

abbrev Observer := String → Bool → Option String → Observation

structure Plugin where
  serial : Nat
  className : String
  isClass : Bool
  startup : Option Exception
  typesHook : Option TypeOffers
  commandsHook : Option (List (Except Exception (Definition Script)))
  observer : Option Observer

namespace Plugin

def hasHooks (p : Plugin) : Bool :=
  p.typesHook.isSome || p.commandsHook.isSome || p.observer.isSome

def same (p q : Plugin) : Bool :=
  p.serial == q.serial && p.isClass == q.isClass

def instantiate (p : Plugin) : Except Exception Plugin :=
  match p.startup with
  | some e => .error e
  | none => .ok { p with isClass := false }

/-- A class lacks the object that a call needs: each argument stands for the one before it, so
that the last one is missing. -/
def unbound (p : Plugin) (hook last : String) : Exception :=
  .raised "TypeError" (p.className ++ "." ++ hook
    ++ "() missing 1 required positional argument: '" ++ last ++ "'")

end Plugin

abbrev Logged := StateM (List String)

def Logged.warn (message : String) : Logged Unit :=
  modify (· ++ [message])

end LineShell
