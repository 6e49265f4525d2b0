import LineShell.Datum.Printer
import LineShell.Decimal.Layout
import LineShell.Outcome
import LineShell.Text.Grid

/-!
Outcomes as texts: JSON, a minimal form, or a form for people. The output of an executed line is
given as it is; all else is wrapped to the width of the terminal.
-/

namespace LineShell

open LineShell.Text LineShell.Decimal

/-- Which form outcomes take. JSON goes before the minimal form. -/
structure OutputSettings where
  jsonOutput : Bool
  quiet : Bool
  verbose : Bool
  deriving DecidableEq, Repr

def OutputSettings.plain : OutputSettings := ⟨false, false, false⟩

def OutputSettings.check : Datum → Checked OutputSettings :=
  Check.record "OutputSettings" fun es =>
    OutputSettings.mk <$> Check.optional es "json_output" false Check.bool
      <*> Check.optional es "quiet" false Check.bool
      <*> Check.optional es "verbose" false Check.bool

def Datum.kindName : Datum → String
  | .null => "NoneType"
  | .bool _ => "bool"
  | .int _ => "int"
  | .float _ => "float"
  | .string _ => "str"
  | .array _ => "list"
  | .object _ => "dict"
  | .moment _ => "datetime"

namespace Render

def terminalWidth : Nat := 120

abbrev Rendering (α : Type) := Except Failure α

def lacks {α : Type} (d : Datum) (operation : String) : Rendering α :=
  .error (.raised "AttributeError"
    ("'" ++ d.kindName ++ "' object has no attribute '" ++ operation ++ "'"))

def entriesOf (d : Datum) (operation : String) : Rendering (Entries Datum) :=
  match d with
  | .object es => .ok es
  | d => lacks d operation

def itemsOf : Datum → Rendering (List Datum)
  | .array ds => .ok ds
  | .object es => .ok (es.map fun (k, _) => .string k)
  | .string s => .ok (s.toList.map fun c => .string (String.singleton c))
  | d => .error (.raised "TypeError" ("'" ++ d.kindName ++ "' object is not iterable"))

def fieldOf (es : Entries Datum) (key : String) : Rendering Datum :=
  match es.get? key with
  | some d => .ok d
  | none => .error (.raised "KeyError" (quoted key))

def textOf (es : Entries Datum) (key : String) : String :=
  (es.get? key).elim "" Datum.text

def print (s : String) : String :=
  String.ofList ((wrap terminalWidth .fold (printable s)).flatMap fun line => line ++ ['\n'])

def field (key : String) (value : String) : String :=
  print ("  " ++ key ++ ": " ++ value)

def statusLine (o : Outcome) : String :=
  print ("OK  " ++ o.op)

def durationText (d : Datum) : Rendering String :=
  match d with
  | .bool b => .ok (padLeft 8 (fixedText 2 (if b then 1 else 0)))
  | .int n =>
    let x := floatOfInt n
    if x.isFinite then .ok (padLeft 8 (fixedText 2 x))
    else .error (.raised "OverflowError" "int too large to convert to float")
  | .float x => .ok (padLeft 8 (fixedText 2 x))
  | d => .error (.raised "TypeError"
    ("'>' not supported between instances of '" ++ d.kindName ++ "' and 'int'"))

def annotationText (d : Datum) : Rendering String :=
  if d.isPresent then do
    let es ← entriesOf d "items"
    pure ("  (" ++ ", ".intercalate (es.map fun (k, v) => k ++ "=" ++ v.text) ++ ")")
  else pure ""

def spanLine (indent : Nat) (es : Entries Datum) : Rendering String := do
  let duration ← durationText ((es.get? "duration_ms").getD (.float 0))
  let name := (es.get? "name").elim "?" Datum.text
  let annotations ← annotationText ((es.get? "annotations").getD .null)
  let margin := String.ofList (List.replicate indent ' ')
  pure (print (margin ++ duration ++ "ms  " ++ name ++ annotations))

mutual

def spanTree (indent : Nat) : Datum → Rendering String
  | .object es => do
    let line ← spanLine indent es
    let below ← childTrees indent es
    pure (line ++ below)
  | d => lacks d "get"

def childTrees (indent : Nat) : List (String × Datum) → Rendering String
  | [] => pure ""
  | (k, d) :: rest => if k = "children" then spanForest (indent + 4) d else childTrees indent rest

def spanForest (indent : Nat) : Datum → Rendering String
  | .array ds => spanTrees indent ds
  | d => do
    match ← itemsOf d with
    | [] => pure ""
    | item :: _ => lacks item "get"

def spanTrees (indent : Nat) : List Datum → Rendering String
  | [] => pure ""
  | d :: ds => do
    let first ← spanTree indent d
    let rest ← spanTrees indent ds
    pure (first ++ rest)

end

def metaEntry (key : String) (value : Datum) : Rendering String :=
  if key = "telemetry" then spanTree 4 value
  else pure (print ("    " ++ key ++ ": " ++ value.text))

def metaBlock (o : Outcome) : Rendering String :=
  match o.meta? with
  | none | some [] => pure ""
  | some es => do
    let blocks ← es.mapM fun (k, d) => metaEntry k d
    pure (print "" ++ print "  meta:" ++ String.join blocks)

def executed (o : Outcome) (verbose : Bool) : Rendering String :=
  let output := textOf o.data "output"
  if verbose then do
    let block ← metaBlock o
    pure (output ++ dropTrailingOf (· = '\n') block)
  else pure output

def failed (o : Outcome) (verbose : Bool) : Rendering String := do
  let message := o.error.elim "Unknown error" (·.message)
  let head := print ("ERROR  " ++ o.op ++ " — " ++ message)
  let error :=
    match o.error with
    | none => ""
    | some e =>
      print ("  code: " ++ e.code)
        ++ if verbose then String.join (e.detail.map fun (k, d) => field k d.text) else ""
  let further ← if verbose then metaBlock o else pure ""
  pure (head ++ error ++ further)

def commandColumns : List Column :=
  [⟨"Name", 0, 1, true⟩, ⟨"Usage", 1, 1, false⟩, ⟨"Description", 1, 0, false⟩]

def parameterBlock (item : Entries Datum) : Rendering String := do
  let parameters ← itemsOf ((item.get? "parameters").getD (.array []))
  let entries ← parameters.mapM fun p => entriesOf p "get"
  let described := entries.filter fun p => ((p.get? "description").getD .null).isPresent
  if described.isEmpty then pure ""
  else
    let name ←
      match ← fieldOf item "name" with
      | .string s => pure s
      | d => lacks d "translate"
    let fields ← described.mapM fun p => do
      let key ← fieldOf p "name"
      let value ← fieldOf p "description"
      pure (field key.text value.text)
    pure (print name ++ String.join fields)

def commands (o : Outcome) (verbose : Bool) : Rendering String := do
  let items ← itemsOf ((o.data.get? "items").getD (.array []))
  let entries ← items.mapM fun d => entriesOf d "get"
  let rows := entries.map fun es =>
    ["name", "usage", "description"].map fun key => printable (textOf es key)
  let table := String.ofList
    ((Grid.lines terminalWidth commandColumns rows).flatMap fun line => line ++ ['\n'])
  let blocks ← if verbose then entries.mapM parameterBlock else pure []
  pure (table ++ String.join blocks)

def types (o : Outcome) : Rendering String := do
  let items ← itemsOf ((o.data.get? "items").getD (.array []))
  let entries ← items.mapM fun d => entriesOf d "get"
  pure (statusLine o ++ String.join (entries.map fun es => print ("  " ++ textOf es "name")))

def valueText : Datum → String
  | .array ds => (Datum.array ds).compact
  | .object es => (Datum.object es).compact
  | d => d.text

def generic (o : Outcome) (verbose : Bool) : Rendering String := do
  let fields := String.join (o.data.map fun (k, d) => field k (valueText d))
  let further ← if verbose then metaBlock o else pure ""
  pure (statusLine o ++ fields ++ further)

def full (o : Outcome) (verbose : Bool) : Rendering String :=
  if o.ok && o.op = "execute" then executed o verbose
  else do
    let text ←
      if !o.ok then failed o verbose
      else if o.op = "list_commands" then commands o verbose
      else if o.op = "list_types" then types o
      else generic o verbose
    pure (dropTrailingOf (· = '\n') text)

def quiet (o : Outcome) : String :=
  if !o.ok then
    "ERROR: " ++ o.op ++ " — " ++ o.error.elim "Unknown error" (·.message)
  else if o.op = "execute" then textOf o.data "output"
  else
    match o.data.get? "items" with
    | some (.array ds) =>
      "\n".intercalate (ds.filterMap fun d =>
        match d with
        | .object es => some (textOf es "name")
        | _ => none)
    | _ => "OK: " ++ o.op

def documentLevels : Nat := 255

def document (o : Outcome) : Rendering String :=
  let carried := [o.data, o.error.elim [] (·.detail), o.meta?.getD []]
  if carried.any fun es => documentLevels < Datum.levelsOfEntries es then .error .deepData
  else .ok o.toDatum.document

end Render

def Outcome.format (o : Outcome) (settings : OutputSettings) : Except Failure String :=
  if settings.jsonOutput then Render.document o
  else if settings.quiet then .ok (Render.quiet o)
  else Render.full o settings.verbose

end LineShell
