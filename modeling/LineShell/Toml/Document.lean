import LineShell.Toml.Number
import LineShell.Toml.Text

/-!
TOML documents. Every statement is a table header or a key with a value; tables may be opened once,
and inline tables and arrays are closed for good. Values take up room by how deep they nest: an
inline table takes more of it than an array.
-/

namespace LineShell.Toml

inductive Flag
  | opened
  | frozen
  deriving DecidableEq, Repr

structure Mark where
  key : List String
  flag : Flag
  deriving DecidableEq, Repr

/-- The tables so far, their protections, and those that the next header brings into force. -/
structure State where
  tables : Entries Datum
  marks : List Mark
  pending : List Mark
  header : List String

def isMarked (marks : List Mark) (key : List String) (flag : Flag) : Bool :=
  marks.any fun m =>
    m.flag = flag
      && (m.key == key || (flag = .frozen && m.key.isPrefixOf key))

def changeTable (enterLists : Bool) (change : Entries Datum → Option (Entries Datum)) :
    List String → Entries Datum → Option (Entries Datum)
  | [], es => change es
  | k :: ks, es =>
    match es.get? k with
    | none => (changeTable enterLists change ks []).map fun t => es.set k (.object t)
    | some (.object t) => (changeTable enterLists change ks t).map fun t => es.set k (.object t)
    | some (.array ds) =>
      match enterLists, ds.getLast? with
      | true, some (.object t) =>
        (changeTable enterLists change ks t).map fun t =>
          es.set k (.array (ds.dropLast ++ [.object t]))
      | _, _ => none
    | some _ => none

def appendTable (name : String) (es : Entries Datum) : Option (Entries Datum) :=
  match es.get? name with
  | none => some (es.set name (.array [.object []]))
  | some (.array ds) => some (es.set name (.array (ds ++ [.object []])))
  | some _ => none

def addValue (name : String) (value : Datum) (es : Entries Datum) : Option (Entries Datum) :=
  if es.has name then none else some (es.set name value)

def isContainer : Datum → Bool
  | .object _ | .array _ => true
  | _ => false

def splitKey (key : List String) : List String × String :=
  (key.dropLast, key.getLast?.getD "")

def addInline (key : List String) (value : Datum) (rest : List Char) (marks : List Mark)
    (es : Entries Datum) : Except Fault (Entries Datum) :=
  let (parent, name) := splitKey key
  if isMarked marks key .frozen then faultAt rest (.immutable key)
  else
    match changeTable false some parent es with
    | none => faultAt rest .overwrite
    | some es =>
      match changeTable false (addValue name value) parent es with
      | none => faultAt rest (.repeatedInlineKey name)
      | some es => .ok es

def readScalar : Reader Datum := fun s =>
  if "true".toList.isPrefixOf s then .ok (.bool true, s.drop 4)
  else if "false".toList.isPrefixOf s then .ok (.bool false, s.drop 5)
  else do
    match ← readMoment? s with
    | some found => .ok found
    | none =>
      match ← readNumber? s with
      | some found => .ok found
      | none =>
        match readWord? s with
        | some found => .ok found
        | none => faultAt s .value

def valueRoom : Nat := 984

def arrayRoom : Nat := 2

def tableRoom : Nat := 3

def leastRoom : Nat := 4

mutual

def readValue (room : Nat) : Nat → Reader Datum
  | 0, s => faultAt s .value
  | fuel + 1, s =>
    match s with
    | '"' :: _ | '\'' :: _ => (readString s).map fun (t, r) => (.string t, r)
    | '[' :: r =>
      if room < leastRoom then faultAt s .tooDeep
      else do
        match ← skipGaps (r.length + 1) r with
        | ']' :: r => .ok (.array [], r)
        | r => (readItems (room - arrayRoom) fuel r).map fun (ds, r) => (.array ds, r)
    | '\x7b' :: r =>
      if room < leastRoom then faultAt s .tooDeep
      else
        match skipSpace r with
        | '\x7d' :: r => .ok (.object [], r)
        | r => (readInline (room - tableRoom) fuel [] [] r).map fun (es, r) => (.object es, r)
    | s => readScalar s

def readItems (room : Nat) : Nat → Reader (List Datum)
  | 0, s => faultAt s .openArray
  | fuel + 1, s => do
    let (d, r) ← readValue room fuel s
    match ← skipGaps (r.length + 1) r with
    | ']' :: r => .ok ([d], r)
    | ',' :: r =>
      match ← skipGaps (r.length + 1) r with
      | ']' :: r => .ok ([d], r)
      | r => (readItems room fuel r).map fun (ds, r) => (d :: ds, r)
    | r => faultAt r .openArray

def readInline (room : Nat) : Nat → List Mark → Entries Datum → Reader (Entries Datum)
  | 0, _, _, s => faultAt s .openInlineTable
  | fuel + 1, marks, es, s => do
    let (key, r) ← readKey s
    let '=' :: r := r | faultAt r .equalsSign
    let (value, r) ← readValue room fuel (skipSpace r)
    let es ← addInline key value r marks es
    match skipSpace r with
    | '\x7d' :: r => .ok (es, r)
    | ',' :: r =>
      let marks := if isContainer value then ⟨key, .frozen⟩ :: marks else marks
      readInline room fuel marks es (skipSpace r)
    | r => faultAt r .openInlineTable

end

def addStatement (s : List Char) (st : State) : Except Fault (State × List Char) := do
  let (key, r) ← readKey s
  let '=' :: r := r | faultAt r .equalsSign
  let r := skipSpace r
  let (value, r) ← readValue valueRoom (2 * r.length + 2) r
  let (parent, name) := splitKey key
  let between := (List.range (key.length - 1)).map fun n => st.header ++ key.take (n + 1)
  match between.find? fun k => isMarked st.marks k .opened with
  | some k => faultAt r (.redefined k)
  | none =>
    let st := { st with pending := st.pending ++ between.map fun k => (⟨k, .opened⟩ : Mark) }
    let table := st.header ++ parent
    if isMarked st.marks table .frozen then faultAt r (.immutable table)
    else
      match changeTable true (addValue name value) table st.tables with
      | none => faultAt r .overwrite
      | some tables =>
        let marks : List Mark :=
          if isContainer value then ⟨st.header ++ key, .frozen⟩ :: st.marks else st.marks
        .ok ({ st with tables, marks }, r)

def openTable (s : List Char) (st : State) : Except Fault (State × List Char) := do
  let (key, r) ← readKey (skipSpace s)
  if isMarked st.marks key .opened || isMarked st.marks key .frozen then
    faultAt r (.declaredTwice key)
  else
    match changeTable true some key st.tables with
    | none => faultAt r .overwrite
    | some tables =>
      let ']' :: r := r | faultAt r .tableEnd
      .ok ({ st with tables, marks := ⟨key, .opened⟩ :: st.marks, header := key }, r)

def openListedTable (s : List Char) (st : State) : Except Fault (State × List Char) := do
  let (key, r) ← readKey (skipSpace s)
  if isMarked st.marks key .frozen then faultAt r (.immutable key)
  else
    let (parent, name) := splitKey key
    match changeTable true (appendTable name) parent st.tables with
    | none => faultAt r .overwrite
    | some tables =>
      let ']' :: ']' :: r := r | faultAt r .tableListEnd
      let marks := st.marks.filter fun m => !key.isPrefixOf m.key
      .ok ({ st with tables, marks := ⟨key, .opened⟩ :: marks, header := key }, r)

def State.settle (st : State) : State :=
  { st with marks := st.pending ++ st.marks, pending := [] }

def readStatement (s : List Char) (st : State) : Except Fault (State × List Char) :=
  match s with
  | '[' :: '[' :: r => openListedTable r st.settle
  | '[' :: r => openTable r st.settle
  | '#' :: r => .ok (st, '#' :: r)
  | c :: r =>
    if isBareKeyChar c || c = '"' || c = '\'' then addStatement (c :: r) st
    else faultAt (c :: r) .statement
  | [] => .ok (st, [])

def readLines : Nat → List Char → State → Except Fault State
  | 0, _, st => .ok st
  | fuel + 1, s, st =>
    match skipSpace s with
    | [] => .ok st
    | '\n' :: r => readLines fuel r st
    | s => do
      let (st, r) ← readStatement s st
      match ← skipComment (skipSpace r) with
      | [] => .ok st
      | '\n' :: r => readLines fuel r st
      | r => faultAt r .lineEnd

def parse (document : String) : Except Refusal (Entries Datum) :=
  let cs := Text.unifyLineEnds document.toList
  match readLines (cs.length + 1) cs ⟨[], [], [], []⟩ with
  | .ok st => .ok st.tables
  | .error f => .error (f.refusal cs)

end LineShell.Toml
