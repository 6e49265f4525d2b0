import LineShell.Datum.Basic
import LineShell.Decimal.Layout

/-!
Timing spans. A span covers one activity and holds the spans of the activities inside it. The clock
is read when a span opens and when it closes; spans keep which readings those were.
-/

namespace LineShell

/-- A span with the readings of the clock at its start and, once it has ended, at its end. -/
structure Span where
  name : String
  start : Nat
  finish : Option Nat
  annotations : Entries Datum
  children : List Span

namespace Span

variable (time : Nat → Float)

def duration (s : Span) : Float :=
  match s.finish with
  | some n => (time n - time s.start) * 1000
  | none => 0

mutual

def toDatum : Span → Datum
  | ⟨name, start, finish, annotations, children⟩ =>
    let s : Span := ⟨name, start, finish, annotations, []⟩
    .object ([("name", .string name),
        ("duration_ms", .float (Decimal.roundedFloat 2 (s.duration time)))]
      ++ (if annotations.isEmpty then [] else [("annotations", .object annotations)])
      ++ (if children.isEmpty then [] else [("children", .array (childrenToData children))]))

def childrenToData : List Span → List Datum
  | [] => []
  | s :: rest => toDatum s :: childrenToData rest

end

end Span

structure Telemetry where
  enabled : Bool
  time : Nat → Float
  clock : Nat
  active : List Span

namespace Telemetry

def off : Telemetry := ⟨false, fun _ => 0, 0, []⟩

def current? (t : Telemetry) : Option Span :=
  if t.enabled then t.active.head? else none

def depth (t : Telemetry) : Nat :=
  t.active.length - 1

def enter? (t : Telemetry) (name : String) : Option Telemetry :=
  t.current?.map fun _ =>
    { t with clock := t.clock + 1, active := ⟨name, t.clock, none, [], []⟩ :: t.active }

def annotate (t : Telemetry) (key : String) (value : Datum) : Telemetry :=
  match t.enabled, t.active with
  | true, s :: rest =>
    { t with active := { s with annotations := s.annotations.set key value } :: rest }
  | _, _ => t

def leave (t : Telemetry) : Telemetry :=
  match t.active with
  | s :: parent :: rest =>
    let closed := { s with finish := some t.clock }
    { t with
      clock := t.clock + 1
      active := { parent with children := parent.children ++ [closed] } :: rest }
  | _ => t

def enterRoot (t : Telemetry) (name : String) : Telemetry :=
  { t with clock := t.clock + 1, active := [⟨name, t.clock, none, [], []⟩] }

/-- Closes the root span and makes the spans current that were open before it. -/
def leaveRoot (t : Telemetry) (before : List Span) : Option Span × Telemetry :=
  match t.active with
  | s :: _ =>
    (some { s with finish := some t.clock }, { t with clock := t.clock + 1, active := before })
  | [] => (none, { t with active := before })

end Telemetry

end LineShell
