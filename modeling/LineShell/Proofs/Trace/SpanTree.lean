import LineShell.Proofs.Nesting.Spans
import LineShell.Proofs.Run.Unregistered
import LineShell.Proofs.Trace.Account

/-! The tree of spans and the tree of calls. The spans that are recorded for a line are those of the
lines whose command was found, in the order in which they began and ended, and every one of them
takes two readings of the clock. -/

namespace LineShell

open Watched LineShell.Text

/-- A line whose command was found, with those executed while it was under way. -/
inductive CallTree
  | mk (line : String) (inner : List CallTree)

inductive Visit
  | entered (line : String)
  | left

def Mark.visit? : Mark → Option Visit
  | .entered line => some (.entered line)
  | .left => some .left
  | _ => none

namespace CallTree

mutual

def visits : CallTree → List Visit
  | ⟨line, inner⟩ => .entered line :: (visitsAll inner ++ [.left])

def visitsAll : List CallTree → List Visit
  | [] => []
  | c :: rest => c.visits ++ visitsAll rest

end

mutual

def size : CallTree → Nat
  | ⟨_, inner⟩ => count inner + 1

def count : List CallTree → Nat
  | [] => 0
  | c :: rest => c.size + count rest

end

mutual

def span (start : Nat) : CallTree → Span
  | ⟨line, inner⟩ =>
    ⟨"execute:" ++ leadingWord line, start, some (start + (2 * count inner + 1)),
      [("line", .string line)], spans (start + 1) inner⟩

def spans (start : Nat) : List CallTree → List Span
  | [] => []
  | c :: rest => c.span start :: spans (start + 2 * c.size) rest

end

def node (name : String) (milliseconds : Float) (key value : String) (children : List Datum) :
    Datum :=
  .object ([("name", .string name), ("duration_ms", .float milliseconds),
      ("annotations", .object [(key, .string value)])]
    ++ if children.isEmpty then [] else [("children", .array children)])

mutual

def datum (lasts : Nat → Nat → Float) (start : Nat) : CallTree → Datum
  | ⟨line, inner⟩ =>
    node ("execute:" ++ leadingWord line) (lasts start (count inner)) "line" line
      (data lasts (start + 1) inner)

def data (lasts : Nat → Nat → Float) (start : Nat) : List CallTree → List Datum
  | [] => []
  | c :: rest => c.datum lasts start :: data lasts (start + 2 * c.size) rest

end

/-- What is told of a line with the calls that it led to. -/
def tree (lasts : Nat → Nat → Float) (start : Nat) (line : String) (calls : List CallTree) :
    Datum :=
  node "Interpreter.execute" (lasts start (count calls)) "command" (leadingWord line)
    (data lasts (start + 1) calls)

/-- The milliseconds between the reading at which a call begins and that at which it ends: two
readings for every call below, and its own end. -/
def milliseconds (time : Nat → Float) (start below : Nat) : Float :=
  Decimal.roundedFloat 2 ((time (start + (2 * below + 1)) - time start) * 1000)

@[simp] lemma visitsAll_append (a b : List CallTree) :
    visitsAll (a ++ b) = visitsAll a ++ visitsAll b := by
  induction a with
  | nil => rfl
  | cons c a ih => rw [List.cons_append, visitsAll, visitsAll, ih, List.append_assoc]

@[simp] lemma count_append (a b : List CallTree) : count (a ++ b) = count a + count b := by
  induction a with
  | nil => rw [List.nil_append, count, Nat.zero_add]
  | cons c a ih => rw [List.cons_append, count, count, ih, Nat.add_assoc]

lemma spans_append (start : Nat) (a b : List CallTree) :
    spans start (a ++ b) = spans start a ++ spans (start + 2 * count a) b := by
  induction a generalizing start with
  | nil => rfl
  | cons c a ih =>
    rw [List.cons_append, spans, spans, ih, List.cons_append, count, Nat.mul_add, Nat.add_assoc]

lemma visitsAll_cons_append (line : String) (inner rest : List CallTree) (after : List Visit) :
    visitsAll (⟨line, inner⟩ :: rest) ++ after =
      .entered line :: (visitsAll inner ++ .left :: (visitsAll rest ++ after)) := by
  rw [visitsAll, visits]
  simp only [List.cons_append, List.append_assoc, List.nil_append]

lemma eq_of_visitsAll_append :
    ∀ (a b : List CallTree) (u v : List Visit), (∀ line w, u ≠ .entered line :: w) →
      (∀ line w, v ≠ .entered line :: w) → visitsAll a ++ u = visitsAll b ++ v → a = b ∧ u = v
  | [], [], u, v, _, _, h => ⟨rfl, h⟩
  | [], ⟨line, inner⟩ :: rest, u, v, hu, _, h => by
    rw [visitsAll_cons_append] at h
    exact absurd h (hu _ _)
  | ⟨line, inner⟩ :: rest, [], u, v, _, hv, h => by
    rw [visitsAll_cons_append] at h
    exact absurd h.symm (hv _ _)
  | ⟨line, inner⟩ :: rest, ⟨line', inner'⟩ :: rest', u, v, hu, hv, h => by
    rw [visitsAll_cons_append, visitsAll_cons_append] at h
    obtain ⟨hhead, htail⟩ := List.cons.inj h
    obtain rfl := Visit.entered.inj hhead
    -- The end of the first call stops the walk through those inside it on both sides.
    obtain ⟨rfl, hafter⟩ := eq_of_visitsAll_append inner inner' _ _
      (by rintro line w ⟨⟩) (by rintro line w ⟨⟩) htail
    obtain ⟨rfl, huv⟩ := eq_of_visitsAll_append rest rest' u v hu hv (List.cons.inj hafter).2
    exact ⟨rfl, huv⟩

lemma visitsAll_injective {a b : List CallTree} (h : visitsAll a = visitsAll b) : a = b :=
  (eq_of_visitsAll_append a b [] [] (by rintro line w ⟨⟩) (by rintro line w ⟨⟩) (by rw [h])).1

lemma isEmpty_spans (start : Nat) (calls : List CallTree) : (spans start calls).isEmpty
    = calls.isEmpty := by
  cases calls <;> rfl

lemma isEmpty_data (lasts : Nat → Nat → Float) (start : Nat) (calls : List CallTree) :
    (data lasts start calls).isEmpty = calls.isEmpty := by
  cases calls <;> rfl

mutual

lemma toDatum_span (time : Nat → Float) (start : Nat) :
    ∀ c : CallTree, (c.span start).toDatum time = c.datum (milliseconds time) start
  | ⟨line, inner⟩ => by
    rw [span, Span.toDatum, datum, node, childrenToData_spans time (start + 1) inner,
      isEmpty_spans, isEmpty_data]
    rfl

lemma childrenToData_spans (time : Nat → Float) (start : Nat) :
    ∀ calls : List CallTree,
      Span.childrenToData time (spans start calls) = data (milliseconds time) start calls
  | [] => rfl
  | c :: rest => by
    rw [spans, Span.childrenToData, data, toDatum_span time start c,
      childrenToData_spans time _ rest]

end

mutual

lemma datum_congr {lasts lasts' : Nat → Nat → Float} (start : Nat) :
    ∀ c : CallTree,
      (∀ n k, start ≤ n → n + (2 * k + 1) < start + 2 * c.size → lasts n k = lasts' n k) →
      c.datum lasts start = c.datum lasts' start
  | ⟨line, inner⟩, h => by
    rw [size] at h
    rw [datum, datum, h start (count inner) (Nat.le_refl _) (by omega),
      data_congr (start + 1) inner]
    exact fun n k hn hk => h n k (by omega) (by omega)

lemma data_congr {lasts lasts' : Nat → Nat → Float} (start : Nat) :
    ∀ calls : List CallTree,
      (∀ n k, start ≤ n → n + (2 * k + 1) < start + 2 * count calls → lasts n k = lasts' n k) →
      data lasts start calls = data lasts' start calls
  | [], _ => rfl
  | c :: rest, h => by
    rw [count] at h
    rw [data, data, datum_congr start c, data_congr (start + 2 * c.size) rest]
    · exact fun n k hn hk => h n k (by omega) (by omega)
    · exact fun n k hn hk => h n k hn (by omega)

end

end CallTree

open CallTree

namespace Telemetry

def add (t : Telemetry) (calls : List CallTree) : Telemetry :=
  match t.active with
  | [] => t
  | s :: rest =>
    { t with
      clock := t.clock + 2 * count calls
      active := { s with children := s.children ++ spans t.clock calls } :: rest }

@[simp] lemma add_nil (t : Telemetry) : t.add [] = t := by
  obtain ⟨enabled, time, clock, _ | ⟨⟨name, start, finish, annotations, children⟩, rest⟩⟩ := t
  · rfl
  · simp only [add, count, spans, Nat.mul_zero, Nat.add_zero, List.append_nil]

lemma add_add (t : Telemetry) (a b : List CallTree) : (t.add a).add b = t.add (a ++ b) := by
  obtain ⟨enabled, time, clock, _ | ⟨s, rest⟩⟩ := t
  · rfl
  · simp only [add, count_append, spans_append, List.append_assoc, Nat.mul_add, Nat.add_assoc]

lemma isSome_current?_add (t : Telemetry) (calls : List CallTree) :
    (t.add calls).current?.isSome = t.current?.isSome := by
  obtain ⟨enabled | enabled, time, clock, _ | ⟨s, rest⟩⟩ := t <;> rfl

end Telemetry

def Recorded : Account := fun s marks _ t =>
  ∃ calls, t.telemetry = s.telemetry.add calls ∧
    visitsAll calls = if s.telemetry.current?.isSome then marks.filterMap Mark.visit? else []

lemma recorded_of_silent {s t : Session} {marks : List Mark} {r : Option Failure}
    (ht : t.telemetry = s.telemetry) (h : marks.filterMap Mark.visit? = []) :
    Recorded s marks r t := by
  refine ⟨[], by rw [ht, Telemetry.add_nil], ?_⟩
  rw [h, ite_self]
  rfl

lemma recorded_andThen {s t u : Session} {a b : List Mark} {r r' : Option Failure}
    (ha : Recorded s a r t) (hb : Recorded t b r' u) : Recorded s (a ++ b) r' u := by
  obtain ⟨calls, ht, hvisits⟩ := ha
  obtain ⟨calls', hu, hvisits'⟩ := hb
  refine ⟨calls ++ calls', by rw [hu, ht, Telemetry.add_add], ?_⟩
  rw [ht, Telemetry.isSome_current?_add] at hvisits'
  rw [visitsAll_append, hvisits, hvisits']
  cases s.telemetry.current?.isSome with
  | true => exact (List.filterMap_append ..).symm
  | false => rfl

lemma Recorded.telemetry_eq {s t : Session} {marks : List Mark} {r : Option Failure}
    (h : Recorded s marks r t) (hs : s.telemetry.current? = none) : t.telemetry = s.telemetry := by
  obtain ⟨calls, ht, hvisits⟩ := h
  rw [hs] at hvisits
  obtain rfl : calls = [] := visitsAll_injective hvisits
  rw [ht, Telemetry.add_nil]

lemma recorded_of_outside {s t : Session} (hs : s.telemetry.current? = none)
    (ht : t.telemetry = s.telemetry) (marks : List Mark) (r : Option Failure) :
    Recorded s marks r t := by
  refine ⟨[], by rw [ht, Telemetry.add_nil], ?_⟩
  rw [hs]
  rfl

lemma recorded_inLine {s t : Session} {marks : List Mark} {r : Option Failure} (line : String)
    (h : Recorded (opened ("execute:" ++ leadingWord line) [("line", .string line)] s) marks r t) :
    Recorded s (.entered line :: (marks ++ [.left])) r
      (closed ("execute:" ++ leadingWord line) s t) := by
  obtain ⟨registry, defaults, ⟨_ | _, time, clock, _ | ⟨parent, rest⟩⟩, journal⟩ := s
  -- With telemetry off or no span open the line gets no span.
  · exact recorded_of_outside rfl (h.telemetry_eq rfl) _ _
  · exact recorded_of_outside rfl (h.telemetry_eq rfl) _ _
  · exact recorded_of_outside rfl (h.telemetry_eq rfl) _ _
  · obtain ⟨inner, ht, hvisits⟩ := h
    refine ⟨[⟨line, inner⟩], ?_, ?_⟩
    · change t.telemetry.leave = _
      have hfinish : clock + 1 + 2 * count inner = clock + (2 * count inner + 1) := by omega
      have hclock : clock + 2 * (count inner + 1 + 0) = clock + (2 * count inner + 1) + 1 := by
        omega
      rw [ht]
      simp only [Telemetry.add, spans, span, count, size, hclock, ← hfinish]
      rfl
    · have hinside : visitsAll inner = marks.filterMap Mark.visit? := hvisits
      rw [visitsAll, visits, hinside]
      simp [Mark.visit?, Telemetry.current?, visitsAll]

lemma recorded_law : Recorded.Law Recorded where
  quiet r h := recorded_of_silent h rfl
  andThen := recorded_andThen
  threads := ⟨⟨fun r h => recorded_of_silent h rfl, recorded_andThen⟩, fun h => h⟩
  script h := h
  bound s name found := recorded_of_silent rfl rfl
  group := by
    rintro s a t text answer ⟨calls, ht, hvisits⟩
    refine ⟨calls, ht, ?_⟩
    rw [hvisits, List.filterMap_cons, List.filterMap_append]
    simp only [Mark.visit?, List.filterMap_cons, List.filterMap_nil, List.append_nil]
  refused s line f := recorded_of_silent rfl rfl
  inLine line h := recorded_inLine line h

lemma watch_recorded (budget : Nat) (line : String) : Obeys Recorded (watch true budget line) := by
  have hscripts : ∀ n, (∀ line, Obeys Recorded (watch true n line)) →
      ∀ line, Obeys Recorded ((if true then watch true n else unwatched n) line) :=
    fun _ h => h
  exact watch_obeys recorded_law hscripts budget line

lemma execute_recorded (budget : Nat) (line : String) (s : Session) :
    Recorded s (watch true budget line s).2 (failure? (execute budget line s).1)
      (execute budget line s).2 := by
  have h := watch_recorded budget line s
  rw [← run_watch true budget line]
  exact h

namespace Interpreter

def Calls (i : Interpreter) (line : String) (calls : List CallTree) : Prop :=
  visitsAll calls = (watch true i.budget line (i.opened line)).2.filterMap Mark.visit?

lemma exists_calls {i : Interpreter} (h : i.session.telemetry.enabled = true) (line : String) :
    ∃ calls, i.Calls line calls ∧ (LineShell.execute i.budget line (i.opened line)).2.telemetry =
      ⟨true, i.session.telemetry.time, i.session.telemetry.clock + 1 + 2 * count calls,
        [⟨"Interpreter.execute", i.session.telemetry.clock, none,
          [("command", .string (leadingWord line))],
          spans (i.session.telemetry.clock + 1) calls⟩]⟩ := by
  obtain ⟨⟨registry, defaults, ⟨enabled, time, clock, active⟩, journal⟩, plugins, budget⟩ := i
  obtain rfl : enabled = true := h
  obtain ⟨calls, htelemetry, hvisits⟩ := execute_recorded budget line
    (opened ⟨⟨registry, defaults, ⟨true, time, clock, active⟩, journal⟩, plugins, budget⟩ line)
  exact ⟨calls, hvisits, htelemetry⟩

end Interpreter

end LineShell
