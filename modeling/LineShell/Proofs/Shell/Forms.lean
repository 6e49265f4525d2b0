import LineShell.Proofs.Observers.Outcome
import LineShell.Render

/-! The forms of executed lines. A tree of spans has a form, so an executed line has one too, except
where it is to be a document and carries data that nests too deep. -/

namespace LineShell

open LineShell.Decimal

namespace Span

def notes (annotations : Entries Datum) : String :=
  if annotations.isEmpty then ""
  else "  (" ++ ", ".intercalate (annotations.map fun (k, v) => k ++ "=" ++ v.text) ++ ")"

variable (time : Nat → Float)

def caption (indent : Nat) (s : Span) : String :=
  String.ofList (List.replicate indent ' ')
    ++ padLeft 8 (fixedText 2 (roundedFloat 2 (s.duration time))) ++ "ms  " ++ s.name
    ++ notes s.annotations

mutual

def form (indent : Nat) : Span → String
  | ⟨name, start, finish, annotations, children⟩ =>
    Render.print (caption time indent ⟨name, start, finish, annotations, []⟩)
      ++ forms (indent + 4) children

def forms (indent : Nat) : List Span → String
  | [] => ""
  | s :: rest => form indent s ++ forms indent rest

end

end Span

namespace Render

section Tree

variable (time : Nat → Float) (indent : Nat) (name : String) (start : Nat) (finish : Option Nat)
  (annotations : Entries Datum) (children : List Span)

lemma spanLine_eq (more : Entries Datum) (hmore : more.get? "annotations" = none) :
    spanLine indent ([("name", .string name), ("duration_ms",
        .float (roundedFloat 2 (Span.duration time ⟨name, start, finish, annotations, []⟩)))]
      ++ (if annotations.isEmpty then [] else [("annotations", .object annotations)]) ++ more) =
    .ok (print (Span.caption time indent ⟨name, start, finish, annotations, []⟩)) := by
  cases annotations with
  | nil =>
    have hnone : Entries.get? (("name", .string name) :: ("duration_ms", .float (roundedFloat 2
        (Span.duration time ⟨name, start, finish, [], []⟩))) :: more) "annotations" = none := hmore
    simp only [spanLine, List.isEmpty_nil, if_true, List.append_nil, List.cons_append,
      List.nil_append, hnone]
    rfl
  | cons e es => rfl

lemma childTrees_eq (duration : Datum) (more : Entries Datum) :
    childTrees indent ([("name", .string name), ("duration_ms", duration)]
      ++ (if annotations.isEmpty then [] else [("annotations", .object annotations)]) ++ more) =
    childTrees indent more := by
  cases annotations with
  | nil => rfl
  | cons e es => rfl

mutual

lemma spanTree_toDatum (indent : Nat) (s : Span) :
    spanTree indent (s.toDatum time) = .ok (s.form time indent) := by
  obtain ⟨name, start, finish, annotations, children⟩ := s
  rw [Span.toDatum, spanTree, spanLine_eq, childTrees_eq, Span.form]
  · cases children with
    | nil => rfl
    | cons s spans =>
      have hforest :
          childTrees indent [("children", .array (Span.childrenToData time (s :: spans)))] =
            spanTrees (indent + 4) (Span.childrenToData time (s :: spans)) := rfl
      rw [List.isEmpty_cons, if_neg Bool.false_ne_true, hforest,
        spanTrees_childrenToData (indent + 4) (s :: spans)]
      rfl
  · cases children <;> rfl

lemma spanTrees_childrenToData (indent : Nat) (spans : List Span) :
    spanTrees indent (Span.childrenToData time spans) = .ok (Span.forms time indent spans) := by
  cases spans with
  | nil => rfl
  | cons s spans =>
    rw [Span.childrenToData, spanTrees, spanTree_toDatum indent s,
      spanTrees_childrenToData indent spans]
    rfl

end

end Tree

end Render

structure Outcome.OfLine (o : Outcome) : Prop where
  op : o.op = "execute"
  carried : o.meta? = none ∨
    ∃ (time : Nat → Float) (root : Span), o.meta? = some [("telemetry", root.toDatum time)]

namespace Interpreter

lemma execute_carried {i : Interpreter} {line : String} {o : Outcome}
    (h : (i.execute line).1 = .ok o) : o.meta? = none ∨
      ∃ root : Span, o.meta? = some [("telemetry", root.toDatum i.session.telemetry.time)] := by
  cases htelemetry : i.session.telemetry.enabled with
  | false =>
    rw [execute_of_disabled htelemetry] at h
    exact .inl (perform_meta h)
  | true =>
    obtain ⟨root, hroot, -⟩ := exists_span_le htelemetry rfl h
    exact .inr ⟨root, hroot⟩

lemma execute_ofLine {i : Interpreter} {line : String} {o : Outcome}
    (h : (i.execute line).1 = .ok o) : o.OfLine where
  op := by
    obtain ⟨result, -, htells⟩ := exists_tells h
    exact htells.op
  carried := (execute_carried h).imp_right fun ⟨root, hroot⟩ => ⟨_, root, hroot⟩

lemma run_ofLine {i : Interpreter} {lines : List String} {o : Outcome}
    (h : .ok o ∈ (i.run (lines.map .execute)).1) : o.OfLine := by
  induction lines generalizing i with
  | nil => cases h
  | cons line lines ih =>
    rcases List.mem_cons.mp h with h | h
    · exact execute_ofLine h.symm
    · exact ih h

lemma run_escapes {i : Interpreter} {lines : List String} {f : Failure}
    (h : .error f ∈ (i.run (lines.map .execute)).1) :
    (∃ code, f = .exit code) ∨ ∃ issues, f = .exception (.invalid "ServiceError" issues) := by
  induction lines generalizing i with
  | nil => cases h
  | cons line lines ih =>
    rcases List.mem_cons.mp h with h | h
    · exact execute_escapes h.symm
    · exact ih h

end Interpreter

namespace Render

variable {o : Outcome}

lemma metaBlock_of_tree {time : Nat → Float} {root : Span}
    (h : o.meta? = some [("telemetry", root.toDatum time)]) :
    metaBlock o = .ok (print "" ++ print "  meta:" ++ root.form time 4) := by
  have hentry : metaEntry "telemetry" (root.toDatum time) = .ok (root.form time 4) :=
    spanTree_toDatum time 4 root
  rw [metaBlock, h]
  simp only [List.mapM_cons, List.mapM_nil, hentry]
  rfl

lemma exists_metaBlock (h : o.OfLine) : ∃ text, metaBlock o = .ok text := by
  rcases h.carried with hnone | ⟨time, root, hroot⟩
  · rw [metaBlock, hnone]
    exact ⟨"", rfl⟩
  · exact ⟨_, metaBlock_of_tree hroot⟩

lemma exists_full (h : o.OfLine) (verbose : Bool) : ∃ text, full o verbose = .ok text := by
  obtain ⟨block, hblock⟩ := exists_metaBlock h
  rw [full, h.op]
  cases o.ok with
  | true =>
    rw [executed, hblock]
    cases verbose <;> exact ⟨_, rfl⟩
  | false =>
    simp only [failed, hblock]
    cases verbose <;> exact ⟨_, rfl⟩

end Render

lemma Outcome.OfLine.of_format_error {o : Outcome} (h : o.OfLine) {form : OutputSettings}
    {f : Failure} (hf : o.format form = .error f) :
    form.jsonOutput = true ∧ f = .deepData ∧
      ∃ es ∈ [o.data, o.error.elim [] (·.detail), o.meta?.getD []],
        Render.documentLevels < Datum.levelsOfEntries es := by
  rw [format] at hf
  cases hjson : form.jsonOutput with
  | true =>
    rw [hjson, if_pos rfl, Render.document] at hf
    split at hf
    · rename_i hdeep
      obtain ⟨es, hes, hlevels⟩ := List.any_eq_true.mp hdeep
      exact ⟨rfl, (Except.error.inj hf).symm, es, hes, of_decide_eq_true hlevels⟩
    · cases hf
  | false =>
    obtain ⟨text, htext⟩ := Render.exists_full h form.verbose
    rw [hjson, htext] at hf
    cases hquiet : form.quiet <;> simp [hquiet] at hf

end LineShell
