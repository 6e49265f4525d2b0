import LineShell.Proofs.Shell.Forms
import LineShell.Proofs.Text.Fitting

namespace LineShell

open Text Decimal LineShell.Span

namespace Decimal

lemma plain_natText (n : Nat) : Plain (natText n).toList := by
  intro c hc
  have hdigit := isDigit_of_mem_natText hc
  simp only [Char.isDigit, Bool.and_eq_true, decide_eq_true_eq] at hdigit
  have hfirst : 48 ≤ c.toNat := hdigit.1
  have hlast : c.toNat ≤ 57 := hdigit.2
  omega

lemma plain_fixedText (places : Nat) (x : Float) : Plain (fixedText places x).toList := by
  rw [fixedText]
  split
  · decide
  · split <;> decide
  · rename_i negative m e _
    have hsign : Plain (if negative then "-" else "").toList := by
      split <;> decide
    have hpoint : Plain ".".toList := by decide
    have hzeros := plain_replicate (c := '0') (by decide)
    simp only [padZeros, String.toList_append, String.toList_ofList, plain_append]
    exact ⟨⟨⟨hsign, plain_natText _⟩, hpoint⟩, hzeros _, plain_natText _⟩

end Decimal

namespace Span

/-- Whether the name and the annotations of a span are printable ASCII. -/
structure Legible (s : Span) : Prop where
  name : Plain s.name.toList
  annotations : ∀ e ∈ s.annotations, Plain e.1.toList ∧ Plain e.2.text.toList

instance (s : Span) : Decidable s.Legible :=
  decidable_of_iff
    (Plain s.name.toList ∧ ∀ e ∈ s.annotations, Plain e.1.toList ∧ Plain e.2.text.toList)
    ⟨fun h => ⟨h.1, h.2⟩, fun h => ⟨h.name, h.annotations⟩⟩

mutual

/-- The spans of a tree, each in front of those below it, with their depths. -/
def placed (depth : Nat) : Span → List (Nat × Span)
  | ⟨name, start, finish, annotations, children⟩ =>
    (depth, ⟨name, start, finish, annotations, children⟩) :: placedAll (depth + 1) children

def placedAll (depth : Nat) : List Span → List (Nat × Span)
  | [] => []
  | s :: rest => s.placed depth ++ placedAll depth rest

end

lemma placed_eq (depth : Nat) (s : Span) :
    s.placed depth = (depth, s) :: placedAll (depth + 1) s.children := by
  obtain ⟨name, start, finish, annotations, children⟩ := s
  rw [placed]

variable (time : Nat → Float)

mutual

lemma form_toList (depth : Nat) : ∀ s : Span,
    (s.form time (4 + 4 * depth)).toList =
      (s.placed depth).flatMap fun p => (Render.print (p.2.caption time (4 + 4 * p.1))).toList
  | ⟨name, start, finish, annotations, children⟩ => by
    have hmargin : 4 + 4 * depth + 4 = 4 + 4 * (depth + 1) := by omega
    rw [form, String.toList_append, hmargin, forms_toList (depth + 1) children, placed,
      List.flatMap_cons]
    rfl

lemma forms_toList (depth : Nat) : ∀ trees : List Span,
    (forms time (4 + 4 * depth) trees).toList =
      (placedAll depth trees).flatMap fun p =>
        (Render.print (p.2.caption time (4 + 4 * p.1))).toList
  | [] => rfl
  | s :: rest => by
    rw [forms, String.toList_append, form_toList depth s, forms_toList depth rest, placedAll,
      List.flatMap_append]

end

variable {s : Span}

lemma Legible.plain_caption (h : s.Legible) (indent : Nat) :
    Plain (s.caption time indent).toList := by
  have hspaces := plain_replicate (c := ' ') (by decide)
  have hunit : Plain "ms  ".toList := by decide
  have hnotes : Plain (notes s.annotations).toList := by
    rw [notes]
    split
    · decide
    · have hopen : Plain "  (".toList := by decide
      have hclose : Plain ")".toList := by decide
      have hequals : Plain "=".toList := by decide
      rw [String.toList_append, String.toList_append, plain_append, plain_append]
      refine ⟨⟨hopen, plain_intercalate (by decide) ?_⟩, hclose⟩
      intro t ht
      obtain ⟨⟨key, value⟩, he, rfl⟩ := List.mem_map.mp ht
      obtain ⟨hkey, hvalue⟩ := h.annotations _ he
      simp only [String.toList_append, plain_append]
      exact ⟨⟨hkey, hequals⟩, hvalue⟩
  simp only [caption, padLeft, String.toList_append, String.toList_ofList, plain_append]
  exact ⟨⟨⟨⟨hspaces _, hspaces _, plain_fixedText 2 _⟩, hunit⟩, h.name⟩, hnotes⟩

lemma caption_ne_nil (indent : Nat) (s : Span) : (s.caption time indent).toList ≠ [] := by
  intro h
  have hlength := congrArg List.length h
  simp [caption] at hlength

def captions (root : Span) : List String :=
  (root.placed 0).map fun p => p.2.caption time (4 + 4 * p.1)

lemma captions_ne_nil (root : Span) : root.captions time ≠ [] := by
  rw [captions, placed_eq]
  exact List.cons_ne_nil _ _

variable {time} {root : Span}

lemma plain_of_mem_captions (h : ∀ p ∈ root.placed 0, p.2.Legible) {c : String}
    (hc : c ∈ root.captions time) : Plain c.toList ∧ c.toList ≠ [] := by
  obtain ⟨p, hp, rfl⟩ := List.mem_map.mp hc
  exact ⟨(h p hp).plain_caption time _, caption_ne_nil time _ _⟩

lemma form_eq_captions (h : ∀ p ∈ root.placed 0, p.2.Legible)
    (hfits : ∀ c ∈ root.captions time, c.length ≤ 120) :
    (root.form time 4).toList = (root.captions time).flatMap fun c => c.toList ++ ['\n'] := by
  rw [form_toList time 0 root, captions, List.flatMap_map]
  refine List.flatMap_congr fun p hp => ?_
  have hmem : p.2.caption time (4 + 4 * p.1) ∈ root.captions time := List.mem_map_of_mem hp
  rw [Render.print_of_plain (plain_of_mem_captions h hmem).1 (hfits _ hmem), String.toList_append]
  rfl

end Span

namespace Render

lemma exists_lines_below (block : String) :
    ∃ below, (linesOf (dropTrailingOf (· = '\n') ("\n  meta:\n" ++ block)).toList).map String.ofList
        = "" :: "  meta:" :: below ∧
      ∀ lines : List String, lines ≠ [] → (∀ l ∈ lines, l.toList ≠ [] ∧ '\n' ∉ l.toList) →
        block.toList = lines.flatMap (fun l => l.toList ++ ['\n']) → below = lines := by
  let kept := dropTrailing (· = '\n') block.toList
  rw [dropTrailingOf, String.toList_ofList, String.toList_append, dropTrailing_append]
  -- With nothing to keep of the block, the end of the head's own line is dropped as well.
  by_cases hkept : kept = []
  · refine ⟨[], ?_, fun lines hne hlines hblock => ?_⟩
    · rw [if_pos hkept]
      rfl
    · have hprinted : linesOf kept = lines.map String.toList := by
        simp only [kept, hblock]
        exact linesOf_printed hne hlines
      rw [hkept] at hprinted
      obtain ⟨l, rest, rfl⟩ := List.exists_cons_of_ne_nil hne
      exact absurd (List.cons.inj hprinted).1.symm (hlines l List.mem_cons_self).1
  · refine ⟨(linesOf kept).map String.ofList, ?_, fun lines hne hlines hblock => ?_⟩
    · rw [if_neg hkept]
      rfl
    · simp only [kept, hblock]
      rw [linesOf_printed hne hlines, List.map_map]
      simp [Function.comp_def]

variable {o : Outcome}

lemma full_of_ok (h : o.OfLine) (hok : o.ok = true) (verbose : Bool) :
    full o verbose = executed o verbose := by
  rw [full, h.op, hok]
  rfl

lemma exists_full_of_tree (h : o.OfLine) (hok : o.ok = true) {time : Nat → Float} {root : Span}
    (hroot : o.meta? = some [("telemetry", root.toDatum time)]) :
    ∃ text below, full o true = .ok (textOf o.data "output" ++ text) ∧
      (linesOf text.toList).map String.ofList = "" :: "  meta:" :: below ∧
      ((∀ p ∈ root.placed 0, p.2.Legible) → (∀ c ∈ root.captions time, c.length ≤ 120) →
        below = root.captions time) := by
  have hempty : print "" = "\n" := print_of_plain (by decide) (by decide)
  have hhead : print "  meta:" = "  meta:\n" := print_of_plain (by decide) (by decide)
  have hblock : metaBlock o = .ok ("\n  meta:\n" ++ root.form time 4) := by
    rw [metaBlock_of_tree hroot, hempty, hhead]
    rfl
  obtain ⟨below, hbelow, hprinted⟩ := exists_lines_below (root.form time 4)
  refine ⟨_, below, ?_, hbelow, fun hlegible hfits => ?_⟩
  · rw [full_of_ok h hok, executed, hblock]
    rfl
  · apply hprinted (root.captions time) (root.captions_ne_nil time)
    · intro c hc
      obtain ⟨hplain, hne⟩ := plain_of_mem_captions hlegible hc
      exact ⟨hne, hplain.not_mem (by decide)⟩
    · exact form_eq_captions hlegible hfits

end Render

/-- The output of a line that succeeded is shown as it is, whatever its characters. Where more is
asked for, the tree of spans stands below it: if all of that is printable ASCII and fits the
terminal, one line for each span, and its children after it, four columns further in. -/
theorem execute_shown_verbatim (i : Interpreter) (line : String) (o : Outcome)
    (ho : (i.execute line).1 = .ok o) (hok : o.ok = true) :
    ∃ output, (execute i.budget line i.session).1 = .ok output ∧
      o.data.get? "output" = some (.string output) ∧
      o.format ⟨false, false, false⟩ = .ok output ∧
      (∀ verbose, o.format ⟨false, true, verbose⟩ = .ok output) ∧
      (o.meta? = none → o.format ⟨false, false, true⟩ = .ok output) ∧
      (o.meta? ≠ none →
        ∃ root : Span, o.meta? = some [("telemetry", root.toDatum i.session.telemetry.time)]) ∧
      ∀ (time : Nat → Float) (root : Span), o.meta? = some [("telemetry", root.toDatum time)] →
        ∃ text below, o.format ⟨false, false, true⟩ = .ok (output ++ text) ∧
          (linesOf text.toList).map String.ofList = "" :: "  meta:" :: below ∧
          ((∀ p ∈ root.placed 0, p.2.Legible) → (∀ c ∈ root.captions time, c.length ≤ 120) →
            below = root.captions time) := by
  have hline : o.OfLine := Interpreter.execute_ofLine ho
  obtain ⟨result, hresult, htells⟩ := Interpreter.exists_tells ho
  obtain ⟨output, rfl⟩ := htells.ok.mp hok
  have houtput : o.data.get? "output" = some (.string output) := by
    rw [(htells.output output rfl).2]
    rfl
  have htext : Render.textOf o.data "output" = output := by
    rw [Render.textOf, houtput]
    rfl
  refine ⟨output, handled_eq_ok hresult, houtput, ?_, ?_, ?_, ?_, ?_⟩
  · change Render.full o false = _
    rw [Render.full_of_ok hline hok, Render.executed, htext]
    rfl
  · intro verbose
    change Except.ok (Render.quiet o) = _
    rw [Render.quiet, hok, hline.op, htext]
    rfl
  · intro hnone
    change Render.full o true = _
    rw [Render.full_of_ok hline hok, Render.executed, Render.metaBlock, hnone, htext]
    exact congrArg Except.ok String.append_empty
  · intro hsome
    exact (Interpreter.execute_carried ho).resolve_left hsome
  · intro time root hroot
    rw [← htext]
    exact Render.exists_full_of_tree hline hok hroot

def marks : Registry :=
  plainRegistry defaultMaxDepth
    [plainCommand defaultMaxDepth "m" fun _ => .done "[x]\t\x07\n",
      plainCommand defaultMaxDepth "n" fun _ => .done ""]

def markedInterpreter : Interpreter :=
  ((⟨.start marks, .empty [], defaultBudget⟩ : Interpreter).setClock
    fun n => 0.125 * Float.ofNat n).setTelemetry true

def markedTree : Span :=
  ⟨"Interpreter.execute", 0, some 5, [("command", .string "m")],
    [⟨"execute:m", 1, some 4, [("line", .string "m \x7bn\x7d")],
      [⟨"execute:n", 2, some 3, [("line", .string "n")], []⟩]⟩]⟩

theorem marked_output_shown :
    ∃ o, (markedInterpreter.execute "m \x7bn\x7d").1 = .ok o ∧ o.ok = true ∧
      o.format .plain = .ok "[x]\t\x07\n" ∧
      ∃ text, o.format ⟨false, false, true⟩ = .ok ("[x]\t\x07\n" ++ text) ∧
        (linesOf text.toList).map String.ofList =
          ["", "  meta:", "      625.00ms  Interpreter.execute  (command=m)",
            "          375.00ms  execute:m  (line=m \x7bn\x7d)",
            "              125.00ms  execute:n  (line=n)"] := by
  let time := markedInterpreter.session.telemetry.time
  obtain ⟨o, ho, hok, hmeta⟩ : ∃ o, (markedInterpreter.execute "m \x7bn\x7d").1 = .ok o ∧
      o.ok = true ∧ o.meta? = some [("telemetry", markedTree.toDatum time)] := ⟨_, rfl, rfl, rfl⟩
  have hrun : (execute markedInterpreter.budget "m \x7bn\x7d" markedInterpreter.session).1 =
      .ok "[x]\t\x07\n" := rfl
  have hcaptions : markedTree.captions time =
      ["      625.00ms  Interpreter.execute  (command=m)",
        "          375.00ms  execute:m  (line=m \x7bn\x7d)",
        "              125.00ms  execute:n  (line=n)"] := by
    decide +kernel
  obtain ⟨output, houtput, -, hplain, -, -, -, htree⟩ := execute_shown_verbatim _ _ o ho hok
  obtain rfl : "[x]\t\x07\n" = output := Except.ok.inj (hrun.symm.trans houtput)
  obtain ⟨text, below, hshown, hlines, hbelow⟩ := htree time markedTree hmeta
  refine ⟨o, ho, hok, hplain, text, hshown, ?_⟩
  have hlegible : ∀ p ∈ markedTree.placed 0, p.2.Legible := by decide +kernel
  have hfits : ∀ c ∈ markedTree.captions time, c.length ≤ 120 := by
    rw [hcaptions]
    decide
  rw [hlines, hbelow hlegible hfits, hcaptions]

end LineShell
