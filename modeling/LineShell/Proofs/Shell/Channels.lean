import LineShell.Proofs.Shell.Turns

namespace LineShell

open Text

lemma Text.withoutEscapes_eq_self {s : List Char} (h : escape ∉ s) : withoutEscapes s = s := by
  induction s with
  | nil => rw [withoutEscapes]
  | cons c s ih =>
    rw [List.mem_cons, not_or] at h
    rw [withoutEscapes, if_neg (Ne.symm h.1), ih h.2]

namespace Cli

lemma App.told_eq {text : String} (h : escape ∉ text.toList) : told text = text ++ "\n" := by
  have hline : escape ∉ (text ++ "\n").toList := by
    rw [String.toList_append, List.mem_append, not_or]
    exact ⟨h, by decide⟩
  rw [told, dropEscapes, withoutEscapes_eq_self hline, String.ofList_toList]

def outputs (ws : List Written) : String :=
  Report.output ⟨0, ws, none, []⟩

def troubles (ws : List Written) : String :=
  Report.trouble ⟨0, ws, none, []⟩

lemma outputs_append (ws vs : List Written) : outputs (ws ++ vs) = outputs ws ++ outputs vs := by
  rw [outputs, Report.output, List.map_append, String.join_append]
  rfl

lemma troubles_append (ws vs : List Written) :
    troubles (ws ++ vs) = troubles ws ++ troubles vs := by
  rw [troubles, Report.trouble, List.map_append, String.join_append]
  rfl

namespace Shell

def textIn (form : OutputSettings) (r : Except Failure Outcome) : String :=
  (App.rendered form r).toOption.elim "" (·.2)

def troubleOf (form : OutputSettings) (r : Except Failure Outcome) : String :=
  if !succeeded r then App.told (textIn form r)
  else if form.jsonOutput then ""
  else String.join ((r.toOption.elim [] (·.warnings)).map fun w => App.told ("WARNING: " ++ w))

section Channels

variable {form : OutputSettings}

lemma channels_output (text : String) :
    outputs [.output text] = text ∧ troubles [.output text] = "" := by
  simp [outputs, troubles, Report.output, Report.trouble]

lemma channels_trouble (text : String) :
    outputs [.trouble text] = "" ∧ troubles [.trouble text] = text := by
  simp [outputs, troubles, Report.output, Report.trouble]

lemma channels_warnings (ws : List String) :
    outputs (ws.map fun w => .trouble (App.told ("WARNING: " ++ w))) = "" ∧
      troubles (ws.map fun w => .trouble (App.told ("WARNING: " ++ w))) =
        String.join (ws.map fun w => App.told ("WARNING: " ++ w)) := by
  induction ws with
  | nil => exact ⟨rfl, rfl⟩
  | cons w ws ih =>
    obtain ⟨houtput, htrouble⟩ := channels_trouble (App.told ("WARNING: " ++ w))
    rw [List.map_cons, ← List.singleton_append, outputs_append, troubles_append, ih.1, ih.2,
      houtput, htrouble, List.map_cons, String.join_cons]
    exact ⟨rfl, rfl⟩

lemma channels_shown {r : Except Failure Outcome} (h : ∃ shown, App.rendered form r = .ok shown) :
    outputs (shown form r) = (if succeeded r then App.told (textIn form r) else "") ∧
      troubles (shown form r) = troubleOf form r := by
  obtain ⟨⟨o, text⟩, hrendered⟩ := h
  obtain ⟨rfl, -⟩ := eq_ok_of_rendered hrendered
  have htext : textIn form (.ok o) = text := by
    rw [textIn, hrendered]
    rfl
  rw [shown, hrendered, troubleOf, htext]
  change outputs (App.shownAs form o text) = (if o.ok then App.told text else "") ∧
    troubles (App.shownAs form o text) = if !o.ok then App.told text
      else if form.jsonOutput then ""
      else String.join (o.warnings.map fun w => App.told ("WARNING: " ++ w))
  rw [App.shownAs]
  cases o.ok with
  | false => exact channels_trouble (App.told text)
  | true =>
    obtain ⟨houtput, htrouble⟩ := channels_output (App.told text)
    cases form.jsonOutput with
    | true => exact ⟨houtput, htrouble⟩
    | false =>
      obtain ⟨houtputs, htroubles⟩ := channels_warnings o.warnings
      simp only [if_true, Bool.false_eq_true, if_false, Bool.not_true]
      rw [← List.singleton_append, outputs_append, troubles_append, houtput, htrouble, houtputs,
        htroubles, String.append_empty, String.empty_append]
      exact ⟨rfl, rfl⟩

variable {rs : List (Except Failure Outcome)}
  (h : ∀ r ∈ rs, ∃ shown, App.rendered form r = .ok shown)

include h

lemma outputs_flatMap : outputs (rs.flatMap (shown form)) =
    String.join ((rs.filter succeeded).map fun r => App.told (textIn form r)) := by
  induction rs with
  | nil => rfl
  | cons r rs ih =>
    rw [List.forall_mem_cons] at h
    rw [List.flatMap_cons, outputs_append, ih h.2, (channels_shown h.1).1, List.filter_cons]
    cases succeeded r <;> simp

lemma troubles_flatMap :
    troubles (rs.flatMap (shown form)) = String.join (rs.map (troubleOf form)) := by
  induction rs with
  | nil => rfl
  | cons r rs ih =>
    rw [List.forall_mem_cons] at h
    rw [List.flatMap_cons, troubles_append, ih h.2, (channels_shown h.1).2, List.map_cons,
      String.join_cons]

end Channels

lemma outputs_summary (s : Settings) (failures : Nat) : outputs (summary s failures) = "" := by
  rw [summary]
  split
  · exact (channels_trouble _).1
  · rfl

def toll (s : Settings) (failures : Nat) : String :=
  if failures ≠ 0 ∧ !s.quiet ∧ !s.jsonOutput then
    App.told (Decimal.natText failures ++ " line(s) failed")
  else ""

lemma troubles_summary (s : Settings) (failures : Nat) :
    troubles (summary s failures) = toll s failures := by
  rw [summary, toll]
  split
  · exact (channels_trouble _).2
  · rfl

/-- A report of what came of some lines, after what was written before and with a last word on the
channel for trouble. -/
structure Tells (a : App) (rs : List (Except Failure Outcome)) (last : String) (r : Report) :
    Prop where
  output : r.output = outputs a.written ++
    String.join ((rs.filter succeeded).map fun r => App.told (textIn (outputForm a.settings) r))
  trouble : r.trouble = troubles a.written ++
    String.join (rs.map (troubleOf (outputForm a.settings))) ++ last

lemma written_done (ran : Except Failure Nat × App) :
    (Report.done ran).written = ran.2.written := by
  obtain ⟨(e | code) | code, b⟩ := ran <;> rfl

lemma tells_of_written {a b : App} {rs : List (Except Failure Outcome)} {last : List Written}
    (h : ∀ r ∈ rs, ∃ shown, App.rendered (outputForm a.settings) r = .ok shown)
    (hwritten : b.written = a.written ++ rs.flatMap (shown (outputForm a.settings)) ++ last)
    (hlast : outputs last = "") (code : Except Failure Nat) :
    Tells a rs (troubles last) (.done (code, b)) := by
  constructor
  · change outputs (Report.done (code, b)).written = _
    rw [written_done, hwritten, outputs_append, outputs_append, outputs_flatMap h, hlast,
      String.append_empty]
  · change troubles (Report.done (code, b)).written = _
    rw [written_done, hwritten, troubles_append, troubles_append, troubles_flatMap h]

end Shell

end Cli

end LineShell
