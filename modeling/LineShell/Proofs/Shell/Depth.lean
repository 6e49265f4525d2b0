import LineShell.Proofs.Run.Unregistered
import LineShell.Proofs.Shell.Forms

namespace LineShell

open Run

section Levels

variable (time : Nat → Float)

mutual

lemma Span.height_le_levels (s : Span) : 2 * s.height + 1 ≤ (s.toDatum time).levels := by
  obtain ⟨name, start, finish, annotations, children⟩ := s
  have hchildren := Span.levels_le_levelsOfItems children
  have happend : ∀ a b : Entries Datum,
      Datum.levelsOfEntries b ≤ Datum.levelsOfEntries (a ++ b) := by
    intro a b
    induction a with
    | nil => exact Nat.le_refl _
    | cons e a ih => exact ih.trans (Nat.le_max_right _ _)
  cases children with
  | nil =>
    rw [Span.height, Span.levels, Span.toDatum, Datum.levels]
    exact Nat.le_add_left 1 _
  | cons s spans =>
    rw [Span.height, Span.toDatum, Datum.levels]
    have hlevels : Datum.levelsOfEntries
        [("children", .array (Span.childrenToData time (s :: spans)))] =
          max (Datum.levelsOfItems (Span.childrenToData time (s :: spans)) + 1) 0 := rfl
    have hwhole := happend ([("name", .string name),
      ("duration_ms", .float
        (Decimal.roundedFloat 2 (Span.duration time ⟨name, start, finish, annotations, []⟩)))]
      ++ (if annotations.isEmpty then [] else [("annotations", .object annotations)]))
      [("children", .array (Span.childrenToData time (s :: spans)))]
    rw [hlevels] at hwhole
    rw [List.isEmpty_cons, if_neg Bool.false_ne_true]
    omega

lemma Span.levels_le_levelsOfItems (spans : List Span) :
    2 * Span.levels spans ≤ Datum.levelsOfItems (Span.childrenToData time spans) + 1 := by
  cases spans with
  | nil => simp [Span.levels]
  | cons s spans =>
    have hs := Span.height_le_levels s
    have hspans := Span.levels_le_levelsOfItems spans
    rw [Span.levels, Span.childrenToData, Datum.levelsOfItems]
    omega

end

end Levels

def digger : Command :=
  plainCommand defaultMaxDepth "dig" fun _ => .execute "dig" .done

lemma digger_run (call : String → Run String) (s : Session) :
    digger.clone.run call "dig" s = call "dig" (s.record (.acted "dig" ⟨[], [], [], ""⟩)) := by
  have hblank : Text.isBlankText "dig" = false := by cbv
  have hanswers : digger.clone.answersTo "dig" = true := by cbv
  have htext : parameterText "dig" = "" := by cbv
  have hscript : (call "dig" >>= pure) = call "dig" := bind_pure (call "dig")
  rw [Command.run_eq]
  simp only [Command.readLine, hblank, hanswers, htext, if_true, if_false, Bool.false_eq_true]
  exact congrFun hscript (s.record (.acted "dig" ⟨[], [], [], ""⟩))

lemma Telemetry.leave_deepens {t : Telemetry} {inner outer : Span} {rest : List Span}
    (h : t.active = inner :: outer :: rest) :
    ∃ outer', t.leave.active = outer' :: rest ∧ inner.height + 1 ≤ outer'.height := by
  have hclosed : Span.height { inner with finish := some t.clock } = inner.height := by
    rw [Span.height_eq, Span.height_eq]
  rw [leave]
  simp only [h]
  refine ⟨_, rfl, ?_⟩
  rw [Span.height_eq { outer with children := _ }, Span.levels_append, Span.levels, Span.levels,
    hclosed]
  omega

lemma dig (n : Nat) {s : Session} {top : Span} {rest : List Span}
    (hdig : s.registry.get? "dig" = some digger) (henabled : s.telemetry.enabled = true)
    (hactive : s.telemetry.active = top :: rest) :
    (execute n "dig" s).1 = .error .tooDeep ∧
      ∃ top', (execute n "dig" s).2.telemetry.active = top' :: rest ∧ n ≤ top'.height := by
  have hdispatch : s.registry.dispatch "dig" = .ok digger :=
    Registry.dispatch_of_get? (c := digger) hdig (by cbv) (by cbv)
  -- On the room that is left: the line inside has the span of this one as its innermost.
  induction n generalizing s top rest with
  | zero =>
    rw [execute_zero_apply hdispatch]
    exact ⟨rfl, top, hactive, Nat.zero_le _⟩
  | succ n ih =>
    obtain ⟨registry, defaults, ⟨enabled, time, clock, active⟩, journal⟩ := s
    obtain rfl : enabled = true := henabled
    obtain rfl : active = top :: rest := hactive
    have henter : Telemetry.enter? ⟨true, time, clock, top :: rest⟩
        ("execute:" ++ leadingWord "dig") =
        some ⟨true, time, clock + 1,
          ⟨"execute:" ++ leadingWord "dig", clock, none, [], []⟩ :: top :: rest⟩ := rfl
    obtain ⟨hfailed, top', hactive', hheight⟩ := ih
      (s := Session.record ⟨registry, defaults, ⟨true, time, clock + 1,
        ⟨"execute:" ++ leadingWord "dig", clock, none, [("line", .string "dig")], []⟩ :: top ::
          rest⟩, journal⟩ (.acted "dig" ⟨[], [], [], ""⟩)) hdig rfl rfl hdispatch
    rw [execute_succ_apply hdispatch, inSpan_of_some henter, digger_run]
    obtain ⟨top'', hactive'', hheight'⟩ := Telemetry.leave_deepens hactive'
    exact ⟨hfailed, top'', hactive'', by omega⟩

namespace Interpreter

section Dig

variable {i : Interpreter} (hdig : i.session.registry.get? "dig" = some digger)
  (henabled : i.session.telemetry.enabled = true)

include hdig henabled

lemma dig_opened : (LineShell.execute i.budget "dig" (i.opened "dig")).1 = .error .tooDeep ∧
    ∃ root, (LineShell.execute i.budget "dig" (i.opened "dig")).2.telemetry.active = [root] ∧
      i.budget ≤ root.height := by
  have hopened : (i.opened "dig").telemetry = ⟨true, i.session.telemetry.time,
      i.session.telemetry.clock + 1, [⟨"Interpreter.execute", i.session.telemetry.clock, none,
        [("command", .string (leadingWord "dig"))], []⟩]⟩ := by
    rw [opened, Telemetry.enterRoot, henabled]
    rfl
  exact dig i.budget (s := i.opened "dig") hdig (congrArg Telemetry.enabled hopened)
    (congrArg Telemetry.active hopened)

lemma dig_ok (hquiet : i.plugins.ending? (.of "dig" (.error .tooDeep)) = none) :
    ∃ o, (i.execute "dig").1 = .ok o := by
  have hresult : Run.handled (LineShell.execute i.budget "dig" (i.opened "dig")).1 =
      .ok (.error .tooDeep) := by
    rw [(dig_opened hdig henabled).1]
    rfl
  have hconclude : conclude i.plugins "dig"
      (LineShell.execute i.budget "dig" (i.opened "dig")) = _ := conclude_eq i.plugins hresult
  rw [hquiet] at hconclude
  rw [execute_of_enabled henabled, perform_apply]
  change ∃ o, (closeRoot _ (conclude i.plugins "dig"
    (LineShell.execute i.budget "dig" (i.opened "dig")))).1 = _
  rw [hconclude]
  exact ⟨_, rfl⟩

lemma dig_format (hroom : Render.documentLevels < 2 * i.budget + 1) {form : OutputSettings}
    (hjson : form.jsonOutput = true) {o : Outcome} (ho : (i.execute "dig").1 = .ok o) :
    o.format form = .error .deepData := by
  obtain ⟨-, root, hactive, hheight⟩ := dig_opened hdig henabled
  have hmeta := execute_meta henabled hactive ho
  dsimp only at hmeta
  generalize (LineShell.execute i.budget "dig" (i.opened "dig")).2.telemetry = t at hmeta
  have hlevels := Span.height_le_levels t.time { root with finish := some t.clock }
  rw [Span.height_eq, ← Span.height_eq root] at hlevels
  have hdeep : Render.documentLevels < Datum.levelsOfEntries (o.meta?.getD []) := by
    rw [hmeta, Option.getD_some, Datum.levelsOfEntries, Datum.levelsOfEntries]
    omega
  rw [Outcome.format, hjson, if_pos rfl, Render.document, if_pos]
  rw [List.any_eq_true]
  exact ⟨_, List.mem_cons_of_mem _ (List.mem_cons_of_mem _ List.mem_cons_self),
    decide_eq_true hdeep⟩

end Dig

end Interpreter

end LineShell
