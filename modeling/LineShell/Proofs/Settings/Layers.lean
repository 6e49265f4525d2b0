import LineShell.Proofs.Entries
import LineShell.Proofs.Settings.Leaves

/-! Sources laid over one another. For each single setting the upper source counts where it defines
that setting, whatever it defines beside it, and the lower source counts elsewhere. -/

namespace LineShell

namespace Settings

lemma get?_overlay {upper : Entries Datum} (h : upper.keys.Nodup) (lower : Entries Datum)
    (key : String) :
    Entries.get? (overlay lower upper) key =
      match upper.get? key with
      | none => lower.get? key
      | some d => some (overlayValue (lower.get? key) d) := by
  induction upper generalizing lower with
  | nil => simp [overlay]
  | cons e upper ih =>
    obtain ⟨k, d⟩ := e
    rw [Entries.keys, List.map_cons, List.nodup_cons] at h
    rw [overlay, ih h.2, Entries.get?_cons, Entries.get?_set]
    by_cases hk : key = k
    · rw [hk, Entries.get?_eq_none_iff.mpr h.1]
      simp
    · simp [hk]

lemma mem_keys_overlay {lower upper : Entries Datum} {key : String} :
    key ∈ Entries.keys (overlay lower upper) ↔ key ∈ lower.keys ∨ key ∈ upper.keys := by
  induction upper generalizing lower with
  | nil => simp [overlay, Entries.keys]
  | cons e upper ih =>
    obtain ⟨k, d⟩ := e
    rw [overlay, ih, Entries.mem_keys_set]
    simp only [Entries.keys, List.map_cons, List.mem_cons]
    tauto

lemma nodup_keys_overlay {lower : Entries Datum} (h : lower.keys.Nodup) (upper : Entries Datum) :
    (Entries.keys (overlay lower upper)).Nodup := by
  induction upper generalizing lower with
  | nil => rwa [overlay]
  | cons e upper ih =>
    obtain ⟨k, d⟩ := e
    rw [overlay]
    exact ih (Entries.nodup_keys_set h k _)

lemma overlayValue_none (d : Datum) : overlayValue none d = d := by
  cases d <;> simp [overlayValue]

lemma overlayValue_cases (lower : Option Datum) (d : Datum) :
    overlayValue lower d = d ∨ ∃ es es', d = .object es ∧ overlayValue lower d = .object es' := by
  cases d with
  | object es =>
    right
    rcases lower with _ | ⟨_ | _ | _ | _ | _ | _ | _ | _⟩ <;> simp [overlayValue]
  | _ => exact .inl (by simp [overlayValue])

end Settings

open Settings

def Distinct (es : Entries Datum) : Prop :=
  es.keys.Nodup ∧ ∀ part ∈ sectionKeys.map Prod.fst, (tableOf es part).keys.Nodup

lemma HasTables.overlay {lower upper : Entries Datum} (hlower : HasTables lower)
    (hupper : HasTables upper) (hdistinct : upper.keys.Nodup) :
    HasTables (overlay lower upper) := by
  intro part hpart d hd
  rw [get?_overlay hdistinct] at hd
  cases hu : upper.get? part with
  | none =>
    rw [hu] at hd
    exact hlower part hpart d hd
  | some d' =>
    obtain ⟨table, rfl⟩ := hupper part hpart d' hu
    rw [hu] at hd
    obtain rfl := Option.some.inj hd
    rcases overlayValue_cases (lower.get? part) (.object table) with h | ⟨es, es', -, h⟩
    · exact ⟨table, h⟩
    · exact ⟨es', h⟩

lemma Distinct.overlay {lower upper : Entries Datum} (hlower : Distinct lower)
    (hupper : ∀ part ∈ sectionKeys.map Prod.fst, upper.get? part = none)
    (hdistinct : upper.keys.Nodup) : Distinct (overlay lower upper) := by
  refine ⟨nodup_keys_overlay hlower.1 upper, fun part hpart => ?_⟩
  rw [tableOf, get?_overlay hdistinct, hupper part hpart]
  exact hlower.2 part hpart

namespace Leaf

lemma check_overlayValue (l : Leaf) (lower : Option Datum) (d : Datum) :
    l.check (overlayValue lower d) = l.check d := by
  rcases overlayValue_cases lower d with h | ⟨es, es', rfl, h⟩
  · rw [h]
  · rw [h]
    cases l <;> rfl

lemma part_mem {l : Leaf} {part : String} (h : l.part? = some part) :
    part ∈ sectionKeys.map Prod.fst := by
  revert h
  cases l <;> simp +contextual [part?, sectionKeys, eq_comm]

lemma look_overlay (l : Leaf) {lower upper : Entries Datum} (hlower : HasTables lower)
    (hupper : HasTables upper) (hdistinct : Distinct upper) :
    l.look (overlay lower upper) =
      match l.look upper with
      | none => l.look lower
      | some d => some (overlayValue (l.look lower) d) := by
  rw [look, look, look]
  cases hpart : l.part? with
  | none => exact get?_overlay hdistinct.1 lower l.key
  | some part =>
    have hmem := part_mem hpart
    dsimp only
    rw [tableOf, get?_overlay hdistinct.1]
    cases hu : upper.get? part with
    | none => simp [tableOf, hu]
    | some d =>
      obtain ⟨table, rfl⟩ := hupper part hmem d hu
      have htable : tableOf upper part = table := by simp [tableOf, hu, Datum.entries]
      have hnodup := hdistinct.2 part hmem
      rw [htable] at hnodup ⊢
      dsimp only [Option.map_some, Option.getD_some]
      cases hl : lower.get? part with
      | none =>
        rw [overlayValue_none, tableOf, hl]
        simp only [Datum.entries, Option.map_none, Option.getD_none, Entries.get?_nil,
          overlayValue_none]
        cases Entries.get? table l.key <;> rfl
      | some d =>
        obtain ⟨low, rfl⟩ := hlower part hmem d hl
        rw [overlayValue, tableOf, hl]
        exact get?_overlay hnodup low l.key

lemma read_overlay (l : Leaf) {lower upper : Entries Datum} (hlower : HasTables lower)
    (hupper : HasTables upper) (hdistinct : Distinct upper) (below : Option Datum) :
    l.read ((l.look (overlay lower upper)).or below) =
      l.read ((l.look upper).or ((l.look lower).or below)) := by
  rw [l.look_overlay hlower hupper hdistinct]
  cases l.look upper with
  | none => rfl
  | some d => exact l.check_overlayValue _ d

end Leaf

end LineShell
