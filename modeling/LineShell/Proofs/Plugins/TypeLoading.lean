import LineShell.Proofs.Plugins.Contributions

namespace LineShell

open PluginManager

namespace Plugin

def FailsToOffer (p : Plugin) : Prop :=
  (∃ failure, typeOffers? p = some (.raises failure)) ∨ typeOffers? p = some .malformed

lemma FailsToOffer.offeredTypes {p : Plugin} (h : p.FailsToOffer) : p.offeredTypes = [] := by
  rcases h with ⟨failure, h⟩ | h <;> rw [Plugin.offeredTypes, h]

end Plugin

/-- Loading types comes to its end whatever the hooks do. Each name is given the function that the
first acceptable offer of it names, plugin by plugin, unless the table had the name; without the
plugins that fail the outcome is the same. Whatever is registered later keeps to the same rule. -/
theorem loadTypes_first_wins (m : PluginManager) (types : TypeTable) (log : List String) :
    ∃ added after log', m.loadTypes types log = ((added, after), log') ∧
      types.FirstWins (m.entries.flatMap fun e => e.2.offeredTypes) added after ∧
      (∀ front plugin behind, m.entries = front ++ plugin :: behind → plugin.2.FailsToOffer →
        ({ m with entries := front ++ behind }.loadTypes types log).1 = (added, after)) ∧
      (∀ later, after.FirstWins later (after.registerAll later).1 (after.registerAll later).2) ∧
      ∀ (t t' : TypeTable) (name : String) (offer : Option Parser) (answer : Bool),
        t.register name offer = .ok (answer, t') →
          (answer = true ↔ name ∉ t.names ∧ name ∈ t'.names) := by
  have hloaded : ∀ (m : PluginManager), (m.loadTypes types log).1 =
      types.registerAll (m.entries.flatMap fun e => e.2.offeredTypes) :=
    fun m => collectTypes_fst m.entries types log
  refine ⟨(m.loadTypes types log).1.1, (m.loadTypes types log).1.2, (m.loadTypes types log).2, rfl,
    ?_, ?_, fun later => TypeTable.registerAll_firstWins _ later, ?_⟩
  · rw [hloaded]
    exact TypeTable.registerAll_firstWins types _
  · intro front plugin behind hentries hfails
    rw [hloaded, hloaded, hentries]
    simp [hfails.offeredTypes]
  · intro t t' name offer answer h
    exact TypeTable.register_answer h

def palette (serial : Nat) (hook : TypeOffers) : Plugin where
  serial := serial
  className := "Palette"
  isClass := false
  startup := none
  typesHook := some hook
  commandsHook := none
  observer := none

-- "int" is taken, "color" is first offered with what is no function
def palettes : PluginManager where
  entries :=
    [("broken", palette 1 (.raises (.raised "RuntimeError" "types broke"))),
      ("list", palette 2 .malformed),
      ("odd", palette 3 (.offers [("", some Parser.string), ("color", none),
        ("shade", some Parser.float)])),
      ("plain", palette 4 (.offers [("color", some Parser.string), ("int", some Parser.string)])),
      ("late", palette 5 (.offers [("color", some Parser.float), ("shade", some Parser.string)]))]
  blocked := []
  isLoaded := false

lemma palette_failsToOffer (serial : Nat) (e : Exception) :
    (palette serial (.raises e)).FailsToOffer :=
  .inl ⟨e, rfl⟩

theorem first_acceptable_color_kept :
    ∃ added after log', palettes.loadTypes .builtin [] = ((added, after), log') ∧
      added = ["shade", "color"] ∧
      TypeTable.builtin.FirstWins (palettes.entries.flatMap fun e => e.2.offeredTypes) added after ∧
      (palette 1 (.raises (.raised "RuntimeError" "types broke"))).FailsToOffer ∧
      ({ palettes with entries := palettes.entries.tail }.loadTypes .builtin []).1 =
        (added, after) ∧
      ∃ more, TypeTable.builtin.register "tint" (some Parser.string) = .ok (true, more) ∧
        "tint" ∉ TypeTable.builtin.names ∧ "tint" ∈ more.names := by
  obtain ⟨added, after, log', hload, hfirst, hwithout, -, hanswer⟩ :=
    loadTypes_first_wins palettes .builtin []
  have hadded : added = ["shade", "color"] := by
    rw [hfirst.order]
    decide
  have hfails := palette_failsToOffer 1 (.raised "RuntimeError" "types broke")
  have hregister : TypeTable.builtin.register "tint" (some Parser.string) =
      .ok (true, ⟨TypeTable.builtin.parsers ++ [("tint", Parser.string)]⟩) := rfl
  refine ⟨added, after, log', hload, hadded, hfirst, hfails, ?_, _, hregister, ?_⟩
  · exact hwithout [] ("broken", _) _ rfl hfails
  · exact (hanswer _ _ _ _ _ hregister).mp rfl

end LineShell
