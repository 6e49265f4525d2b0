import LineShell.Proofs.Plugins.Declaring
import LineShell.Proofs.Plugins.Requests

namespace LineShell

open PluginManager

lemma Entries.get?_map_of_nodup {α β : Type} {ds : List α} {key : α → String} {f : α → β}
    (hnodup : (ds.map key).Nodup) {d : α} (hd : d ∈ ds) :
    Entries.get? (ds.map fun d => (key d, f d)) (key d) = some (f d) := by
  induction ds with
  | nil => cases hd
  | cons d' ds ih =>
    rw [List.map_cons, List.nodup_cons] at hnodup
    rw [List.map_cons, Entries.get?_cons]
    rcases List.mem_cons.mp hd with rfl | hd
    · simp
    · have hne : key d ≠ key d' := fun heq => hnodup.1 (heq ▸ List.mem_map_of_mem hd)
      rw [if_neg hne]
      exact ih hnodup.2 hd

lemma takeWhile_of_filter_nil {α : Type} {es : List α} {p : α → Bool} (h : es.filter p = []) :
    es.takeWhile (fun e => !p e) = es := by
  rw [List.filter_eq_nil_iff] at h
  rw [List.takeWhile_eq_self_iff]
  intro e he
  simpa using h e he

lemma exists_split_of_filter {α : Type} {es : List α} {p : α → Bool} {a : α}
    (h : es.filter p = [a]) : ∃ rest, es = es.takeWhile (fun e => !p e) ++ a :: rest := by
  induction es with
  | nil => cases h
  | cons e es ih =>
    rw [List.filter_cons] at h
    cases hp : p e with
    | true =>
      rw [hp, if_pos rfl, List.cons.injEq] at h
      obtain ⟨rfl, -⟩ := h
      exact ⟨es, by simp [hp]⟩
    | false =>
      rw [hp] at h
      obtain ⟨rest, hrest⟩ := ih h
      refine ⟨rest, ?_⟩
      rw [List.takeWhile_cons]
      simp only [hp, Bool.not_false, if_true, List.cons_append]
      rw [← hrest]

namespace CorePlugin

lemma definitions_nodup : (definitions.map (·.name)).Nodup := by
  decide

lemma forall_mem_append_iff {own : List (Definition Script)} (hown : own <+: definitions)
    {front behind : List String} :
    (∀ d ∈ definitions, d.name ∈ front ++ own.map (·.name) ++ behind) ↔
      ∀ d ∈ definitions.drop own.length, d.name ∈ front ++ behind := by
  have hsplit : own ++ definitions.drop own.length = definitions :=
    List.prefix_iff_eq_append.mp hown
  have hdistinct := definitions_nodup
  rw [← hsplit, List.map_append, List.nodup_append] at hdistinct
  simp only [List.mem_append]
  constructor
  · intro hall d hrest
    have hother : d.name ∉ own.map (·.name) :=
      fun hmem => hdistinct.2.2 _ hmem _ (List.mem_map_of_mem hrest) rfl
    rcases hall d (List.mem_of_mem_drop hrest) with (hname | hname) | hname
    · exact .inl hname
    · exact (hother hname).elim
    · exact .inr hname
  · intro hrest d hdef
    rw [← hsplit, List.mem_append] at hdef
    rcases hdef with hd | hd
    · exact .inl (.inr (List.mem_map_of_mem hd))
    · rcases hrest d hd with hname | hname
      · exact .inl (.inl hname)
      · exact .inr hname

lemma exists_build {r : Registry} (h : 0 ≤ r.maxDepth) :
    ∀ d ∈ definitions, ∃ c, r.build d = .ok c := by
  have hplain : ∀ d ∈ definitions, Text.isBlankText d.name = false ∧ isWord d.name = true ∧
      d.action.isSome ∧ d.maxDepth = none ∧ (Schema.arity d.parameters).isOk := by
    intro d hd
    simp only [definitions, List.mem_cons, List.not_mem_nil, or_false] at hd
    rcases hd with rfl | rfl | rfl | rfl | rfl | rfl | rfl <;> decide +kernel
  intro d hd
  obtain ⟨hblank, hword, haction, hdepth, harity⟩ := hplain d hd
  obtain ⟨action, ha⟩ := Option.isSome_iff_exists.mp haction
  have hlimit : ¬ r.maxDepth < 0 := by omega
  have hmade : ∀ delegate, ∃ c,
      Command.ofDefinition d delegate .registry (d.maxDepth.getD r.maxDepth) = .ok c := by
    intro delegate
    simp only [Command.ofDefinition, hblank, hword, ha, hdepth, Option.getD_none, hlimit, if_false,
      dif_pos, Bool.false_eq_true]
    split
    · rename_i hs
      rw [hs] at harity
      cases harity
    · exact ⟨_, rfl⟩
  obtain ⟨c, hc⟩ := hmade (if d.nested.getD r.nested then .registry else .none)
  exact ⟨c, by rw [Registry.build, hc]⟩

end CorePlugin

namespace Interpreter

lemma load_fst (config : InterpreterConfig) (m : PluginManager) (log : List String) :
    (load config m log).1 =
      ⟨.start (loaded m.entries
        (.empty (m.loadTypes .builtin log).1.2 config.maxDepth config.nested)), m,
        defaultBudget⟩ := by
  rw [← collectCommands_fst _ _ (m.loadTypes .builtin log).2]
  rfl

section Core

variable {settings : Option Settings} {m : PluginManager} (hm : CorePlugin.name ∉ m.names)
  (hd : CorePlugin.name ∉ settings.elim [] (·.plugins.disabled))

include hm hd

lemma held_seated :
    (seated settings (some m)).held CorePlugin.name =
      if m.isBlocked CorePlugin.name then [] else [(CorePlugin.name, CorePlugin.plugin)] := by
  obtain ⟨hheld, hblocked⟩ := held_blockAll (m := m) hd
  rw [held_eq_nil_iff.mpr hm] at hheld
  have hresolved : resolveName CorePlugin.plugin (some CorePlugin.name) = CorePlugin.name := rfl
  dsimp only [seated, given]
  rw [register, hresolved, hblocked]
  cases hb : m.isBlocked CorePlugin.name with
  | true => exact hheld
  | false =>
    have hnew : ((settings.elim [] (·.plugins.disabled)).foldl block m).entries.has
        CorePlugin.name = false := by
      rw [Bool.eq_false_iff, ne_eq, Entries.has_iff_mem_keys]
      exact held_eq_nil_iff.mp hheld
    simp only [hnew, Bool.false_eq_true, if_false]
    rw [held, List.filter_append]
    rw [held] at hheld
    rw [hheld]
    simp

lemma held_discovered (files : FileTree) (log : List String) :
    (discovered [] settings (some m) files log).1.held CorePlugin.name =
      if m.isBlocked CorePlugin.name then [] else [(CorePlugin.name, CorePlugin.plugin)] := by
  have hseated := held_seated hm hd
  have hlocal : NotLocal CorePlugin.name := by
    intro file h
    have hlist := congrArg (fun s => s.toList.head?) h
    simp [localName, localNameStart, CorePlugin.name, String.toList_append] at hlist
  have hclass : ∀ e ∈ (seated settings (some m)).held CorePlugin.name, e.2.isClass = false := by
    rw [hseated]
    split
    · simp
    · simp [CorePlugin.plugin]
  rw [← hseated]
  cases settings with
  | none => rfl
  | some s =>
    rw [discovered]
    split
    · have hkept := held_discover hlocal hclass files (some s.localPluginDir) log
      rw [buildAmong.discover, Logged.bind_apply]
      dsimp only
      split <;> exact hkept
    · rfl

end Core

/-- What the plugins declare that come ahead of the core plugin. -/
def front (i : Interpreter) : Registry :=
  loaded (i.plugins.entries.takeWhile fun e => e.1 != CorePlugin.name)
    { i.session.registry with commands := [] }

/-- What the core plugin declares next. -/
def own (i : Interpreter) (isBlocked : Bool) : List (Definition Script) :=
  if isBlocked then [] else CorePlugin.definitions.takeWhile fun d => d.name ∉ i.front.names

lemma build_session (settings : Option Settings) (plugins : Option PluginManager)
    (files : FileTree) (log : List String) :
    let i := (build settings plugins files log).1
    i.plugins = (discovered [] settings plugins files log).1 ∧
      0 ≤ i.session.registry.maxDepth ∧
      i.session.registry =
        loaded i.plugins.entries { i.session.registry with commands := [] } := by
  rw [build, buildAmong_eq, Logged.bind_apply, load_fst]
  obtain ⟨more, hmore⟩ := loaded_extends (discovered [] settings plugins files log).1.entries
    (.empty ((discovered [] settings plugins files log).1.loadTypes .builtin
        (discovered [] settings plugins files log).2).1.2
      (settings.elim .default (·.interpreter)).maxDepth
      (settings.elim .default (·.interpreter)).nested)
  dsimp only [Session.start]
  rw [hmore]
  exact ⟨rfl, Int.natCast_nonneg _, hmore.symm⟩

lemma own_isPrefix (i : Interpreter) (isBlocked : Bool) :
    i.own isBlocked <+: CorePlugin.definitions := by
  rw [own]
  split
  · exact List.nil_prefix
  · exact List.takeWhile_prefix _

lemma own_free {i : Interpreter} {isBlocked : Bool} {d : Definition Script}
    (h : d ∈ i.own isBlocked) : d.name ∉ i.front.names := by
  rw [own] at h
  split at h
  · cases h
  · simpa using List.mem_takeWhile_imp h

lemma exists_core_turn {i : Interpreter} {isBlocked : Bool}
    (hdepth : 0 ≤ i.session.registry.maxDepth)
    (hregistry : i.session.registry =
      loaded i.plugins.entries { i.session.registry with commands := [] })
    (hheld : i.plugins.held CorePlugin.name =
      if isBlocked then [] else [(CorePlugin.name, CorePlugin.plugin)]) :
    ∃ made : Definition Script → Command,
      (∀ d ∈ CorePlugin.definitions, i.front.build d = .ok (made d)) ∧
        Registry.Extends
          { i.front with commands := i.front.commands
              ++ (i.own isBlocked).map fun d => (d.name, made d) }
          i.session.registry := by
  have hfront : i.front.maxDepth = i.session.registry.maxDepth := by
    obtain ⟨more, hmore⟩ := loaded_extends
      (i.plugins.entries.takeWhile fun e => e.1 != CorePlugin.name)
      { i.session.registry with commands := [] }
    rw [front, hmore]
  have hbuild := CorePlugin.exists_build (hfront ▸ hdepth)
  obtain ⟨c, -⟩ := hbuild _ List.mem_cons_self
  have : Nonempty Command := ⟨c⟩
  choose! made hmade using hbuild
  refine ⟨made, hmade, ?_⟩
  cases isBlocked with
  | true =>
    -- No plugin has the core name, so that all of them are ahead of it.
    have hall : (i.plugins.entries.takeWhile fun e => e.1 != CorePlugin.name)
        = i.plugins.entries := takeWhile_of_filter_nil hheld
    have hlast : i.session.registry = i.front := by
      rw [front, hall]
      exact hregistry
    rw [hlast]
    exact ⟨[], by simp [own]⟩
  | false =>
    obtain ⟨rest, hentries⟩ := exists_split_of_filter hheld
    have hfree : ∀ d ∈ CorePlugin.definitions,
        decide (d.name ∉ i.front.names) = true ↔ d.name ∉ i.front.names :=
      fun d _ => decide_eq_true_iff
    have hturn := declare_eq hmade CorePlugin.definitions_nodup hfree
    have hlast : i.session.registry = loaded rest (declared CorePlugin.plugin i.front) := by
      rw [hregistry, hentries, loaded, List.foldl_append]
      rfl
    rw [own, if_neg Bool.false_ne_true, ← hturn, hlast]
    exact loaded_extends rest _

end Interpreter

/-- An interpreter has the commands of the plugins ahead of the core plugin, then the core commands
up to the first whose name is among those, then what the other plugins add. So it has all core
commands just if those from that name on are declared by other plugins. -/
theorem core_commands_present_iff (settings : Option Settings) (m : PluginManager)
    (files : FileTree) (log : List String) (hm : CorePlugin.name ∉ m.names)
    (hd : CorePlugin.name ∉ settings.elim [] (·.plugins.disabled)) :
    let i := (Interpreter.build settings (some m) files log).1
    let own := i.own (m.isBlocked CorePlugin.name)
    ∃ behind, i.session.registry.names = i.front.names ++ own.map (·.name) ++ behind ∧
      (∀ name ∈ i.front.names, i.session.registry.get? name = i.front.get? name) ∧
      (∀ d ∈ own, ∃ c, i.session.registry.build d = .ok c ∧
        i.session.registry.get? d.name = some c) ∧
      ((∀ d ∈ CorePlugin.definitions, i.session.registry.contains d.name = true) ↔
        ∀ d ∈ CorePlugin.definitions.drop own.length, d.name ∈ i.front.names ++ behind) := by
  intro i own
  obtain ⟨hplugins, hdepth, hregistry⟩ := Interpreter.build_session settings (some m) files log
  have hheld := Interpreter.held_discovered hm hd files log
  rw [← hplugins] at hheld
  obtain ⟨made, hmade, hextends⟩ := Interpreter.exists_core_turn hdepth hregistry hheld
  have hfirst : own <+: CorePlugin.definitions := i.own_isPrefix _
  have hturn : Registry.names { i.front with
      commands := i.front.commands ++ own.map fun d => (d.name, made d) }
      = i.front.names ++ own.map (·.name) := by
    simp [Registry.names, Entries.keys]
  obtain ⟨behind, hnames⟩ :
      ∃ behind, i.session.registry.names = i.front.names ++ own.map (·.name) ++ behind := by
    rw [← hturn]
    exact hextends.names
  refine ⟨behind, hnames, ?_, ?_, ?_⟩
  · intro name hname
    have hfront : i.front.Extends i.session.registry := Registry.Extends.trans ⟨_, rfl⟩ hextends
    exact hfront.get?_eq hname
  · intro d hown
    have hdef : d ∈ CorePlugin.definitions := hfirst.subset hown
    have hfree : d.name ∉ i.front.names := i.own_free hown
    refine ⟨made d, ?_, ?_⟩
    · obtain ⟨more, hmore⟩ := Registry.Extends.trans ⟨_, rfl⟩ hextends
      rw [hmore]
      exact hmade d hdef
    · have hmem : d.name ∈ i.front.names ++ own.map (·.name) :=
        List.mem_append_right _ (List.mem_map_of_mem hown)
      rw [← hturn] at hmem
      have hnew : i.front.commands.get? d.name = none := Registry.get?_eq_none_iff.mpr hfree
      have hnodup := CorePlugin.definitions_nodup.sublist (hfirst.sublist.map (·.name))
      rw [hextends.get?_eq hmem, Registry.get?, Entries.get?_append, hnew, Option.none_or]
      exact Entries.get?_map_of_nodup hnodup hown
  · simp only [Registry.contains_iff, hnames]
    exact CorePlugin.forall_mem_append_iff hfirst

def declaring (name : String) : PluginManager where
  entries := [("tools",
    { serial := 1
      className := "Tools"
      isClass := false
      startup := none
      typesHook := none
      commandsHook := some [.ok (CorePlugin.define name "" [] fun _ => .done "")]
      observer := none })]
  blocked := []
  isLoaded := false

def equippedWith (m : PluginManager) : Interpreter :=
  (Interpreter.build none (some m) .empty []).1

theorem core_present_beside_sub :
    CorePlugin.name ∉ (declaring "sub").names ∧
      CorePlugin.name ∉ (none : Option Settings).elim [] (·.plugins.disabled) ∧
      ∀ d ∈ CorePlugin.definitions,
        (equippedWith (declaring "sub")).session.registry.contains d.name = true := by
  have hname : CorePlugin.name ∉ (declaring "sub").names := by decide
  have hdisabled : CorePlugin.name ∉ (none : Option Settings).elim [] (·.plugins.disabled) := by
    decide
  have hown : ((equippedWith (declaring "sub")).own false).length
      = CorePlugin.definitions.length := by
    decide
  obtain ⟨behind, -, -, -, hall⟩ :=
    core_commands_present_iff none (declaring "sub") .empty [] hname hdisabled
  refine ⟨hname, hdisabled, hall.mpr ?_⟩
  intro d hd
  have hnone : CorePlugin.definitions.drop ((equippedWith (declaring "sub")).own false).length
      = [] := by
    rw [hown, List.drop_length]
  exact absurd (hnone ▸ hd) List.not_mem_nil

/-- A plugin that declares "mul" costs the interpreter this command of the core plugin and all that
come after it. -/
theorem core_lost_behind_mul :
    CorePlugin.name ∉ (declaring "mul").names ∧
      (declaring "mul").isBlocked CorePlugin.name = false ∧
      (equippedWith (declaring "mul")).session.registry.names = ["mul", "echo", "add"] ∧
      ∃ d ∈ CorePlugin.definitions,
        (equippedWith (declaring "mul")).session.registry.contains d.name = false := by
  have hnames : (equippedWith (declaring "mul")).session.registry.names
      = ["mul", "echo", "add"] := by
    decide
  have hlost : ∃ d ∈ CorePlugin.definitions, d.name ∉ ["mul", "echo", "add"] := by decide
  obtain ⟨d, hd, hname⟩ := hlost
  refine ⟨by decide, by decide, hnames, d, hd, ?_⟩
  rw [← hnames, ← Registry.contains_iff, Bool.not_eq_true] at hname
  exact hname

end LineShell
