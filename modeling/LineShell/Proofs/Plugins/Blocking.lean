import LineShell.Proofs.Observers.Delivery
import LineShell.Proofs.Plugins.Builtin
import LineShell.Proofs.Plugins.Contributions
import LineShell.Proofs.Run.Kept

namespace LineShell

namespace PluginManager

def Barred (m : PluginManager) (name : String) : Prop :=
  m.isBlocked name = true ∧ name ∉ m.names

/-- Nothing is registered under the name, and nothing is taken from a plugin that goes by it. -/
structure Shuns (m : PluginManager) (name : String) : Prop where
  names : name ∉ m.names
  register : ∀ p given, resolveName p given = name → m.register p given = .ok (false, m)
  types : ∀ types log, TypeTable.Adds types
    (fun n parser => ∃ e ∈ m.entries, e.1 ≠ name ∧ e.2.Offers n parser) (m.loadTypes types log).1
  commands : ∀ r log, Registry.Adds r
    (fun c => ∃ e ∈ m.entries, e.1 ≠ name ∧ e.2.Declares c) (m.loadCommands r log).1.2
  observers : ∀ (r : Notice) s, ∃ told : Entries Plugin, (∀ e ∈ told, e ∈ m.entries ∧ e.1 ≠ name) ∧
    m.notify r.line r.ok r.output s = (told.findSome? fun e => e.2.breaksOff r,
      { s with journal := (told.flatMap fun e => e.2.events e.1 r).reverse ++ s.journal })

lemma findSome?_reached (r : Notice) (es : List (String × Plugin)) :
    (reached r es).findSome? (fun e => e.2.breaksOff r) =
      es.findSome? fun e => e.2.breaksOff r := by
  induction es with
  | nil => rfl
  | cons e es ih =>
    rw [reached, List.findSome?_cons, List.findSome?_cons]
    cases hends : e.2.breaksOff r with
    | some f => rfl
    | none => simpa using ih

variable {m m' : PluginManager} {name : String}

lemma loadCommands_snd (m : PluginManager) (r : Registry) (log : List String) :
    (m.loadCommands r log).1.2 = loaded m.entries r :=
  collectCommands_fst m.entries r log

namespace Barred

lemma shuns (h : m.Barred name) : m.Shuns name := by
  have hother : ∀ e ∈ m.entries, e.1 ≠ name :=
    fun e he heq => h.2 (heq ▸ List.mem_map_of_mem he)
  refine ⟨h.2, ?_, ?_, ?_, ?_⟩
  · intro p given hname
    rw [register, hname]
    exact if_pos h.1
  · intro types log
    refine (collectTypes_adds m.entries types log).mono ?_
    rintro n parser ⟨e, he, hoffers⟩
    exact ⟨e, he, hother e he, hoffers⟩
  · intro r log
    rw [loadCommands_snd]
    refine (loaded_adds m.entries r).mono ?_
    rintro c ⟨e, he, hdeclares⟩
    exact ⟨e, he, hother e he, hdeclares⟩
  · intro r s
    refine ⟨reached r m.observers, ?_, ?_⟩
    · intro e he
      have hentry := mem_entries_of_observers (mem_of_reached he)
      exact ⟨hentry, hother e hentry⟩
    · rw [notify, tell_apply, findSome?_reached, dispatched]

lemma of_block (m : PluginManager) (name : String) : (m.block name).Barred name := by
  refine ⟨?_, not_mem_erase m.entries name⟩
  rw [isBlocked, PluginManager.block]
  cases hb : m.isBlocked name with
  | true => exact hb
  | false => simp

lemma block (h : m.Barred name) (other : String) : (m.block other).Barred name := by
  by_cases hname : other = name
  · rw [hname]
    exact of_block m name
  · refine ⟨(isBlocked_block hname).trans h.1, fun hmem => h.2 ?_⟩
    exact (List.filter_sublist.map Prod.fst).subset hmem

lemma invariant (name : String) : Invariant (· ≠ name) fun m => m.Barred name where
  free h hfree := by
    rintro rfl
    rw [h.1] at hfree
    cases hfree
  held h hkey := by
    rintro rfl
    exact h.2 hkey
  add {m key} h hkey _ p := by
    refine ⟨h.1, ?_⟩
    rw [names, Entries.keys, List.map_append, List.mem_append, not_or]
    exact ⟨h.2, by simpa using hkey.symm⟩
  erase h key := ⟨h.1, fun hmem => h.2 ((List.filter_sublist.map Prod.fst).subset hmem)⟩
  block h other := h.block other
  loaded h := h

end Barred

lemma barred_empty {blocked : List String} (h : name ∈ blocked) : (empty blocked).Barred name :=
  ⟨List.contains_iff_mem.mpr h, List.not_mem_nil⟩

lemma barred_of_block {requests : List Request} (h : .block name ∈ requests)
    (m : PluginManager) : (requests.foldl serve m).Barred name := by
  obtain ⟨before, after, rfl⟩ := List.append_of_mem h
  rw [List.foldl_append, List.foldl_cons]
  exact (Barred.invariant name).serveAll (Barred.of_block _ name) after

lemma barred_given {settings : Settings} (h : name ∈ settings.plugins.disabled)
    (plugins : Option PluginManager) : (Interpreter.given (some settings) plugins).Barred name := by
  cases plugins with
  | none => exact barred_empty h
  | some m =>
    have hrequests : settings.plugins.disabled.foldl block m =
        (settings.plugins.disabled.map Request.block).foldl serve m := by
      rw [List.foldl_map]
      rfl
    rw [Interpreter.given]
    dsimp only [Option.elim]
    rw [hrequests]
    exact barred_of_block (List.mem_map_of_mem h) m

end PluginManager

open PluginManager

namespace Interpreter

inductive Turn
  | step (s : Step)
  | manage (request : Request)

def turn (i : Interpreter) : Turn → Interpreter
  | .step s => (i.run [s]).2
  | .manage request => { i with plugins := i.plugins.serve request }

def Rid (i : Interpreter) (name : String) : Prop :=
  i.plugins.Barred name ∧ name ∉ i.session.heard.map Prod.fst

/-- All that the interpreter has of plugins comes from those under other names. -/
def OwesNothing (i : Interpreter) (config : InterpreterConfig) (name : String) : Prop :=
  (∃ added, TypeTable.builtin.Adds
    (fun n parser => ∃ e ∈ i.plugins.entries, e.1 ≠ name ∧ e.2.Offers n parser)
    (added, i.session.registry.types)) ∧
  Registry.Adds (.empty i.session.registry.types config.maxDepth config.nested)
    (fun c => ∃ e ∈ i.plugins.entries, e.1 ≠ name ∧ e.2.Declares c) i.session.registry

lemma load_owesNothing {m : PluginManager} {name : String} (h : m.Barred name)
    (config : InterpreterConfig) (log : List String) :
    (load config m log).1.OwesNothing config name := by
  have htypes := h.shuns.types .builtin log
  obtain ⟨more, hmore, hdeclared⟩ := h.shuns.commands
    (.empty (m.loadTypes .builtin log).1.2 config.maxDepth config.nested) []
  rw [loadCommands_snd] at hmore
  rw [load_fst, OwesNothing]
  dsimp only [Session.start]
  rw [hmore]
  exact ⟨⟨_, htypes⟩, more, rfl, hdeclared⟩

lemma load_rid {m : PluginManager} {name : String} (h : m.Barred name)
    (config : InterpreterConfig) (log : List String) : (load config m log).1.Rid name := by
  rw [load_fst]
  exact ⟨h, List.not_mem_nil⟩

lemma execute_rid {i : Interpreter} {name : String} (h : i.Rid name) (line : String) :
    (i.execute line).2.Rid name := by
  obtain ⟨-, -, hplugins, -⟩ := i.execute_concluded line
  refine ⟨hplugins ▸ h.1, ?_⟩
  rw [execute_heard, List.map_append, List.mem_append, not_or, List.map_flatMap]
  refine ⟨h.2, fun hcalled => ?_⟩
  obtain ⟨r, -, hname⟩ := List.mem_flatMap.mp hcalled
  rw [List.map_map] at hname
  obtain ⟨called, hmem, rfl⟩ := List.mem_map.mp hname
  obtain ⟨e, he, hname⟩ := List.mem_map.mp ((called_sublist i.plugins r).subset hmem)
  exact h.1.2 (List.mem_map.mpr ⟨e, mem_entries_of_observers he, hname⟩)

lemma execute_types (i : Interpreter) (line : String) :
    (i.execute line).2.session.registry.types = i.session.registry.types := by
  obtain ⟨-, hsame, -⟩ := i.execute_concluded line
  rw [hsame.registry, conclude_snd]
  exact Run.Stays.iff.mp (execute_stays (Registry.closed_types _) i.budget line) _ rfl

lemma turn_rid {i : Interpreter} {name : String} (h : i.Rid name) (t : Turn) :
    (i.turn t).Rid name ∧ (i.turn t).session.registry.types = i.session.registry.types := by
  cases t with
  | manage request => exact ⟨⟨(Barred.invariant name).serve h.1 request, h.2⟩, rfl⟩
  | step s =>
    cases s with
    | execute line => exact ⟨execute_rid h line, i.execute_types line⟩
    | setTelemetry on => exact ⟨h, rfl⟩

lemma turns_rid {i : Interpreter} {name : String} (h : i.Rid name) (turns : List Turn) :
    (turns.foldl turn i).Rid name ∧
      (turns.foldl turn i).session.registry.types = i.session.registry.types := by
  induction turns generalizing i with
  | nil => exact ⟨h, rfl⟩
  | cons t turns ih =>
    obtain ⟨hturn, htypes⟩ := turn_rid h t
    obtain ⟨hlater, hsame⟩ := ih hturn
    exact ⟨hlater, hsame.trans htypes⟩

end Interpreter

/-- Once a name is blocked, whatever is asked of the plugins before and after: no plugin has it,
none is registered under it, and neither types nor commands nor answers to a line come from a
plugin under it. So it is with an interpreter and the names that its settings disable, over all of
its life and whatever was registered before it was built. -/
theorem blocked_for_good (name : String) :
    (∀ (blocked : List String) (requests : List Request),
      name ∈ blocked ∨ .block name ∈ requests →
        (requests.foldl serve (.empty blocked)).Shuns name) ∧
    ∀ installed settings plugins files log, name ∈ settings.plugins.disabled →
      let i := (Interpreter.buildAmong installed (some settings) plugins files log).1
      i.OwesNothing settings.interpreter name ∧
        ∀ turns : List Interpreter.Turn, let later := turns.foldl Interpreter.turn i
          later.plugins.Shuns name ∧ name ∉ later.session.heard.map Prod.fst ∧
            later.session.registry.types = i.session.registry.types := by
  constructor
  · rintro blocked requests (h | h)
    · exact ((Barred.invariant name).serveAll (barred_empty h) requests).shuns
    · exact (barred_of_block h _).shuns
  · intro installed settings plugins files log h i
    have hm : i.plugins.Barred name :=
      Interpreter.invariant_buildAmong (Barred.invariant name) (barred_given h plugins)
    obtain ⟨log', hloaded⟩ : ∃ log', i = (Interpreter.load settings.interpreter i.plugins log').1 :=
      Interpreter.buildAmong_loaded ..
    rw [hloaded]
    refine ⟨Interpreter.load_owesNothing hm settings.interpreter log', fun turns => ?_⟩
    have hrid := Interpreter.load_rid hm settings.interpreter log'
    obtain ⟨⟨hlater, hheard⟩, htypes⟩ := Interpreter.turns_rid hrid turns
    exact ⟨hlater.shuns, hheard, htypes⟩

def turnedAway : List Request :=
  [.register watcher (some "tools"), .unregister watcher, .register watcher (some "tools"),
    .block "tools", .register { watcher with isClass := true } (some "tools"),
    .discover [("tools", .ok watcher)] .empty (some ⟨"/", []⟩)]

def withoutTools : Settings where
  projectRoot := ⟨"/", []⟩
  configPath := none
  jsonOutput := false
  quiet := false
  verbose := false
  logJson := false
  interpreter := .default
  plugins := { PluginsConfig.default with disabled := ["tools"] }
  shell := .default

theorem tools_turned_away :
    ((.block "tools" ∈ turnedAway ∧ "tools" ∈ ((turnedAway.take 3).foldl serve (.empty [])).names) ∧
      (turnedAway.foldl serve (.empty [])).Shuns "tools") ∧
    ("tools" ∈ withoutTools.plugins.disabled ∧ "tools" ∈ (declaring "sub").names) ∧
      let i := (Interpreter.buildAmong [("tools", .ok watcher)] (some withoutTools)
        (some (declaring "sub")) .empty []).1
      i.OwesNothing .default "tools" ∧
        (i.turn (.manage (.register watcher (some "tools")))).plugins.Shuns "tools" := by
  have hblock : Request.block "tools" ∈ turnedAway := by simp [turnedAway]
  have hdisabled : "tools" ∈ withoutTools.plugins.disabled := by decide
  obtain ⟨hrequests, hinterpreter⟩ := blocked_for_good "tools"
  have hbuilt := hinterpreter [("tools", .ok watcher)] withoutTools (some (declaring "sub")) .empty
    [] hdisabled
  refine ⟨⟨⟨hblock, by decide⟩, hrequests [] turnedAway (.inr hblock)⟩, ⟨hdisabled, by decide⟩,
    hbuilt.1, ?_⟩
  exact (hbuilt.2 [.manage (.register watcher (some "tools"))]).1

end LineShell
