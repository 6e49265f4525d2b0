import LineShell.Interpreter
import LineShell.Proofs.Plugins.Discovery

/-! What all requests to plugins keep, and so the building of an interpreter. A request comes down
to adding plugins under names that are free, removing plugins and blocking names. -/

namespace LineShell

namespace PluginManager

/-- A property that lasts as plugins come and go, while new ones are given names of some kind. -/
structure Invariant (named : String → Prop) (P : PluginManager → Prop) : Prop where
  free : ∀ {m key}, P m → m.isBlocked key = false → named key
  held : ∀ {m key}, P m → key ∈ m.names → named key
  add : ∀ {m key}, P m → named key → key ∉ m.names → ∀ p,
    P { m with entries := m.entries ++ [(key, p)] }
  erase : ∀ {m}, P m → ∀ key, P { m with entries := m.entries.erase key }
  block : ∀ {m}, P m → ∀ key, P (m.block key)
  loaded : ∀ {m}, P m → P { m with isLoaded := true }

lemma not_mem_erase (es : Entries Plugin) (key : String) : key ∉ (es.erase key).keys := by
  simp [Entries.keys, Entries.erase]

lemma not_mem_names {m : PluginManager} {key : String} (h : m.entries.has key = false) :
    key ∉ m.names := by
  rw [names, ← Entries.has_iff_mem_keys, h]
  exact Bool.false_ne_true

namespace Invariant

variable {named : String → Prop} {P : PluginManager → Prop} (hP : Invariant named P)
  {m m' : PluginManager}

include hP

lemma register {p : Plugin} {given : Option String} {added : Bool} (h : P m)
    (hr : m.register p given = .ok (added, m')) : P m' := by
  rcases register_eq_ok hr with ⟨-, -, rfl⟩ | ⟨hfree, -, hnew, rfl⟩
  · exact h
  · exact hP.add h (hP.free h hfree) (not_mem_names hnew) p

lemma unregister {p : Plugin} (h : P m) (hu : m.unregister p = .ok m') : P m' := by
  rw [PluginManager.unregister] at hu
  split at hu
  · cases hu
    exact hP.erase h _
  · cases hu

lemma blockAll (h : P m) (names : List String) :
    P (names.foldl PluginManager.block m) := by
  induction names generalizing m with
  | nil => exact h
  | cons name names ih => exact ih (hP.block h name)

lemma loadInstalled (h : P m) (installed : Installed) : P (loadInstalled installed m).1 := by
  induction installed generalizing m with
  | nil => exact h
  | cons e rest ih =>
    obtain ⟨key, made⟩ := e
    unfold PluginManager.loadInstalled
    split
    · exact ih h
    · rename_i hfree
      rw [Bool.not_eq_true, Bool.or_eq_false_iff] at hfree
      cases made with
      | error f => exact h
      | ok p => exact ih (hP.add h (hP.free h hfree.2) (not_mem_names hfree.1) p)

lemma instantiateClasses (h : P m) {es : List (String × Plugin)} (hes : ∀ e ∈ es, named e.1)
    (log : List String) : P (instantiateClasses es m log).1 := by
  induction es generalizing m log with
  | nil => exact h
  | cons e es ih =>
    obtain ⟨key, p⟩ := e
    rw [List.forall_mem_cons] at hes
    rw [PluginManager.instantiateClasses]
    split
    · cases p.instantiate with
      | ok q =>
        exact ih (hP.add (hP.erase h key) hes.1 (not_mem_erase m.entries key) q) hes.2 log
      | error f => exact ih (hP.erase h key) hes.2 _
    · exact ih h hes.2 log

lemma registerLocals (h : P m) (file : Path) (cs : List Plugin) (log : List String) :
    P (registerLocals file cs m log).1 := by
  induction cs generalizing m log with
  | nil => exact h
  | cons c cs ih =>
    rw [PluginManager.registerLocals, Logged.bind_apply]
    refine ih ?_ _
    rw [registerLocal]
    cases c.instantiate with
    | error f => exact h
    | ok p =>
      dsimp only
      cases hr : m.register p (some (localName file.name)) with
      | error fault => exact h
      | ok made => exact hP.register h hr

lemma loadFiles (h : P m) (files : FileTree) (paths : List Path) (log : List String) :
    P (loadFiles files paths m log).1 := by
  induction paths generalizing m log with
  | nil => exact h
  | cons file paths ih =>
    rw [PluginManager.loadFiles, Logged.bind_apply]
    refine ih ?_ _
    rw [loadFile]
    cases files.program? file with
    | none => exact h
    | some classes => exact hP.registerLocals h file (localClasses classes) log

lemma discover (h : P m) (files : FileTree) (dir : Option Path) (log : List String) :
    P (m.discover files dir log).1.1 := by
  have hconverted := hP.instantiateClasses h
    (fun e he => hP.held h (List.mem_map_of_mem (f := Prod.fst) he)) log
  rw [PluginManager.discover, Logged.bind_apply]
  cases dir with
  | none => exact hP.loaded hconverted
  | some d =>
    dsimp only [Option.map_some]
    cases files.isDirectory d with
    | error fault => exact hconverted
    | ok found =>
      cases found with
      | false => exact hP.loaded hconverted
      | true => exact hP.loaded (hP.loadFiles hconverted files _ _)

lemma discoverAmong (h : P m) (installed : Installed) (files : FileTree) (dir : Option Path)
    (log : List String) : P (m.discoverAmong installed files dir log).1.1 := by
  have hloaded := hP.loadInstalled h installed
  rw [PluginManager.discoverAmong]
  dsimp only
  split
  · exact hloaded
  · exact hP.discover hloaded files dir log

lemma serve (h : P m) (request : Request) : P (m.serve request) := by
  cases request with
  | register p given =>
    rw [PluginManager.serve]
    split
    · rename_i hr
      exact hP.register h hr
    · exact h
  | unregister p =>
    rw [PluginManager.serve]
    split
    · rename_i hu
      exact hP.unregister h hu
    · exact h
  | block other => exact hP.block h other
  | discover installed files dir => exact hP.discoverAmong h installed files dir []

lemma serveAll (h : P m) (requests : List Request) :
    P (requests.foldl PluginManager.serve m) := by
  induction requests generalizing m with
  | nil => exact h
  | cons request requests ih => exact ih (hP.serve h request)

end Invariant

lemma nodup_invariant : Invariant (fun _ => True) fun m => m.names.Nodup where
  free _ _ := trivial
  held _ _ := trivial
  add {m key} h _ hname p := by
    rw [names, Entries.keys, List.map_append]
    refine List.nodup_append.mpr ⟨h, List.nodup_singleton _, ?_⟩
    rintro other hmem _ hkey rfl
    have hother : other = key := List.mem_singleton.mp hkey
    exact hname (hother ▸ hmem)
  erase h _ := h.sublist (List.filter_sublist.map Prod.fst)
  block h _ := h.sublist (List.filter_sublist.map Prod.fst)
  loaded h := h

end PluginManager

open PluginManager

namespace Interpreter

def given (settings : Option Settings) (plugins : Option PluginManager) : PluginManager :=
  let disabled := settings.elim [] (·.plugins.disabled)
  match plugins with
  | none => PluginManager.empty disabled
  | some m => disabled.foldl PluginManager.block m

def seated (settings : Option Settings) (plugins : Option PluginManager) : PluginManager :=
  let m := given settings plugins
  match m.register CorePlugin.plugin (some CorePlugin.name) with
  | .ok (_, m) => m
  | .error _ => m

def discovered (installed : Installed) (settings : Option Settings)
    (plugins : Option PluginManager) (files : FileTree) : Logged PluginManager :=
  match settings with
  | some s =>
    if s.plugins.discover then
      buildAmong.discover installed files s.localPluginDir (seated settings plugins)
    else pure (seated settings plugins)
  | none => pure (seated settings plugins)

def load (config : InterpreterConfig) (m : PluginManager) : Logged Interpreter := do
  let (_, types) ← m.loadTypes .builtin
  let (_, r) ← m.loadCommands (.empty types config.maxDepth config.nested)
  pure ⟨.start r, m, defaultBudget⟩

variable (installed : Installed) (settings : Option Settings) (plugins : Option PluginManager)
  (files : FileTree) (log : List String)

lemma buildAmong_eq :
    buildAmong installed settings plugins files =
      discovered installed settings plugins files
        >>= load (settings.elim .default (·.interpreter)) := by
  cases settings with
  | none => rfl
  | some s =>
    unfold buildAmong discovered
    dsimp only
    cases s.plugins.discover <;> rfl

lemma plugins_buildAmong :
    (buildAmong installed settings plugins files log).1.plugins =
      (discovered installed settings plugins files log).1 := by
  rw [buildAmong_eq]
  rfl

lemma buildAmong_loaded :
    ∃ log', (buildAmong installed settings plugins files log).1 =
      (load (settings.elim .default (·.interpreter))
        (buildAmong installed settings plugins files log).1.plugins log').1 := by
  refine ⟨(discovered installed settings plugins files log).2, ?_⟩
  rw [plugins_buildAmong, buildAmong_eq]
  rfl

variable {named : String → Prop} {P : PluginManager → Prop} {installed settings plugins files log}

lemma invariant_buildAmong (hP : Invariant named P) (h : P (given settings plugins)) :
    P (buildAmong installed settings plugins files log).1.plugins := by
  have hseated : P (seated settings plugins) :=
    hP.serve h (.register CorePlugin.plugin (some CorePlugin.name))
  rw [plugins_buildAmong]
  cases settings with
  | none => exact hseated
  | some s =>
    rw [discovered]
    split
    · have hfound := hP.discoverAmong hseated installed files (some s.localPluginDir) log
      rw [buildAmong.discover, Logged.bind_apply]
      dsimp only
      split <;> exact hfound
    · exact hseated

lemma nodup_buildAmong (h : ∀ m ∈ plugins, m.names.Nodup) :
    (buildAmong installed settings plugins files log).1.plugins.names.Nodup := by
  apply invariant_buildAmong nodup_invariant
  cases plugins with
  | none => exact List.nodup_nil
  | some m => exact nodup_invariant.blockAll (h m rfl) _

end Interpreter

end LineShell
