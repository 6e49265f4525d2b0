import LineShell.Plugin.Local
import Mathlib

namespace LineShell.PluginManager

def held (m : PluginManager) (name : String) : Entries Plugin :=
  m.entries.filter fun e => e.1 = name

variable {m m' : PluginManager} {name other : String}

lemma held_eq_nil_iff : m.held name = [] ↔ name ∉ m.names := by
  rw [held, List.filter_eq_nil_iff, names, Entries.keys, List.mem_map]
  simp only [decide_eq_true_eq, not_exists, not_and]

lemma filter_erase (es : Entries Plugin) (h : other ≠ name) :
    (es.erase other).filter (fun e => e.1 = name) = es.filter fun e => e.1 = name := by
  rw [Entries.erase, List.filter_filter]
  apply List.filter_congr
  intro e _
  by_cases he : e.1 = name
  · simp [he, h.symm]
  · simp [he]

lemma held_block (h : other ≠ name) : (m.block other).held name = m.held name :=
  filter_erase m.entries h

lemma isBlocked_block (h : other ≠ name) : (m.block other).isBlocked name = m.isBlocked name := by
  rw [isBlocked, isBlocked, block]
  cases hb : m.isBlocked other with
  | true => simp
  | false => simp [h.symm]

lemma held_blockAll {names : List String} (h : name ∉ names) :
    (names.foldl block m).held name = m.held name ∧
      (names.foldl block m).isBlocked name = m.isBlocked name := by
  induction names generalizing m with
  | nil => exact ⟨rfl, rfl⟩
  | cons other names ih =>
    rw [List.mem_cons, not_or] at h
    have hother : other ≠ name := fun heq => h.1 heq.symm
    rw [List.foldl_cons, (ih h.2).1, (ih h.2).2]
    exact ⟨held_block hother, isBlocked_block hother⟩

lemma register_eq_ok {p : Plugin} {given : Option String} {added : Bool}
    (h : m.register p given = .ok (added, m')) :
    (m.isBlocked (resolveName p given) = true ∧ added = false ∧ m' = m) ∨
      (m.isBlocked (resolveName p given) = false ∧ added = true ∧
        m.entries.has (resolveName p given) = false ∧
        m' = { m with entries := m.entries ++ [(resolveName p given, p)] }) := by
  rw [register] at h
  split at h
  · rename_i hblocked
    obtain ⟨rfl, rfl⟩ := Prod.mk.inj (Except.ok.inj h)
    exact .inl ⟨hblocked, rfl, rfl⟩
  · rename_i hfree
    split at h
    · cases h
    · rename_i hnew
      obtain ⟨rfl, rfl⟩ := Prod.mk.inj (Except.ok.inj h)
      rw [Bool.not_eq_true] at hfree hnew
      exact .inr ⟨hfree, rfl, hnew, rfl⟩

lemma held_register {p : Plugin} {given : Option String} {added : Bool}
    (h : m.register p given = .ok (added, m')) (hname : resolveName p given ≠ name) :
    m'.held name = m.held name := by
  rcases register_eq_ok h with ⟨-, -, rfl⟩ | ⟨-, -, -, rfl⟩
  · rfl
  · simp [held, hname]

lemma Logged.bind_apply {α β : Type} (x : Logged α) (f : α → Logged β) (log : List String) :
    (x >>= f) log = f (x log).1 (x log).2 := rfl

lemma held_instantiateClasses {es : List (String × Plugin)}
    (h : ∀ e ∈ es, e.2.isClass = true → e.1 ≠ name) (log : List String) :
    (instantiateClasses es m log).1.held name = m.held name := by
  induction es generalizing m log with
  | nil => rfl
  | cons e es ih =>
    obtain ⟨key, p⟩ := e
    rw [List.forall_mem_cons] at h
    rw [instantiateClasses]
    by_cases hclass : (p.isClass && p.hasHooks) = true
    · have hkey : key ≠ name := h.1 (Bool.and_eq_true_iff.mp hclass).1
      rw [if_pos hclass]
      cases p.instantiate with
      | ok q =>
        refine (ih h.2 log).trans ?_
        rw [held, List.filter_append, filter_erase m.entries hkey]
        simp [held, hkey]
      | error f => exact (ih h.2 _).trans (filter_erase m.entries hkey)
    · rw [if_neg hclass]
      exact ih h.2 log

lemma resolveName_local (p : Plugin) (file : String) :
    resolveName p (some (localName file)) = localName file := by
  have hne : localName file ≠ "" := by
    intro h
    have hlist := congrArg String.toList h
    simp [localName, localNameStart, String.toList_append] at hlist
  rw [resolveName]
  exact hne

def NotLocal (name : String) : Prop :=
  ∀ file, localName file ≠ name

section Local

variable (hname : NotLocal name)

include hname

lemma held_registerLocal (file : Path) (c : Plugin) (log : List String) :
    (registerLocal file c m log).1.held name = m.held name := by
  rw [registerLocal]
  cases c.instantiate with
  | error f => rfl
  | ok p =>
    dsimp only
    cases hr : m.register p (some (localName file.name)) with
    | error fault => rfl
    | ok made =>
      apply held_register hr
      rw [resolveName_local]
      exact hname file.name

lemma held_registerLocals (file : Path) (cs : List Plugin) (log : List String) :
    (registerLocals file cs m log).1.held name = m.held name := by
  induction cs generalizing m log with
  | nil => rfl
  | cons c cs ih =>
    rw [registerLocals, Logged.bind_apply]
    exact (ih _).trans (held_registerLocal hname file c log)

lemma held_loadFiles (files : FileTree) (paths : List Path) (log : List String) :
    (loadFiles files paths m log).1.held name = m.held name := by
  induction paths generalizing m log with
  | nil => rfl
  | cons file paths ih =>
    rw [loadFiles, Logged.bind_apply]
    refine (ih _).trans ?_
    rw [loadFile]
    cases files.program? file with
    | none => rfl
    | some classes => exact held_registerLocals hname file (localClasses classes) log

lemma held_discover (hclass : ∀ e ∈ m.held name, e.2.isClass = false) (files : FileTree)
    (dir : Option Path) (log : List String) :
    (m.discover files dir log).1.1.held name = m.held name := by
  have hconverted : ∀ log, (instantiateClasses m.entries m log).1.held name = m.held name := by
    apply held_instantiateClasses
    rintro e he hc rfl
    have hplain := hclass e (by simp [held, he])
    rw [hc] at hplain
    cases hplain
  rw [discover, Logged.bind_apply]
  cases dir with
  | none => exact hconverted log
  | some d =>
    dsimp only [Option.map_some]
    cases files.isDirectory d with
    | error fault => exact hconverted log
    | ok found =>
      cases found with
      | false => exact hconverted log
      | true =>
        refine Eq.trans ?_ (hconverted log)
        exact held_loadFiles hname files _ _

end Local

end LineShell.PluginManager
