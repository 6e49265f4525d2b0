import LineShell.Proofs.Plugins.Declaring
import LineShell.Proofs.Entries

namespace LineShell

namespace PluginManager

open Registry

lemma exists_turns (es : Entries Plugin) (r : Registry) (commands : Entries Command) :
    ∃ turns : List (Entries Command), turns.length = es.length ∧
      loaded es { r with commands } = { r with commands := commands ++ turns.flatten } ∧
      ∀ i e turn, es[i]? = some e → turns[i]? = some turn →
        r.Turn (commands.keys ++ Entries.keys (turns.take i).flatten) e.2.declarations turn := by
  induction es generalizing commands with
  | nil => exact ⟨[], rfl, by simp [loaded], by simp⟩
  | cons e es ih =>
    obtain ⟨own, hown, hturn⟩ := exists_turn e.2.declarations r commands
    obtain ⟨turns, hlength, hloaded, hturns⟩ := ih (commands ++ own)
    refine ⟨own :: turns, congrArg Nat.succ hlength, ?_, fun i e' turn he hi => ?_⟩
    · rw [loaded, List.foldl_cons, declared_eq, hown, List.flatten_cons, ← List.append_assoc]
      exact hloaded
    · cases i with
      | zero =>
        cases he
        cases hi
        simpa [Entries.keys] using hturn
      | succ i => simpa [Entries.keys] using hturns i e' turn he hi

lemma loadCommands_fst (m : PluginManager) (r : Registry) (log : List String) :
    (m.loadCommands r log).1 = ((loaded m.entries r).names.filter fun n => !r.contains n,
      loaded m.entries r) := by
  rw [← collectCommands_fst m.entries r log]
  rfl

lemma not_mem_of_turns {es : Entries Plugin} {r : Registry} {turns : List (Entries Command)}
    (hlength : turns.length = es.length)
    (hturns : ∀ i e turn, es[i]? = some e → turns[i]? = some turn →
      r.Turn (r.names ++ Entries.keys (turns.take i).flatten) e.2.declarations turn)
    {name : String} (hname : name ∈ Entries.keys turns.flatten) : name ∉ r.names := by
  obtain ⟨e, he, rfl⟩ := List.mem_map.mp hname
  obtain ⟨turn, hturn, he⟩ := List.mem_flatten.mp he
  obtain ⟨i, hi⟩ := List.mem_iff_getElem?.mp hturn
  obtain ⟨hlt, -⟩ := List.getElem?_eq_some_iff.mp hi
  have hplugin := List.getElem?_eq_getElem (hlength ▸ hlt)
  have hfree := (hturns i _ turn hplugin hi).not_mem (List.mem_map_of_mem he)
  exact fun hmem => hfree (List.mem_append_left _ hmem)

lemma filter_names_append {r : Registry} {added : List String}
    (hnew : ∀ name ∈ added, name ∉ r.names) :
    (r.names ++ added).filter (fun n => !r.contains n) = added := by
  have hold : r.names.filter (fun n => !r.contains n) = [] := by
    rw [List.filter_eq_nil_iff]
    intro name hname
    simp [contains_iff.mpr hname]
  have hall : added.filter (fun n => !r.contains n) = added := by
    rw [List.filter_eq_self]
    intro name hname
    rw [Bool.not_eq_true', ← Bool.not_eq_true, contains_iff]
    exact hnew name hname
  rw [List.filter_append, hold, hall, List.nil_append]

end PluginManager

/-- Loading commands comes to its end whatever the plugins do, and leaves the commands that were
there as they were. The names told are those that are added, plugin by plugin: each plugin has its
turn, up to its first declaration that fails. For its name one fails just if an earlier command, be
it a plugin's or not, goes by it. -/
theorem loadCommands_takes_turns (m : PluginManager) (r : Registry) (log : List String) :
    ∃ (turns : List (Entries Command)) (after : Registry) (log' : List String),
      m.loadCommands r log = ((Entries.keys turns.flatten, after), log') ∧
      after = { r with commands := r.commands ++ turns.flatten } ∧
      after.names = r.names ++ Entries.keys turns.flatten ∧
      (∀ name ∈ r.names, after.get? name = r.get? name) ∧
      turns.length = m.entries.length ∧
      (∀ i plugin turn, m.entries[i]? = some plugin → turns[i]? = some turn →
        r.Turn (r.names ++ Entries.keys (turns.take i).flatten) plugin.2.declarations turn) ∧
      ∀ (added : Entries Command) (d : Definition Script),
        let current := { r with commands := r.commands ++ added }
        (∀ e, current.create d = .error e ↔
          r.Declines (r.names ++ added.keys) (.ok d) (.command e)) ∧
        ∀ c, r.build d = .ok c → (current.create d = .error (.duplicateName d.name) ↔
          d.name ∈ r.names ∨ d.name ∈ added.keys) := by
  obtain ⟨turns, hlength, hloaded, hturns⟩ := PluginManager.exists_turns m.entries r r.commands
  have hnames : (PluginManager.loaded m.entries r).names =
      r.names ++ Entries.keys turns.flatten := by
    rw [hloaded]
    exact List.map_append
  have hkeys : ∀ added : Entries Command,
      Entries.keys (r.commands ++ added) = r.names ++ added.keys :=
    fun added => List.map_append
  have hnew : ∀ name ∈ Entries.keys turns.flatten, name ∉ r.names :=
    fun name hname => PluginManager.not_mem_of_turns hlength hturns hname
  refine ⟨turns, PluginManager.loaded m.entries r, (m.loadCommands r log).2, ?_, hloaded, hnames,
    fun name hname => (PluginManager.loaded_extends m.entries r).get?_eq hname, hlength, hturns,
    fun added d => ⟨fun e => ?_, fun c hb => ?_⟩⟩
  · refine Prod.ext ?_ rfl
    rw [PluginManager.loadCommands_fst, hnames, PluginManager.filter_names_append hnew]
  · rw [Registry.create_eq_error_iff, hkeys]
  · rw [Registry.create_eq_duplicate_iff hb, hkeys, List.mem_append]

def saying (name : String) : Definition Script :=
  CorePlugin.define name "" [] fun _ => .done name

def crewMember (serial : Nat) (declarations : List (Except Exception (Definition Script))) :
    Plugin where
  serial := serial
  className := "Member"
  isClass := false
  startup := none
  typesHook := none
  commandsHook := some declarations
  observer := none

-- one plugin fails on its own, one for a name that the other took, one for a name of two words
def crew : PluginManager where
  entries :=
    [("half", crewMember 1 [.ok (saying "first"), .error (.raised "RuntimeError" "broken"),
        .ok (saying "lost")]),
      ("double", crewMember 2 [.ok (saying "ping"), .ok (saying "first"), .ok (saying "never")]),
      ("odd", crewMember 3 [.ok (saying "two words"), .ok (saying "lost")])]
  blocked := []
  isLoaded := false

def manned : Registry :=
  (PluginManager.declare [.ok (saying "old")] (.empty .builtin 3 true)).2

theorem taken_name_ends_turn :
    ∃ (turns : List (Entries Command)) (after : Registry) (log' : List String),
      crew.loadCommands manned [] = ((["first", "ping"], after), log') ∧
      after.names = ["old", "first", "ping"] ∧
      "old" ∈ manned.names ∧ after.get? "old" = manned.get? "old" ∧
      (∃ turn, turns[1]? = some turn ∧
        manned.Turn (["old"] ++ Entries.keys (turns.take 1).flatten)
          [.ok (saying "ping"), .ok (saying "first"), .ok (saying "never")] turn) ∧
      (∃ c, manned.build (saying "old") = .ok c) ∧
      Registry.create { manned with commands := manned.commands ++ [] } (saying "old") =
        .error (.duplicateName "old") := by
  obtain ⟨turns, after, log', hload, -, hnames, hkept, hlength, hturns, hfails⟩ :=
    loadCommands_takes_turns crew manned []
  have hold : manned.names = ["old"] := by decide
  have hmem : "old" ∈ manned.names := by decide
  have htold : Entries.keys turns.flatten = ["first", "ping"] := by
    have hcomputed : (crew.loadCommands manned []).1.1 = ["first", "ping"] := by decide
    rwa [hload] at hcomputed
  have hsecond : 1 < turns.length := by
    rw [hlength]
    decide
  rw [htold] at hload hnames
  rw [hold] at hnames
  refine ⟨turns, after, log', hload, hnames, hmem, hkept _ hmem,
    ⟨turns[1], List.getElem?_eq_getElem hsecond, ?_⟩, ⟨_, rfl⟩,
    ((hfails [] (saying "old")).2 _ rfl).mpr (.inl hmem)⟩
  exact hold ▸ hturns 1 _ _ rfl (List.getElem?_eq_getElem hsecond)

end LineShell
