import LineShell.Proofs.Observers.Outcome
import LineShell.Proofs.Plugins.Requests

/-! Which observers hear of which lines. A dispatch that ends at an observer is lost on those
registered before it. -/

namespace LineShell

open PluginManager

def Event.hearing? : Event → Option (String × Notice)
  | .observed name line ok output => some (name, ⟨line, ok, output⟩)
  | _ => none

def Session.heard (s : Session) : List (String × Notice) :=
  s.journal.reverse.filterMap Event.hearing?

def heardBy (name : String) (hearings : List (String × Notice)) : List Notice :=
  (hearings.filter fun h => h.1 = name).map Prod.snd

def Notice.ofOutcome (line : String) (o : Outcome) : Notice where
  line := line
  ok := o.ok
  output :=
    match o.data.get? "output" with
    | some (.string text) => some text
    | _ => none

/-- The notice goes with what came of a line. Only lines that end the program may have none. -/
def Notice.Fits (line : String) (result : Except Failure Outcome) (notice : Option Notice) : Prop :=
  match result with
  | .ok o => notice = some (.ofOutcome line o)
  | .error (.exception _) => notice = some ⟨line, false, none⟩
  | .error (.exit _) => ∀ r ∈ notice, r.line = line

namespace PluginManager

def called (m : PluginManager) (r : Notice) : List String :=
  ((reached r m.observers).filter fun e => !e.2.isClass).map Prod.fst

/-- The notice gets to every observer: none is a class, and none but the last fails. -/
def GetsThrough (m : PluginManager) (r : Notice) : Prop :=
  (∀ e ∈ m.observers, e.2.isClass = false) ∧
    ∀ e ∈ m.observers.dropLast, e.2.breaksOff r = none

lemma reached_sublist (r : Notice) (es : List (String × Plugin)) :
    (reached r es).Sublist es := by
  induction es with
  | nil => exact List.Sublist.slnil
  | cons e es ih =>
    rw [reached]
    apply List.Sublist.cons_cons
    split
    · exact List.nil_sublist es
    · exact ih

lemma reached_eq_iff (r : Notice) (es : List (String × Plugin)) :
    reached r es = es ↔ ∀ e ∈ es.dropLast, e.2.breaksOff r = none := by
  induction es with
  | nil => simp [reached]
  | cons e es ih =>
    cases es with
    | nil => simp [reached]
    | cons e' es =>
      cases hends : e.2.breaksOff r with
      | some f => simp [reached, hends]
      | none =>
        rw [List.dropLast_cons_cons, List.forall_mem_cons, ← ih, reached, hends]
        simp

lemma dispatched_heard (r : Notice) {es : List (String × Plugin)}
    (hes : ∀ e ∈ es, e.2.observer.isSome) :
    (dispatched r es).filterMap Event.hearing? =
      ((reached r es).filter fun e => !e.2.isClass).map fun e => (e.1, r) := by
  have hevents : ∀ e : String × Plugin, e.2.observer.isSome →
      (e.2.events e.1 r).filterMap Event.hearing? = if e.2.isClass then [] else [(e.1, r)] := by
    intro e he
    obtain ⟨observer, ho⟩ := Option.isSome_iff_exists.mp he
    have hnotes : ∀ notes : List Datum,
        (notes.map fun d => Event.noted "observed" d).filterMap Event.hearing? = [] := by
      intro notes
      simp [List.filterMap_eq_nil_iff, Event.hearing?]
    cases hc : e.2.isClass with
    | true => simp [Plugin.events, hc]
    | false => simp [Plugin.events, hc, ho, Event.hearing?, hnotes]
  have hreached := fun e h => hevents e (hes e ((reached_sublist r es).subset h))
  rw [dispatched]
  generalize reached r es = called at hreached ⊢
  induction called with
  | nil => rfl
  | cons e rest ih =>
    rw [List.flatMap_cons, List.filterMap_append, hreached e List.mem_cons_self,
      ih fun e' he' => hreached e' (List.mem_cons_of_mem e he')]
    cases hc : e.2.isClass <;> simp [hc]

lemma observers_nodup {m : PluginManager} (h : m.names.Nodup) :
    (m.observers.map Prod.fst).Nodup := by
  have hsub : (m.observers.map Prod.fst).Sublist (m.entries.reverse.map Prod.fst) :=
    List.filter_sublist.map Prod.fst
  rw [List.map_reverse] at hsub
  exact (List.nodup_reverse.mpr h).sublist hsub

lemma called_sublist (m : PluginManager) (r : Notice) :
    (m.called r).Sublist (m.observers.map Prod.fst) :=
  (List.filter_sublist.trans (reached_sublist r m.observers)).map Prod.fst

lemma called_eq_iff (m : PluginManager) (r : Notice) :
    m.called r = m.observers.map Prod.fst ↔ m.GetsThrough r := by
  constructor
  · intro h
    -- Both steps from the observers to the called ones give a sublist, here of the same length.
    have hlength := congrArg List.length h
    rw [called, List.length_map, List.length_map] at hlength
    have hreached := reached_sublist r m.observers
    have hfiltered : ((reached r m.observers).filter fun e => !e.2.isClass).Sublist
        (reached r m.observers) := List.filter_sublist
    have hall := hreached.eq_of_length_le (hlength ▸ hfiltered.length_le)
    have hkept := (hfiltered.trans hreached).eq_of_length_le hlength.ge
    refine ⟨?_, (reached_eq_iff r m.observers).mp hall⟩
    intro e he
    rw [← hkept, List.mem_filter] at he
    simpa using he.2
  · rintro ⟨hclass, hends⟩
    have hkept : m.observers.filter (fun e => !e.2.isClass) = m.observers := by
      rw [List.filter_eq_self]
      intro e he
      simp [hclass e he]
    rw [called, (reached_eq_iff r m.observers).mpr hends, hkept]

lemma forall_mem_called_iff {m : PluginManager} (h : m.names.Nodup) (r : Notice) :
    (∀ e ∈ m.observers, e.1 ∈ m.called r) ↔ m.GetsThrough r := by
  rw [← called_eq_iff]
  have hsub := m.called_sublist r
  constructor
  · intro hall
    have hsubset : m.observers.map Prod.fst ⊆ m.called r := by
      intro name hname
      obtain ⟨e, he, rfl⟩ := List.mem_map.mp hname
      exact hall e he
    exact hsub.eq_of_length_le ((observers_nodup h).subperm hsubset).length_le
  · intro heq e he
    rw [heq]
    exact List.mem_map_of_mem he

end PluginManager

lemma heardBy_append (name : String) (as bs : List (String × Notice)) :
    heardBy name (as ++ bs) = heardBy name as ++ heardBy name bs := by
  rw [heardBy, List.filter_append, List.map_append]
  rfl

lemma heardBy_call (name : String) (r : Notice) {names : List String} (h : names.Nodup) :
    heardBy name (names.map fun n => (n, r)) = if name ∈ names then [r] else [] := by
  have hfilter : ∀ names : List String, heardBy name (names.map fun n => (n, r))
      = (names.filter fun n => n = name).map fun _ => r := by
    intro names
    rw [heardBy, List.filter_map, List.map_map]
    rfl
  rw [hfilter]
  by_cases hmem : name ∈ names
  · have hcount : names.count name = 1 := List.count_eq_one_of_mem h hmem
    simp [List.filter_eq, hcount, hmem]
  · have hcount : names.count name = 0 := List.count_eq_zero_of_not_mem hmem
    simp [List.filter_eq, hcount, hmem]

lemma heardBy_calls (name : String) {names : Notice → List String} (h : ∀ r, (names r).Nodup)
    (notices : List Notice) :
    heardBy name (notices.flatMap fun r => (names r).map fun n => (n, r)) =
      notices.filter fun r => name ∈ names r := by
  induction notices with
  | nil => rfl
  | cons r notices ih =>
    rw [List.flatMap_cons, heardBy_append, heardBy_call name r (h r), ih]
    by_cases hmem : name ∈ names r <;> simp [hmem]

namespace Interpreter

variable (i : Interpreter) (line : String)

def notice? : Option Notice :=
  match Run.handled (LineShell.execute i.budget line i.session).1 with
  | .ok result => some (.of line result)
  | .error _ => none

def notices? : Interpreter → List String → List (Option Notice)
  | _, [] => []
  | i, line :: lines => i.notice? line :: (i.execute line).2.notices? lines

lemma notice?_cases :
    (∃ result, Run.handled (LineShell.execute i.budget line i.session).1 = .ok result ∧
      i.notice? line = some (.of line result)) ∨
    ∃ code, (LineShell.execute i.budget line i.session).1 = .error (.exit code) ∧
      i.notice? line = none := by
  rcases handled_cases (LineShell.execute i.budget line i.session).1 with
    ⟨code, hexit⟩ | ⟨result, hresult⟩
  · exact .inr ⟨code, hexit, by rw [notice?, hexit]; rfl⟩
  · exact .inl ⟨result, hresult, by rw [notice?, hresult]⟩

lemma settled_fits (result : Except Exception String) (warnings : List String) :
    Notice.Fits line (settled line result warnings) (some (.of line result)) := by
  cases result with
  | ok text => exact rfl
  | error e =>
    rw [settled_eq, outcomeOf]
    cases OutcomeError.ofException (leadingWord line) e <;> exact rfl

lemma ending_fits (result : Except Exception String) (told : Option Failure) :
    Notice.Fits line (ending line result told) (some (.of line result)) := by
  rcases told with _ | _ | code
  · exact settled_fits line result []
  · exact settled_fits line result [observerWarning]
  · rintro r ⟨⟩
    rfl

lemma notice?_fits : Notice.Fits line (i.execute line).1 (i.notice? line) := by
  have hbare : Notice.Fits line ((i.execute line).1.map Outcome.bare) (i.notice? line) →
      Notice.Fits line (i.execute line).1 (i.notice? line) := by
    rcases (i.execute line).1 with (e | code) | o <;> exact id
  apply hbare
  rw [(i.execute_concluded line).1]
  rcases i.notice?_cases line with ⟨result, hhandled, hnotice⟩ | ⟨code, hexit, hnotice⟩
  · rw [conclude_eq i.plugins hhandled, hnotice]
    exact ending_fits line result _
  · rw [conclude_of_exit i.plugins hexit, hnotice]
    rintro r ⟨⟩

lemma execute_heard :
    (i.execute line).2.session.heard = i.session.heard ++
      (i.notice? line).toList.flatMap fun r => (i.plugins.called r).map fun name => (name, r) := by
  obtain ⟨-, hsame, -⟩ := i.execute_concluded line
  obtain ⟨inner, hinner, hrun⟩ := execute_journal i.budget line i.session
  have hsilent : inner.reverse.filterMap Event.hearing? = [] := by
    rw [List.filterMap_eq_nil_iff]
    intro e he
    have hof := hrun e (List.mem_reverse.mp he)
    cases e with
    | observed => exact hof.elim
    | _ => rfl
  have hobservers : ∀ e ∈ i.plugins.observers, e.2.observer.isSome :=
    fun e he => (List.mem_filter.mp he).2
  rcases i.notice?_cases line with ⟨result, hhandled, hnotice⟩ | ⟨code, hexit, hnotice⟩
  · rw [conclude_eq i.plugins hhandled] at hsame
    rw [Session.heard, hsame.journal, told, hinner, hnotice]
    simp only [List.reverse_append, List.reverse_reverse, List.filterMap_append, hsilent,
      List.append_nil, dispatched_heard _ hobservers, Option.toList_some, List.flatMap_singleton]
    rw [called, List.map_map]
    rfl
  · rw [conclude_of_exit i.plugins hexit] at hsame
    rw [Session.heard, hsame.journal, hinner, hnotice, List.reverse_append, List.filterMap_append,
      hsilent, Option.toList_none, List.flatMap_nil]
    rfl

variable {i}

lemma run_heard (lines : List String) :
    (i.run (lines.map .execute)).2.session.heard = i.session.heard ++
      (i.notices? lines).reduceOption.flatMap fun r =>
        (i.plugins.called r).map fun name => (name, r) := by
  induction lines generalizing i with
  | nil => simp [run, notices?]
  | cons line lines ih =>
    have hplugins : (i.execute line).2.plugins = i.plugins := (i.execute_concluded line).2.2.1
    have hrest := ih (i := (i.execute line).2)
    have hcons : (i.notices? (line :: lines)).reduceOption =
        (i.notice? line).toList ++ ((i.execute line).2.notices? lines).reduceOption := by
      rw [notices?]
      cases i.notice? line <;> rfl
    rw [execute_heard, hplugins, List.append_assoc] at hrest
    rw [hcons, List.flatMap_append]
    exact hrest

lemma run_fits (lines : List String) :
    List.Forall₂ (fun p n => Notice.Fits p.1 p.2 n)
      (lines.zip (i.run (lines.map .execute)).1) (i.notices? lines) := by
  induction lines generalizing i with
  | nil => exact .nil
  | cons line lines ih => exact .cons (i.notice?_fits line) ih

end Interpreter

/-- Whichever lines are executed, the observers are told of these alone and in their order, a line
whose run ends the program apart. A line is told to the observers in turn, the latest first, up to
one that fails or is a class; so all of them hear of all lines just if none is a class and none but
the first registered ever fails. -/
theorem observers_hear_iff (i : Interpreter) (lines : List String) (h : i.plugins.names.Nodup) :
    let ran := i.run (lines.map .execute)
    let notices := (i.notices? lines).reduceOption
    List.Forall₂ (fun p n => Notice.Fits p.1 p.2 n) (lines.zip ran.1) (i.notices? lines) ∧
    ∃ hearings, ran.2.session.heard = i.session.heard ++ hearings ∧
      (hearings = notices.flatMap fun r => (i.plugins.called r).map fun name => (name, r)) ∧
      (∀ e ∈ i.plugins.observers,
        heardBy e.1 hearings = notices.filter fun r => e.1 ∈ i.plugins.called r) ∧
      ((∀ e ∈ i.plugins.observers, heardBy e.1 hearings = notices) ↔
        ∀ r ∈ notices, i.plugins.GetsThrough r) := by
  have hcalled : ∀ r, (i.plugins.called r).Nodup :=
    fun r => (observers_nodup h).sublist (called_sublist i.plugins r)
  have hby := fun name => heardBy_calls name hcalled (i.notices? lines).reduceOption
  refine ⟨Interpreter.run_fits lines, _, Interpreter.run_heard lines, rfl, fun e _ => hby e.1, ?_⟩
  calc (∀ e ∈ i.plugins.observers, heardBy e.1 _ = (i.notices? lines).reduceOption)
      ↔ ∀ e ∈ i.plugins.observers, ∀ r ∈ (i.notices? lines).reduceOption,
          e.1 ∈ i.plugins.called r := by
        simp only [hby, List.filter_eq_self, decide_eq_true_eq]
    _ ↔ ∀ r ∈ (i.notices? lines).reduceOption, ∀ e ∈ i.plugins.observers,
          e.1 ∈ i.plugins.called r := by
        constructor <;> exact fun hall a ha b hb => hall b hb a ha
    _ ↔ ∀ r ∈ (i.notices? lines).reduceOption, i.plugins.GetsThrough r := by
        simp only [forall_mem_called_iff h]

def firstFaulty : Interpreter :=
  attendedBy [("faulty", faulty), ("watcher", watcher)]

def lastFaulty : Interpreter :=
  attendedBy [("watcher", watcher), ("faulty", faulty)]

lemma attendedBy_nodup {plugins : Entries Plugin} (h : plugins.keys.Nodup) :
    (attendedBy plugins).plugins.names.Nodup := by
  apply Interpreter.nodup_buildAmong
  rintro _ ⟨⟩
  exact h

theorem firstFaulty_heard :
    firstFaulty.plugins.names.Nodup ∧
      let ran := firstFaulty.run (["echo hi", "echo \x7badd\x7d"].map .execute)
      heardBy "watcher" ran.2.session.heard
        = (firstFaulty.notices? ["echo hi", "echo \x7badd\x7d"]).reduceOption := by
  have hnames : firstFaulty.plugins.names.Nodup := attendedBy_nodup (by decide)
  have hobservers : firstFaulty.plugins.observers
    = [("watcher", watcher), ("faulty", faulty)] := rfl
  have hthrough : ∀ r, firstFaulty.plugins.GetsThrough r := by
    intro r
    rw [GetsThrough, hobservers]
    simp [watcher, faulty, Plugin.breaksOff]
  obtain ⟨-, hearings, hheard, -, -, hall⟩ :=
    observers_hear_iff firstFaulty ["echo hi", "echo \x7badd\x7d"] hnames
  have hwatcher := hall.mpr (fun r _ => hthrough r) ("watcher", watcher) (by simp [hobservers])
  refine ⟨hnames, ?_⟩
  dsimp only
  rw [hheard]
  exact hwatcher

/-- The failure of the observer that is registered last hides the line from the other. -/
theorem lastFaulty_hides :
    lastFaulty.plugins.names.Nodup ∧ ("watcher", watcher) ∈ lastFaulty.plugins.observers ∧
      lastFaulty.plugins.isBlocked "watcher" = false ∧
      lastFaulty.notices? ["echo hi"] = [some ⟨"echo hi", true, some "hi"⟩] ∧
      let ran := lastFaulty.run [.execute "echo hi"]
      ran.2.session.heard = [("faulty", ⟨"echo hi", true, some "hi"⟩)] ∧
        heardBy "watcher" ran.2.session.heard = [] := by
  refine ⟨attendedBy_nodup (by decide), ?_, by decide, by decide, by decide, by decide⟩
  exact List.mem_cons_of_mem _ List.mem_cons_self

end LineShell
