import LineShell.Proofs.Observers.Dispatch
import LineShell.Proofs.Parameter.Registration
import LineShell.Proofs.Plugins.Declaring

namespace LineShell

def TypeTable.Adds (types : TypeTable) (P : String → Parser → Prop)
    (added : List String × TypeTable) : Prop :=
  ∃ more : Entries Parser, added = (more.keys, ⟨types.parsers ++ more⟩) ∧ ∀ t ∈ more, P t.1 t.2

def Registry.Adds (r : Registry) (P : String × Command → Prop) (r' : Registry) : Prop :=
  ∃ more, r' = { r with commands := r.commands ++ more } ∧ ∀ e ∈ more, P e

namespace Plugin

def offeredTypes (p : Plugin) : List (String × Option Parser) :=
  match PluginManager.typeOffers? p with
  | some (.offers types) => types
  | _ => []

def Offers (p : Plugin) (name : String) (parser : Parser) : Prop :=
  p.isClass = false ∧ ∃ offers, p.typesHook = some (.offers offers) ∧ (name, some parser) ∈ offers

def Declares (p : Plugin) (e : String × Command) : Prop :=
  p.isClass = false ∧ ∃ declarations d r, p.commandsHook = some declarations ∧
    .ok d ∈ declarations ∧ Registry.build r d = .ok e.2 ∧ e.1 = d.name

lemma offers_of_mem {p : Plugin} {name : String} {parser : Parser}
    (h : (name, some parser) ∈ p.offeredTypes) : p.Offers name parser := by
  rw [offeredTypes, PluginManager.typeOffers?] at h
  cases hclass : p.isClass with
  | true =>
    rw [hclass] at h
    cases hhook : p.typesHook <;> rw [hhook] at h <;> cases h
  | false =>
    rw [hclass] at h
    match hhook : p.typesHook with
    | none | some .nothing | some (.raises _) | some .malformed =>
      rw [hhook] at h
      cases h
    | some (.offers offers) =>
      rw [hhook] at h
      exact ⟨hclass, offers, hhook, h⟩

end Plugin

namespace TypeTable.Adds

variable {types : TypeTable} {P Q : String → Parser → Prop}
  {added : List String × TypeTable}

lemma mono (h : types.Adds P added) (hPQ : ∀ name parser, P name parser → Q name parser) :
    types.Adds Q added := by
  obtain ⟨more, hadded, hmore⟩ := h
  exact ⟨more, hadded, fun t ht => hPQ t.1 t.2 (hmore t ht)⟩

end TypeTable.Adds

namespace Registry.Adds

variable {r r' r'' : Registry} {P Q : String × Command → Prop}

lemma refl (r : Registry) : r.Adds P r :=
  ⟨[], by rw [List.append_nil], by simp⟩

lemma trans (h : r.Adds P r') (h' : r'.Adds P r'') : r.Adds P r'' := by
  obtain ⟨more, rfl, hmore⟩ := h
  obtain ⟨more', rfl, hmore'⟩ := h'
  refine ⟨more ++ more', by rw [List.append_assoc], fun e he => ?_⟩
  rcases List.mem_append.mp he with he | he
  · exact hmore e he
  · exact hmore' e he

lemma mono (h : r.Adds P r') (hPQ : ∀ e, P e → Q e) : r.Adds Q r' := by
  obtain ⟨more, hr', hmore⟩ := h
  exact ⟨more, hr', fun e he => hPQ e (hmore e he)⟩

end Registry.Adds

namespace PluginManager

lemma addOffers_fst (plugin : String) (offers : List (String × Option Parser)) (types : TypeTable)
    (log : List String) : (addOffers plugin offers types log).1 = types.registerAll offers := by
  induction offers generalizing types log with
  | nil => rfl
  | cons offer offers ih =>
    obtain ⟨name, offer⟩ := offer
    rw [addOffers, TypeTable.registerAll]
    cases types.register name offer with
    | error fault => exact ih types _
    | ok made =>
      obtain ⟨added, types'⟩ := made
      dsimp only
      rw [← ih types' log]
      rfl

def offered (plugin : String) (p : Plugin) (types : TypeTable) :
    Logged (List String × TypeTable) :=
  match typeOffers? p with
  | none | some .nothing => pure ([], types)
  | some (.raises _) => do
    Logged.warn ("Failed to collect parameter types from plugin " ++ plugin)
    pure ([], types)
  | some .malformed => do
    Logged.warn ("Plugin " ++ plugin ++ " returned non-dict parameter type registrations")
    pure ([], types)
  | some (.offers offers) => addOffers plugin offers types

lemma collectTypes_cons (plugin : String) (p : Plugin) (es : Entries Plugin) (types : TypeTable)
    (log : List String) :
    (collectTypes ((plugin, p) :: es) types log).1 =
      let first := offered plugin p types log
      let later := (collectTypes es first.1.2 first.2).1
      (first.1.1 ++ later.1, later.2) := by
  rw [collectTypes, offered]
  match typeOffers? p with
  | none | some .nothing | some (.raises _) | some .malformed => rfl
  | some (.offers offers) => rfl

lemma offered_fst (plugin : String) (p : Plugin) (types : TypeTable) (log : List String) :
    (offered plugin p types log).1 = types.registerAll p.offeredTypes := by
  rw [offered, Plugin.offeredTypes]
  match typeOffers? p with
  | none | some .nothing | some (.raises _) | some .malformed => rfl
  | some (.offers offers) => exact addOffers_fst plugin offers types log

lemma collectTypes_fst (es : Entries Plugin) (types : TypeTable) (log : List String) :
    (collectTypes es types log).1 =
      types.registerAll (es.flatMap fun e => e.2.offeredTypes) := by
  induction es generalizing types log with
  | nil => rfl
  | cons e es ih =>
    rw [collectTypes_cons, List.flatMap_cons, TypeTable.registerAll_append]
    simp only [offered_fst, ih]

lemma collectTypes_adds (es : Entries Plugin) (types : TypeTable) (log : List String) :
    types.Adds (fun name parser => ∃ e ∈ es, e.2.Offers name parser)
      (collectTypes es types log).1 := by
  obtain ⟨more, hmore, hmem⟩ := types.exists_registerAll (es.flatMap fun e => e.2.offeredTypes)
  refine ⟨more, (collectTypes_fst es types log).trans hmore, fun t ht => ?_⟩
  obtain ⟨e, he, hoffered⟩ := List.mem_flatMap.mp (TypeTable.mem_of_mem_acceptable (hmem t ht))
  exact ⟨e, he, Plugin.offers_of_mem hoffered⟩

lemma declare_adds (ds : List (Except Exception (Definition Script))) (r : Registry) :
    r.Adds (fun e => ∃ d r', .ok d ∈ ds ∧ Registry.build r' d = .ok e.2 ∧ e.1 = d.name)
      (declare ds r).2 := by
  obtain ⟨own, hown, hturn⟩ := exists_turn ds r r.commands
  refine ⟨own, hown, fun e he => ?_⟩
  obtain ⟨d, hd, hname, hb, -⟩ := hturn.of_mem he
  exact ⟨d, r, hd, hb, hname⟩

lemma declared_adds (p : Plugin) (r : Registry) : r.Adds p.Declares (declared p r) := by
  rw [declared]
  cases hhook : p.commandsHook with
  | none => exact .refl r
  | some ds =>
    cases hclass : p.isClass with
    | true => exact .refl r
    | false =>
      refine (declare_adds ds r).mono ?_
      rintro e ⟨d, r', hd, hbuild, hname⟩
      exact ⟨hclass, ds, d, r', hhook, hd, hbuild, hname⟩

lemma loaded_adds (es : Entries Plugin) (r : Registry) :
    r.Adds (fun c => ∃ e ∈ es, e.2.Declares c) (loaded es r) := by
  induction es generalizing r with
  | nil => exact .refl r
  | cons e es ih =>
    refine ((declared_adds e.2 r).mono ?_).trans ((ih _).mono ?_)
    · exact fun c h => ⟨e, List.mem_cons_self, h⟩
    · rintro c ⟨e', he', h⟩
      exact ⟨e', List.mem_cons_of_mem _ he', h⟩

lemma mem_of_reached {r : Notice} {es : List (String × Plugin)} {e : String × Plugin}
    (h : e ∈ reached r es) : e ∈ es := by
  induction es with
  | nil => cases h
  | cons e' es ih =>
    rw [reached, List.mem_cons] at h
    rcases h with rfl | h
    · exact List.mem_cons_self
    · split at h
      · cases h
      · exact List.mem_cons_of_mem _ (ih h)

lemma mem_entries_of_observers {m : PluginManager} {e : String × Plugin} (h : e ∈ m.observers) :
    e ∈ m.entries := by
  rw [observers, List.mem_filter, List.mem_reverse] at h
  exact h.1

end PluginManager

end LineShell
