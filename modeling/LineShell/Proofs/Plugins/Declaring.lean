import LineShell.Proofs.Nesting.Core

/-! Declaring commands. A registry only grows, a name keeps the command that took it first, and what
comes after the first name that is taken is not declared. -/

namespace LineShell

open Registry

def Registry.Extends (r r' : Registry) : Prop :=
  ∃ more, r' = { r with commands := r.commands ++ more }

namespace Registry

/-- Why a declaration fails while some names are taken: the plugin fails on its own, the definition
breaks a rule, or its name is one of them. -/
inductive Declines (r : Registry) (taken : List String) :
    Except Exception (Definition Script) → Exception → Prop
  | own (failure : Exception) : Declines r taken (.error failure) failure
  | invalid {d : Definition Script} {e : CommandError} : r.build d = .error e →
      Declines r taken (.ok d) (.command e)
  | nameTaken {d : Definition Script} {c : Command} : r.build d = .ok c → d.name ∈ taken →
      Declines r taken (.ok d) (.command (.duplicateName d.name))

/-- The commands are those of the declarations before the first that fails. -/
structure Turn (r : Registry) (taken : List String)
    (declarations : List (Except Exception (Definition Script))) (own : Entries Command) :
    Prop where
  made : ∀ i e, own[i]? = some e → ∃ d, declarations[i]? = some (.ok d) ∧ e.1 = d.name ∧
    r.build d = .ok e.2 ∧ d.name ∉ taken ++ Entries.keys (own.take i)
  stops : ∀ declaration, declarations[own.length]? = some declaration →
    ∃ failure, r.Declines (taken ++ own.keys) declaration failure

variable {r r' r'' : Registry} {d : Definition Script} {c : Command} {name : String}
  {taken : List String} {declarations : List (Except Exception (Definition Script))}
  {own : Entries Command}

lemma Extends.refl (r : Registry) : r.Extends r :=
  ⟨[], by rw [List.append_nil]⟩

lemma Extends.trans (h : r.Extends r') (h' : r'.Extends r'') : r.Extends r'' := by
  obtain ⟨more, rfl⟩ := h
  obtain ⟨more', rfl⟩ := h'
  exact ⟨more ++ more', by rw [List.append_assoc]⟩

lemma Extends.names (h : r.Extends r') : ∃ more, r'.names = r.names ++ more := by
  obtain ⟨more, rfl⟩ := h
  exact ⟨more.map Prod.fst, List.map_append⟩

lemma contains_iff : r.contains name = true ↔ name ∈ r.names :=
  Entries.has_iff_mem_keys r.commands name

lemma get?_eq_none_iff : r.get? name = none ↔ name ∉ r.names := by
  rw [← contains_iff, contains, Entries.has, ← Registry.get?]
  simp

lemma Extends.get?_eq (h : r.Extends r') (hname : name ∈ r.names) :
    r'.get? name = r.get? name := by
  obtain ⟨more, rfl⟩ := h
  obtain ⟨c, hc⟩ := Option.isSome_iff_exists.mp (contains_iff.mpr hname)
  rw [Registry.get?, Entries.get?_append, hc, Registry.get?, hc]
  rfl

lemma build_name (h : r.build d = .ok c) : c.name = d.name := by
  obtain ⟨action, arity, hname, harity, -, rfl⟩ := build_eq_ok h
  rfl

lemma create_of_free (h : r.build d = .ok c) (hname : d.name ∉ r.names) :
    r.create d = .ok (c, { r with commands := r.commands ++ [(d.name, c)] }) := by
  have hfree : r.contains c.name = false := by
    rw [build_name h, Bool.eq_false_iff]
    exact fun hc => hname (contains_iff.mp hc)
  rw [create, h]
  change (r.add c >>= fun r => pure (c, r)) = _
  rw [add, hfree, ← build_name h]
  rfl

lemma create_of_taken (h : r.build d = .ok c) (hname : d.name ∈ r.names) :
    r.create d = .error (.duplicateName d.name) := by
  have htaken : r.contains c.name = true := by
    rw [build_name h]
    exact contains_iff.mpr hname
  rw [create, h]
  change (r.add c >>= fun r => pure (c, r)) = _
  rw [add, htaken, ← build_name h]
  rfl

lemma create_of_invalid {e : CommandError} (h : r.build d = .error e) : r.create d = .error e := by
  rw [create, h]
  rfl

lemma create_eq_error_iff {commands : Entries Command} {e : CommandError} :
    create { r with commands } d = .error e ↔ r.Declines commands.keys (.ok d) (.command e) := by
  constructor
  · intro h
    cases hb : r.build d with
    | error e' =>
      have hinvalid : create { r with commands } d = .error e' := create_of_invalid hb
      obtain rfl : e' = e := Except.error.inj (hinvalid.symm.trans h)
      exact .invalid hb
    | ok c =>
      by_cases hname : d.name ∈ commands.keys
      · have htaken : create { r with commands } d = _ := create_of_taken hb hname
        rw [htaken] at h
        cases h
        exact .nameTaken hb hname
      · have hfree : create { r with commands } d = _ := create_of_free hb hname
        rw [hfree] at h
        cases h
  · intro h
    cases h with
    | invalid hb => exact create_of_invalid hb
    | nameTaken hb hname => exact create_of_taken hb hname

lemma create_eq_duplicate_iff {commands : Entries Command} (hb : r.build d = .ok c) :
    create { r with commands } d = .error (.duplicateName d.name) ↔ d.name ∈ commands.keys := by
  rw [create_eq_error_iff]
  constructor
  · intro h
    cases h with
    | invalid he =>
      rw [hb] at he
      cases he
    | nameTaken _ hname => exact hname
  · exact .nameTaken hb

lemma Turn.nil_of_stops
    (h : ∀ declaration, declarations[0]? = some declaration →
      ∃ failure, r.Declines taken declaration failure) : r.Turn taken declarations [] where
  made i e he := by cases he
  stops declaration hd := by
    simpa [Entries.keys] using h declaration hd

lemma Turn.cons (hb : r.build d = .ok c) (hname : d.name ∉ taken)
    (h : r.Turn (taken ++ [d.name]) declarations own) :
    r.Turn taken (.ok d :: declarations) ((d.name, c) :: own) := by
  have hkeys : ∀ es : Entries Command,
      taken ++ Entries.keys ((d.name, c) :: es) = taken ++ [d.name] ++ es.keys := by
    simp [Entries.keys]
  refine ⟨fun i e he => ?_, fun declaration hd => ?_⟩
  · cases i with
    | zero =>
      cases he
      exact ⟨d, rfl, rfl, hb, by simpa [Entries.keys] using hname⟩
    | succ i =>
      rw [List.take_succ_cons, hkeys]
      exact h.made i e he
  · rw [hkeys]
    exact h.stops declaration hd

lemma Turn.of_mem (h : r.Turn taken declarations own) {e : String × Command} (he : e ∈ own) :
    ∃ d, .ok d ∈ declarations ∧ e.1 = d.name ∧ r.build d = .ok e.2 ∧ d.name ∉ taken := by
  obtain ⟨i, hi⟩ := List.mem_iff_getElem?.mp he
  obtain ⟨d, hd, hname, hb, hfree⟩ := h.made i e hi
  exact ⟨d, List.mem_of_getElem? hd, hname, hb, fun hmem => hfree (List.mem_append_left _ hmem)⟩

lemma Turn.not_mem (h : r.Turn taken declarations own) {name : String} (hname : name ∈ own.keys) :
    name ∉ taken := by
  obtain ⟨e, he, rfl⟩ := List.mem_map.mp hname
  obtain ⟨d, -, heq, -, hfree⟩ := h.of_mem he
  rwa [heq]

end Registry

def Registry.Keyed (r : Registry) : Prop :=
  ∀ e ∈ r.commands, e.1 = e.2.name

def Plugin.declarations (p : Plugin) : List (Except Exception (Definition Script)) :=
  if p.isClass then [] else p.commandsHook.getD []

namespace PluginManager

lemma exists_turn (ds : List (Except Exception (Definition Script))) (r : Registry)
    (commands : Entries Command) :
    ∃ own, (declare ds { r with commands }).2 = { r with commands := commands ++ own } ∧
      r.Turn commands.keys ds own := by
  induction ds generalizing commands with
  | nil => exact ⟨[], by rw [List.append_nil]; rfl, .nil_of_stops (by simp)⟩
  | cons declaration ds ih =>
    cases declaration with
    | error failure =>
      refine ⟨[], by rw [List.append_nil]; rfl, .nil_of_stops ?_⟩
      rintro _ ⟨⟩
      exact ⟨failure, .own failure⟩
    | ok d =>
      rw [declare]
      cases hc : create { r with commands } d with
      | error e =>
        refine ⟨[], by rw [List.append_nil], .nil_of_stops ?_⟩
        rintro _ ⟨⟩
        exact ⟨.command e, create_eq_error_iff.mp hc⟩
      | ok made =>
        obtain ⟨c, r'⟩ := made
        obtain ⟨hb, rfl⟩ := create_eq_ok hc
        have hname : d.name ∉ commands.keys := by
          intro hmem
          have htaken := (create_eq_duplicate_iff (r := r) hb).mpr hmem
          rw [hc] at htaken
          cases htaken
        rw [build_name hb]
        obtain ⟨own, hown, hturn⟩ := ih (commands ++ [(d.name, c)])
        rw [Entries.keys, List.map_append] at hturn
        exact ⟨(d.name, c) :: own, by simpa using hown, hturn.cons hb hname⟩

lemma declare_keyed (ds : List (Except Exception (Definition Script))) {r : Registry}
    (hr : r.Keyed) : (declare ds r).2.Keyed := by
  obtain ⟨own, (hown : (declare ds r).2 = _), hturn⟩ := exists_turn ds r r.commands
  rw [hown]
  intro e he
  rcases List.mem_append.mp he with he | he
  · exact hr e he
  · obtain ⟨d, -, hname, hb, -⟩ := hturn.of_mem he
    rw [hname, build_name hb]

lemma declare_extends (ds : List (Except Exception (Definition Script))) (r : Registry) :
    r.Extends (declare ds r).2 := by
  obtain ⟨own, hown, -⟩ := exists_turn ds r r.commands
  exact ⟨own, hown⟩

lemma declare_eq {ds : List (Definition Script)} {r : Registry}
    {made : Definition Script → Command} {free : Definition Script → Bool}
    (hmade : ∀ d ∈ ds, r.build d = .ok (made d)) (hnodup : (ds.map (·.name)).Nodup)
    (hfree : ∀ d ∈ ds, free d = true ↔ d.name ∉ r.names) :
    (declare (ds.map .ok) r).2 =
      { r with commands := r.commands ++ (ds.takeWhile free).map fun d => (d.name, made d) } := by
  induction ds generalizing r with
  | nil => simp [declare]
  | cons d ds ih =>
    rw [List.forall_mem_cons] at hmade hfree
    rw [List.map_cons, List.nodup_cons] at hnodup
    rw [List.map_cons, declare]
    by_cases hname : d.name ∈ r.names
    · have hstop : free d = false := by simpa [hname] using hfree.1
      rw [create_of_taken hmade.1 hname]
      simp [hstop]
    · have hgo : free d = true := hfree.1.mpr hname
      have hrest : ∀ d' ∈ ds, free d' = true ↔
          d'.name ∉ Registry.names { r with commands := r.commands ++ [(d.name, made d)] } := by
        intro d' hd'
        have hne : d'.name ≠ d.name := by
          intro heq
          exact hnodup.1 (heq ▸ List.mem_map_of_mem hd')
        simp [hfree.2 d' hd', Registry.names, Entries.keys, hne]
      have hgrown := ih (r := { r with commands := r.commands ++ [(d.name, made d)] })
        (fun d' hd' => hmade.2 d' hd') hnodup.2 hrest
      rw [create_of_free hmade.1 hname]
      dsimp only
      rw [hgrown]
      simp [hgo]

def declared (p : Plugin) (r : Registry) : Registry :=
  match p.commandsHook with
  | some declarations => if p.isClass then r else (declare declarations r).2
  | none => r

def loaded (es : Entries Plugin) (r : Registry) : Registry :=
  es.foldl (fun r e => declared e.2 r) r

lemma declared_eq (p : Plugin) (r : Registry) : declared p r = (declare p.declarations r).2 := by
  rw [declared, Plugin.declarations]
  cases p.commandsHook <;> cases p.isClass <;> rfl

lemma declared_extends (p : Plugin) (r : Registry) : r.Extends (declared p r) := by
  rw [declared_eq]
  exact declare_extends p.declarations r

lemma loaded_extends (es : Entries Plugin) (r : Registry) : r.Extends (loaded es r) := by
  induction es generalizing r with
  | nil => exact .refl r
  | cons e es ih => exact (declared_extends e.2 r).trans (ih _)

lemma collectCommands_fst (es : Entries Plugin) (r : Registry) (log : List String) :
    (collectCommands es r log).1 = loaded es r := by
  induction es generalizing r log with
  | nil => rfl
  | cons e es ih =>
    obtain ⟨name, p⟩ := e
    rw [collectCommands, loaded, List.foldl_cons, declared]
    cases p.commandsHook with
    | none => exact ih r log
    | some declarations =>
      cases p.isClass with
      | true => exact ih r _
      | false =>
        simp only [Bool.false_eq_true, if_false]
        rcases declare declarations r with ⟨complete, r'⟩
        cases complete <;> exact ih r' _

end PluginManager

end LineShell
