import LineShell.Parameter.Types
import LineShell.Proofs.Entries

/-! Registering types one after the other. A table only grows, a name keeps the parse function that
it was given first, and an offer that is refused leaves no trace. -/

namespace LineShell

open LineShell.Text

namespace TypeTable

def registerAll (t : TypeTable) : List (String × Option Parser) → List String × TypeTable
  | [] => ([], t)
  | (name, offer) :: rest =>
    match t.register name offer with
    | .ok (added, t) =>
      let later := t.registerAll rest
      (if added then name :: later.1 else later.1, later.2)
    | .error _ => t.registerAll rest

def acceptable (offers : List (String × Option Parser)) : Entries Parser :=
  offers.filterMap fun offer =>
    if isBlankText offer.1 then none else offer.2.map fun parser => (offer.1, parser)

variable {t t' : TypeTable} {name : String} {offer : Option Parser}

lemma contains_iff : t.contains name = true ↔ name ∈ t.names :=
  Entries.has_iff_mem_keys t.parsers name

lemma names_add (t : TypeTable) (name : String) (parser : Parser) :
    names ⟨t.parsers ++ [(name, parser)]⟩ = t.names ++ [name] :=
  List.map_append

lemma acceptable_cons (name : String) (offer : Option Parser)
    (offers : List (String × Option Parser)) :
    acceptable ((name, offer) :: offers) = acceptable [(name, offer)] ++ acceptable offers :=
  List.filterMap_append (l := [(name, offer)])

lemma register_cases (t : TypeTable) (name : String) (offer : Option Parser) :
    (acceptable [(name, offer)] = [] ∧ ∃ fault, t.register name offer = .error fault) ∨
      ∃ parser, acceptable [(name, offer)] = [(name, parser)] ∧
        (name ∈ t.names ∧ t.register name offer = .ok (false, t) ∨
          name ∉ t.names ∧
            t.register name offer = .ok (true, ⟨t.parsers ++ [(name, parser)]⟩)) := by
  cases hblank : isBlankText name with
  | true => exact .inl ⟨by simp [acceptable, hblank], .blankName, by simp [register, hblank]⟩
  | false =>
    cases offer with
    | none => exact .inl ⟨by simp [acceptable], .notCallable name, by simp [register, hblank]⟩
    | some parser =>
      refine .inr ⟨parser, by simp [acceptable, hblank], ?_⟩
      by_cases hname : name ∈ t.names
      · exact .inl ⟨hname, by simp [register, hblank, contains_iff.mpr hname]⟩
      · refine .inr ⟨hname, ?_⟩
        rw [← contains_iff, Bool.not_eq_true] at hname
        simp [register, hblank, hname]

lemma register_answer {answer : Bool} (h : t.register name offer = .ok (answer, t')) :
    answer = true ↔ name ∉ t.names ∧ name ∈ t'.names := by
  rcases register_cases t name offer with
    ⟨-, fault, hr⟩ | ⟨parser, -, ⟨hname, hr⟩ | ⟨hname, hr⟩⟩ <;> rw [hr] at h <;> cases h
  · simp [hname]
  · simp [hname, names_add]

lemma registerAll_cons (t : TypeTable) (name : String) (offer : Option Parser)
    (offers : List (String × Option Parser)) :
    (t.registerAll ((name, offer) :: offers) = t.registerAll offers ∧
        acceptable ((name, offer) :: offers) = acceptable offers) ∨
      ∃ parser, acceptable ((name, offer) :: offers) = (name, parser) :: acceptable offers ∧
        (name ∈ t.names ∧ t.registerAll ((name, offer) :: offers) = t.registerAll offers ∨
          name ∉ t.names ∧
            let later := registerAll ⟨t.parsers ++ [(name, parser)]⟩ offers
            t.registerAll ((name, offer) :: offers) = (name :: later.1, later.2)) := by
  rcases register_cases t name offer with
    ⟨hacc, fault, hr⟩ | ⟨parser, hacc, ⟨hname, hr⟩ | ⟨hname, hr⟩⟩ <;>
    rw [registerAll, hr, acceptable_cons, hacc]
  · exact .inl ⟨rfl, rfl⟩
  · exact .inr ⟨parser, rfl, .inl ⟨hname, rfl⟩⟩
  · exact .inr ⟨parser, rfl, .inr ⟨hname, rfl⟩⟩

lemma mem_of_mem_acceptable {offers : List (String × Option Parser)} {e : String × Parser}
    (h : e ∈ acceptable offers) : (e.1, some e.2) ∈ offers := by
  obtain ⟨offer, hoffer, h⟩ := List.mem_filterMap.mp h
  split at h
  · cases h
  · obtain ⟨parser, hparser, rfl⟩ := Option.map_eq_some_iff.mp h
    rwa [← hparser]

lemma exists_registerAll (t : TypeTable) (offers : List (String × Option Parser)) :
    ∃ more : Entries Parser, t.registerAll offers = (more.keys, ⟨t.parsers ++ more⟩) ∧
      ∀ e ∈ more, e ∈ acceptable offers := by
  induction offers generalizing t with
  | nil => exact ⟨[], by simp [registerAll, Entries.keys], by simp⟩
  | cons o offers ih =>
    rcases registerAll_cons t o.1 o.2 offers with
      ⟨h, hacc⟩ | ⟨parser, hacc, ⟨-, h⟩ | ⟨-, h⟩⟩ <;> rw [h, hacc]
    · exact ih t
    · obtain ⟨more, hmore, hmem⟩ := ih t
      exact ⟨more, hmore, fun e he => List.mem_cons_of_mem _ (hmem e he)⟩
    · obtain ⟨more, hmore, hmem⟩ := ih ⟨t.parsers ++ [(o.1, parser)]⟩
      refine ⟨(o.1, parser) :: more, by simp [hmore, Entries.keys], ?_⟩
      exact List.forall_mem_cons.mpr
        ⟨List.mem_cons_self, fun e he => List.mem_cons_of_mem _ (hmem e he)⟩

lemma names_registerAll (t : TypeTable) (offers : List (String × Option Parser)) :
    (t.registerAll offers).2.names = t.names ++ (t.registerAll offers).1 := by
  obtain ⟨more, hmore, -⟩ := t.exists_registerAll offers
  rw [hmore]
  exact List.map_append

lemma registerAll_fst (t : TypeTable) (offers : List (String × Option Parser)) :
    (t.registerAll offers).1 =
      ((acceptable offers).keys.filter fun name => name ∉ t.names).eraseDups := by
  induction offers generalizing t with
  | nil => rfl
  | cons o offers ih =>
    rcases registerAll_cons t o.1 o.2 offers with
      ⟨h, hacc⟩ | ⟨parser, hacc, ⟨hname, h⟩ | ⟨hname, h⟩⟩ <;> rw [h, hacc, ih]
    · simp [Entries.keys, hname]
    · have hfilter : (fun name => decide (name ∉ t.names ++ [o.1])) =
          fun name => (!name == o.1) && decide (name ∉ t.names) := by
        funext name
        rw [Bool.eq_iff_iff]
        simp [and_comm]
      simp only [names_add, hfilter, Entries.keys, List.map_cons, List.filter_cons, hname,
        not_false_eq_true, decide_true, if_true, List.eraseDups_cons, List.filter_filter]

lemma registerAll_append (t : TypeTable) (front behind : List (String × Option Parser)) :
    t.registerAll (front ++ behind) =
      let first := t.registerAll front
      (first.1 ++ (first.2.registerAll behind).1, (first.2.registerAll behind).2) := by
  induction front generalizing t with
  | nil => rfl
  | cons o front ih =>
    rw [List.cons_append, registerAll, registerAll]
    cases t.register o.1 o.2 with
    | error fault => exact ih t
    | ok made =>
      dsimp only
      rw [ih]
      cases made.1 <;> rfl

lemma nodup_registerAll (t : TypeTable) (offers : List (String × Option Parser)) :
    (t.registerAll offers).1.Nodup := by
  induction offers generalizing t with
  | nil => exact List.nodup_nil
  | cons o offers ih =>
    rcases registerAll_cons t o.1 o.2 offers with ⟨h, -⟩ | ⟨parser, -, ⟨-, h⟩ | ⟨-, h⟩⟩ <;> rw [h]
    · exact ih t
    · exact ih t
    · refine List.nodup_cons.mpr ⟨?_, ih _⟩
      simp [registerAll_fst, names_add]

lemma get?_registerAll (t : TypeTable) (offers : List (String × Option Parser)) (name : String) :
    (t.registerAll offers).2.parsers.get? name =
      (t.parsers.get? name).or ((acceptable offers).get? name) := by
  induction offers generalizing t with
  | nil => exact Option.or_none.symm
  | cons o offers ih =>
    rcases registerAll_cons t o.1 o.2 offers with
      ⟨h, hacc⟩ | ⟨parser, hacc, ⟨hname, h⟩ | ⟨-, h⟩⟩ <;> rw [h, hacc, ih]
    · obtain ⟨first, hfirst⟩ := Option.isSome_iff_exists.mp (contains_iff.mpr hname)
      by_cases heq : name = o.1
      · rw [heq, hfirst]
        rfl
      · rw [Entries.get?_cons, if_neg heq]
    · rw [Entries.get?_append, Option.or_assoc, Entries.get?_cons, Entries.get?_cons]
      split <;> simp

/-- What offers that are made one after the other come to: under every name the first function
stays, and the names told are those that were new. -/
structure FirstWins (t : TypeTable) (offers : List (String × Option Parser))
    (added : List String) (after : TypeTable) : Prop where
  names_eq : after.names = t.names ++ added
  nodup : added.Nodup
  new : ∀ name ∈ added, name ∉ t.names
  kept : ∀ name ∈ t.names, after.parsers.get? name = t.parsers.get? name
  first : ∀ name ∈ added, ∃ parser, after.parsers.get? name = some parser ∧
    (acceptable offers).get? name = some parser
  complete : ∀ name ∈ (acceptable offers).keys, name ∈ t.names ∨ name ∈ added
  -- in the order in which they were first offered
  order : added = ((acceptable offers).keys.filter fun name => name ∉ t.names).eraseDups

lemma registerAll_firstWins (t : TypeTable) (offers : List (String × Option Parser)) :
    t.FirstWins offers (t.registerAll offers).1 (t.registerAll offers).2 := by
  have hadded : ∀ name, name ∈ (t.registerAll offers).1 ↔
      name ∈ (acceptable offers).keys ∧ name ∉ t.names := by
    intro name
    simp [registerAll_fst]
  refine ⟨names_registerAll t offers, nodup_registerAll t offers, fun name hname =>
    ((hadded name).mp hname).2, fun name hname => ?_, fun name hname => ?_, fun name hname => ?_,
    registerAll_fst t offers⟩
  · obtain ⟨parser, hparser⟩ := Option.isSome_iff_exists.mp (contains_iff.mpr hname)
    rw [get?_registerAll, hparser]
    rfl
  · obtain ⟨hoffered, hnew⟩ := (hadded name).mp hname
    have hnone : t.parsers.get? name = none := Entries.get?_eq_none_iff.mpr hnew
    obtain ⟨parser, hparser⟩ :=
      Option.isSome_iff_exists.mp ((Entries.has_iff_mem_keys _ _).mpr hoffered)
    exact ⟨parser, by rw [get?_registerAll, hnone, hparser]; rfl, hparser⟩
  · by_cases hold : name ∈ t.names
    · exact .inl hold
    · exact .inr ((hadded name).mpr ⟨hname, hold⟩)

end TypeTable

end LineShell
