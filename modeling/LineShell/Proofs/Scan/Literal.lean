import LineShell.Execution
import LineShell.Proofs.Scan.Boundary

/-! Scans that leave every group as it is written. No character is lost but the quotes that delimit
and the spaces that separate, and the token of a group is its text with the braces around it. -/

namespace LineShell.Scan

def literally (st : State) (c : Char) : State :=
  match step 0 st c with
  | .next st' => st'
  | .limit => st
  | .resolve text andThen => andThen (Command.literal text)

def Braces.keeps (b : Braces) (c : Char) : Bool :=
  b.openGroups ≠ 0 || (c ≠ '"' && (b.inQuote || c ≠ ' '))

def Braces.keptFrom (b : Braces) : List Char → List Char
  | [] => []
  | c :: rest => if b.keeps c then c :: keptFrom (b.read c) rest else keptFrom (b.read c) rest

/-- The text without the quotes that delimit and the spaces that separate. -/
def kept (line : String) : String :=
  String.ofList (Braces.start.keptFrom line.toList)

def Mode.spelled : Mode → List Char
  | .bare word => word.reverse
  | .quoted word => word.reverse
  | .grouped word group outer =>
    word.reverse ++ (group :: outer).reverse.flatMap fun text => '\x7b' :: text.reverse

def State.spelled (st : State) : List Char :=
  st.tokens.reverse.flatMap String.toList ++ st.mode.spelled

variable {st st' : State} {c : Char}

lemma flatMap_addWord (word : List Char) (tokens : List String) :
    (addWord word tokens).reverse.flatMap String.toList =
      tokens.reverse.flatMap String.toList ++ word.reverse := by
  cases word <;> simp [addWord, textOf]

lemma toList_literal_textOf (group : List Char) :
    (Command.literal (textOf group)).toList = '\x7b' :: group.reverse ++ ['\x7d'] := by
  simp [Command.literal, textOf]

lemma spelled_of_step_next {maxDepth : Int} (h : step maxDepth st c = .next st') :
    st'.spelled = st.spelled ++ if st.braces.keeps c then [c] else [] := by
  obtain ⟨tokens, mode, justClosed⟩ := st
  cases mode with
  | bare word =>
    simp only [step, bareStep] at h
    split_ifs at h <;> cases h <;>
      simp_all [State.spelled, Mode.spelled, State.braces, Braces.keeps, flatMap_addWord]
  | quoted word =>
    simp only [step, quotedStep] at h
    split_ifs at h <;> cases h <;>
      simp_all [State.spelled, Mode.spelled, State.braces, Braces.keeps, textOf]
  | grouped word group outer =>
    simp only [step, groupedStep] at h
    split_ifs at h <;> cases h <;>
      simp_all [State.spelled, Mode.spelled, State.braces, Braces.keeps]

lemma spelled_of_step_resolve {maxDepth : Int} {text : String} {andThen : String → State}
    (h : step maxDepth st c = .resolve text andThen) :
    (andThen (Command.literal text)).spelled =
      st.spelled ++ if st.braces.keeps c then [c] else [] := by
  obtain ⟨rfl, tokens, word, group, outer, justClosed, rfl, rfl, rfl⟩ := eq_of_step_resolve h
  cases outer <;>
    simp [closeGroup, State.spelled, Mode.spelled, State.braces, Braces.keeps, flatMap_addWord,
      toList_literal_textOf]

lemma spelled_literally (st : State) (c : Char) :
    (literally st c).spelled = st.spelled ++ if st.braces.keeps c then [c] else [] := by
  rw [literally]
  cases hstep : step 0 st c with
  | next st' => exact spelled_of_step_next hstep
  | limit => exact absurd hstep (step_zero_ne_limit st c)
  | resolve text andThen => exact spelled_of_step_resolve hstep

lemma braces_literally (st : State) (c : Char) : (literally st c).braces = st.braces.read c := by
  rw [literally]
  cases hstep : step 0 st c with
  | next st' => exact braces_of_step_next hstep
  | limit => exact absurd hstep (step_zero_ne_limit st c)
  | resolve text andThen => exact braces_of_step_resolve hstep _

lemma braces_foldl_literally (s : List Char) (st : State) :
    (s.foldl literally st).braces = s.foldl Braces.read st.braces := by
  induction s generalizing st with
  | nil => rfl
  | cons c s ih => rw [List.foldl_cons, ih, braces_literally, List.foldl_cons]

lemma spelled_foldl_literally (s : List Char) (st : State) :
    (s.foldl literally st).spelled = st.spelled ++ st.braces.keptFrom s := by
  induction s generalizing st with
  | nil => rw [List.foldl_nil, Braces.keptFrom, List.append_nil]
  | cons c s ih =>
    rw [List.foldl_cons, ih, spelled_literally, braces_literally, Braces.keptFrom]
    split <;> simp

lemma flatMap_finish_of_closed (h : st.braces.Closed) :
    st.finish.flatMap String.toList = st.spelled := by
  obtain ⟨tokens, word, justClosed, rfl⟩ := eq_bare_of_closed h
  rw [State.finish, flatMap_addWord]
  rfl

lemma literally_behind (earlier : List String) (st : State) (c : Char) :
    literally (st.behind earlier) c = (literally st c).behind earlier := by
  rw [literally, literally, step_behind]
  cases step 0 st c <;> rfl

lemma foldl_literally_behind (earlier : List String) (s : List Char) (st : State) :
    s.foldl literally (st.behind earlier) = (s.foldl literally st).behind earlier := by
  induction s generalizing st with
  | nil => rfl
  | cons c s ih => rw [List.foldl_cons, literally_behind, ih, List.foldl_cons]

section Monadic

variable {m : Type → Type} [Monad m] [LawfulMonad m]

lemma run_literal (s : List Char) (st : State) :
    run 0 (fun text => (pure (Command.literal text) : m String)) st s =
      pure (.ok (s.foldl literally st)) := by
  induction s generalizing st with
  | nil => rfl
  | cons c s ih =>
    rw [run, List.foldl_cons, literally]
    cases hstep : step 0 st c with
    | next st' => exact ih st'
    | limit => exact absurd hstep (step_zero_ne_limit st c)
    | resolve text andThen =>
      dsimp only
      rw [pure_bind, ih]

lemma scan_literal {maxDepth : Nat} {line : String} (h : maxDepth = 0 ∨ depth line ≤ maxDepth) :
    scan maxDepth (fun text => (pure (Command.literal text) : m String)) line =
      pure (.ok (line.toList.foldl literally .start).finish) := by
  have hzero : scan 0 (fun text => (pure (Command.literal text) : m String)) line =
      pure (.ok (line.toList.foldl literally .start).finish) := by
    rw [scan, run_literal, pure_bind]
    rfl
  rcases Nat.eq_zero_or_pos maxDepth with rfl | hpos
  · exact hzero
  · have hdepth : depth line ≤ maxDepth := h.resolve_left (Nat.ne_of_gt hpos)
    rw [scan_eq_of_pos _ hpos, if_pos hdepth, hzero]

end Monadic

/-- The text of an outermost group: the brace that closes the group is the next one to follow. -/
def IsBody (inner : String) : Prop :=
  (inner.toList.foldl Braces.read ⟨1, false, false⟩).openGroups = 1 ∧
    ∀ p, p <+: inner.toList → (p.foldl Braces.read ⟨1, false, false⟩).openGroups ≠ 0

def OpensGroup (before : String) : Prop :=
  (bracesAfter before).openGroups = 0 ∧ (bracesAfter before).opens '\x7b' = true

namespace Braces

lemma openGroups_read_eq_zero {b : Braces} {c : Char} (hb : b.openGroups ≠ 0)
    (h : (b.read c).openGroups = 0) : c = '\x7d' ∧ b.openGroups = 1 := by
  rw [read] at h
  split at h
  · cases h
  · split at h
    · rename_i hclose
      simp only [Bool.and_eq_true, decide_eq_true_eq] at hclose h
      exact ⟨hclose.1, by omega⟩
    · simp_all

lemma exists_close {b : Braces} {s : List Char} (hb : b.openGroups ≠ 0)
    (h : (s.foldl read b).openGroups = 0) :
    ∃ inner after, s = inner ++ '\x7d' :: after ∧ (inner.foldl read b).openGroups = 1 ∧
      ∀ p, p <+: inner → (p.foldl read b).openGroups ≠ 0 := by
  induction s generalizing b with
  | nil => exact absurd h hb
  | cons c s ih =>
    rw [List.foldl_cons] at h
    by_cases hc : (b.read c).openGroups = 0
    · obtain ⟨rfl, hone⟩ := openGroups_read_eq_zero hb hc
      refine ⟨[], s, rfl, hone, fun p hp => ?_⟩
      rw [List.prefix_nil.mp hp]
      exact hb
    · obtain ⟨inner, after, rfl, hone, hopen⟩ := ih hc h
      refine ⟨c :: inner, after, rfl, hone, fun p hp => ?_⟩
      cases p with
      | nil => exact hb
      | cons c' p =>
        obtain ⟨rfl, hrest⟩ := List.cons_prefix_cons.mp hp
        exact hopen p hrest

lemma keptFrom_eq {b : Braces} {s : List Char}
    (h : ∀ p, p <+: s → (p.foldl read b).openGroups ≠ 0) : b.keptFrom s = s := by
  induction s generalizing b with
  | nil => rfl
  | cons c s ih =>
    have hb : b.openGroups ≠ 0 := h [] List.nil_prefix
    have hkeeps : b.keeps c = true := by simp [keeps, hb]
    rw [keptFrom, if_pos hkeeps, ih]
    intro p hp
    exact h (c :: p) (List.cons_prefix_cons.mpr ⟨rfl, hp⟩)

end Braces

section Grouped

variable (tokens : List String) (word group : List Char) {outer : List (List Char)}
  {justClosed : Bool}

lemma literally_grouped
    (h : (Braces.read ⟨outer.length + 1, false, justClosed⟩ c).openGroups ≠ 0) :
    ∃ group' outer' j, literally ⟨tokens, .grouped word group outer, justClosed⟩ c =
      ⟨tokens, .grouped word group' outer', j⟩ := by
  simp only [literally, step, groupedStep, reaches_zero]
  split_ifs with hopens hlimit hclose
  · cases hlimit
  · exact ⟨_, _, _, rfl⟩
  · cases outer with
    | nil =>
      subst hclose
      simp [Braces.read, Braces.opens] at h
    | cons around outer => exact ⟨_, _, _, rfl⟩
  · exact ⟨_, _, _, rfl⟩

lemma foldl_literally_grouped {s : List Char}
    (h : ∀ p, p <+: s →
      (p.foldl Braces.read ⟨outer.length + 1, false, justClosed⟩).openGroups ≠ 0) :
    ∃ group' outer' j, s.foldl literally ⟨tokens, .grouped word group outer, justClosed⟩ =
      ⟨tokens, .grouped word group' outer', j⟩ := by
  induction s generalizing group outer justClosed with
  | nil => exact ⟨group, outer, justClosed, rfl⟩
  | cons c s ih =>
    have hfirst := h [c] (List.cons_prefix_cons.mpr ⟨rfl, List.nil_prefix⟩)
    obtain ⟨group', outer', j, hstep⟩ :=
      literally_grouped tokens word group hfirst
    have hbraces := braces_literally ⟨tokens, .grouped word group outer, justClosed⟩ c
    rw [hstep] at hbraces
    rw [List.foldl_cons, hstep]
    apply ih
    intro p hp
    have hrest := h (c :: p) (List.cons_prefix_cons.mpr ⟨rfl, hp⟩)
    rw [List.foldl_cons] at hrest
    have hstart : (⟨outer'.length + 1, false, j⟩ : Braces) = _ := hbraces
    rw [hstart]
    exact hrest

lemma foldl_literally_body {inner : String} (h : IsBody inner) :
    ∃ j, inner.toList.foldl literally ⟨tokens, .grouped word [] [], false⟩ =
      ⟨tokens, .grouped word inner.toList.reverse [], j⟩ := by
  obtain ⟨hone, hopen⟩ := h
  have hstart : State.braces ⟨tokens, .grouped word [] [], false⟩ = ⟨1, false, false⟩ := rfl
  obtain ⟨group, outer, j, hgroup⟩ :
      ∃ group outer j, inner.toList.foldl literally ⟨tokens, .grouped word [] [], false⟩ =
        ⟨tokens, .grouped word group outer, j⟩ := foldl_literally_grouped tokens word [] hopen
  have hbraces := braces_foldl_literally inner.toList ⟨tokens, .grouped word [] [], false⟩
  have hspelled := spelled_foldl_literally inner.toList ⟨tokens, .grouped word [] [], false⟩
  rw [hgroup] at hbraces hspelled
  have houter : outer = [] := by
    have hlevel := congrArg Braces.openGroups hbraces
    rw [hstart, hone] at hlevel
    change outer.length + 1 = 1 at hlevel
    exact List.eq_nil_of_length_eq_zero (by omega)
  subst houter
  have hkept : Braces.keptFrom ⟨1, false, false⟩ inner.toList = inner.toList :=
    Braces.keptFrom_eq hopen
  have hinner : group.reverse = inner.toList := by
    simpa [State.spelled, Mode.spelled, hstart, hkept] using hspelled
  refine ⟨j, ?_⟩
  rw [hgroup, ← hinner, List.reverse_reverse]

end Grouped

variable {before inner rest : String}

lemma closed_of_opensGroup (h : OpensGroup before) :
    (before.toList.foldl literally .start).braces.Closed ∧
      (before.toList.foldl literally .start).justClosed = false := by
  obtain ⟨hzero, hopens⟩ := h
  have hbraces : (before.toList.foldl literally .start).braces = bracesAfter before :=
    braces_foldl_literally before.toList .start
  simp only [Braces.opens, Bool.and_eq_true, Bool.not_eq_true'] at hopens
  have hclosed : (before.toList.foldl literally .start).braces.Closed := by
    rw [hbraces]
    exact ⟨hzero, hopens.1.2⟩
  refine ⟨hclosed, ?_⟩
  rw [← hbraces] at hopens
  obtain ⟨tokens, word, justClosed, hst⟩ := eq_bare_of_closed hclosed
  rw [hst] at hopens ⊢
  exact hopens.2

lemma finish_of_group (hopens : OpensGroup before) (hbody : IsBody inner) (after : String) :
    ((before ++ "\x7b" ++ (inner ++ "\x7d" ++ after)).toList.foldl literally .start).finish =
      (before.toList.foldl literally .start).finish ++
        Command.literal inner :: (after.toList.foldl literally ⟨[], .bare [], true⟩).finish := by
  have hline : (before ++ "\x7b" ++ (inner ++ "\x7d" ++ after)).toList =
      before.toList ++ '\x7b' :: (inner.toList ++ '\x7d' :: after.toList) := by simp
  obtain ⟨hclosed, hescape⟩ := closed_of_opensGroup hopens
  obtain ⟨tokens, word, justClosed, hbefore⟩ := eq_bare_of_closed hclosed
  rw [hbefore] at hescape ⊢
  simp only at hescape
  subst hescape
  obtain ⟨j, hinner⟩ := foldl_literally_body tokens word hbody
  have hopen : literally ⟨tokens, .bare word, false⟩ '\x7b' =
      ⟨tokens, .grouped word [] [], false⟩ := by
    simp [literally, step, bareStep, reaches_zero]
  have hclose : literally ⟨tokens, .grouped word inner.toList.reverse [], j⟩ '\x7d' =
      State.behind (State.finish ⟨tokens, .bare word, false⟩ ++ [Command.literal inner])
        ⟨[], .bare [], true⟩ := by
    simp [literally, step, groupedStep, closeGroup, State.behind, State.finish, textOf]
  rw [hline, List.foldl_append, List.foldl_cons, List.foldl_append, List.foldl_cons, hbefore, hopen,
    hinner, hclose, foldl_literally_behind, finish_behind, List.append_assoc, List.singleton_append]

lemma exists_body (hopens : OpensGroup before) (hclosed : Closed (before ++ "\x7b" ++ rest)) :
    ∃ inner after, rest = inner ++ "\x7d" ++ after ∧ IsBody inner := by
  have hread : (bracesAfter before).read '\x7b' = ⟨1, false, false⟩ := by
    rw [Braces.read, if_pos hopens.2, hopens.1]
  have hend : (rest.toList.foldl Braces.read ⟨1, false, false⟩).openGroups = 0 := by
    have hline : (before ++ "\x7b" ++ rest).toList = before.toList ++ '\x7b' :: rest.toList := by
      simp
    rw [Closed, bracesAfter, hline, List.foldl_append, List.foldl_cons] at hclosed
    rw [← hread]
    exact hclosed.1
  have hone : (⟨1, false, false⟩ : Braces).openGroups ≠ 0 := Nat.one_ne_zero
  obtain ⟨inner, after, hrest, hlevel, hopen⟩ := Braces.exists_close hone hend
  refine ⟨String.ofList inner, String.ofList after, ?_, ?_, ?_⟩
  · apply String.toList_inj.mp
    simp [hrest]
  · rwa [String.toList_ofList]
  · rwa [String.toList_ofList]

lemma Braces.depthFrom_le_append (b : Braces) (s t : List Char) :
    b.depthFrom s ≤ b.depthFrom (s ++ t) := by
  induction s generalizing b with
  | nil => exact b.le_depthFrom t
  | cons c s ih => exact max_le_max (Nat.le_refl _) (ih _)

lemma depth_le_append (before rest : String) : depth before ≤ depth (before ++ rest) := by
  rw [depth, depth, String.toList_append]
  exact Braces.depthFrom_le_append _ _ _

lemma join_finish {line : String} (h : Closed line) :
    String.join (line.toList.foldl literally .start).finish = kept line := by
  have hclosed : (line.toList.foldl literally .start).braces.Closed := by
    rw [braces_foldl_literally]
    exact h
  apply String.toList_inj.mp
  rw [String.toList_join, flatMap_finish_of_closed hclosed, spelled_foldl_literally, kept,
    String.toList_ofList]
  rfl

end LineShell.Scan
