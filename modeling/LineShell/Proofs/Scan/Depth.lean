import LineShell.Proofs.Scan.Invariants

/-! How many groups of a text are open at once, and what a limit on that does to a scan. The quotes
and braces of the text alone settle it: what groups are replaced by plays no part. -/

namespace LineShell.Scan

/-- The quotes and braces of a text up to some place in it: how many groups are open there, whether
a quote is, and whether one of these has just closed. -/
structure Braces where
  openGroups : Nat
  inQuote : Bool
  justClosed : Bool
  deriving DecidableEq, Repr

namespace Braces

def start : Braces := ⟨0, false, false⟩

def opens (b : Braces) (c : Char) : Bool :=
  c = '\x7b' && !b.inQuote && !b.justClosed

def read (b : Braces) (c : Char) : Braces :=
  if b.opens c then ⟨b.openGroups + 1, false, false⟩
  else if c = '\x7d' && b.openGroups ≠ 0 then ⟨b.openGroups - 1, false, true⟩
  else if c = '"' && b.openGroups = 0 then ⟨0, !b.inQuote, b.inQuote⟩
  else ⟨b.openGroups, b.inQuote, false⟩

def depthFrom (b : Braces) : List Char → Nat
  | [] => b.openGroups
  | c :: rest => max b.openGroups (depthFrom (b.read c) rest)

def shallowFrom (limit : Nat) (b : Braces) : List Char → List Char
  | [] => []
  | c :: rest =>
    if b.opens c && limit ≤ b.openGroups then [] else c :: shallowFrom limit (b.read c) rest

end Braces

def depth (line : String) : Nat :=
  Braces.start.depthFrom line.toList

def shallow (limit : Nat) (line : String) : String :=
  String.ofList (Braces.start.shallowFrom limit line.toList)

def State.braces (st : State) : Braces :=
  match st.mode with
  | .bare _ => ⟨0, false, st.justClosed⟩
  | .quoted _ => ⟨0, true, st.justClosed⟩
  | .grouped _ _ outer => ⟨outer.length + 1, false, st.justClosed⟩

namespace Braces

lemma le_depthFrom (b : Braces) (s : List Char) : b.openGroups ≤ b.depthFrom s := by
  cases s with
  | nil => exact Nat.le_refl _
  | cons c rest => exact Nat.le_max_left _ _

lemma openGroups_read (b : Braces) (c : Char) :
    (b.read c).openGroups ≤ b.openGroups + if b.opens c then 1 else 0 := by
  rw [read]
  split
  · simp
  · split
    · dsimp only
      omega
    · split <;> simp

lemma shallowFrom_eq {limit : Nat} {b : Braces} {s : List Char} (h : b.depthFrom s ≤ limit) :
    b.shallowFrom limit s = s := by
  induction s generalizing b with
  | nil => rfl
  | cons c rest ih =>
    rw [depthFrom, max_le_iff] at h
    have hdeeper : ¬ (b.opens c = true ∧ limit ≤ b.openGroups) := by
      rintro ⟨hopens, hlimit⟩
      have hread : (b.read c).openGroups = b.openGroups + 1 := by simp [read, hopens]
      have hrest := (b.read c).le_depthFrom rest
      omega
    rw [shallowFrom, if_neg (by simpa using hdeeper), ih h.2]

lemma openGroups_read_le {limit : Nat} {b : Braces} {c : Char} (hb : b.openGroups ≤ limit)
    (h : ¬ (b.opens c && limit ≤ b.openGroups) = true) : (b.read c).openGroups ≤ limit := by
  have hread := b.openGroups_read c
  rw [Bool.and_eq_true, decide_eq_true_eq, not_and] at h
  split at hread
  · have hbelow := h ‹_›
    omega
  · omega

lemma depthFrom_shallowFrom {limit : Nat} {b : Braces} (s : List Char)
    (hb : b.openGroups ≤ limit) : b.depthFrom (b.shallowFrom limit s) ≤ limit := by
  induction s generalizing b with
  | nil => exact hb
  | cons c rest ih =>
    rw [shallowFrom]
    split
    · exact hb
    · rename_i hdeeper
      rw [depthFrom, max_le_iff]
      exact ⟨hb, ih (openGroups_read_le hb hdeeper)⟩

lemma exists_brace_of_lt_depthFrom {limit : Nat} {b : Braces} {s : List Char}
    (hb : b.openGroups ≤ limit) (h : limit < b.depthFrom s) :
    ∃ rest, s = b.shallowFrom limit s ++ '\x7b' :: rest ∧
      ((b.shallowFrom limit s).foldl read b).opens '\x7b' = true ∧
      ((b.shallowFrom limit s).foldl read b).openGroups = limit := by
  induction s generalizing b with
  | nil =>
    rw [depthFrom] at h
    omega
  | cons c rest ih =>
    rw [shallowFrom]
    split
    · rename_i hdeeper
      rw [Bool.and_eq_true, decide_eq_true_eq] at hdeeper
      have hc : c = '\x7b' := by
        have hopens := hdeeper.1
        simp only [opens, Bool.and_eq_true, decide_eq_true_eq] at hopens
        exact hopens.1.1
      subst hc
      exact ⟨rest, rfl, hdeeper.1, Nat.le_antisymm hb hdeeper.2⟩
    · rename_i hdeeper
      rw [depthFrom, lt_max_iff] at h
      have hrest : limit < (b.read c).depthFrom rest := by omega
      obtain ⟨rest', hsplit, hopens, hlevel⟩ := ih (openGroups_read_le hb hdeeper) hrest
      exact ⟨rest', congrArg (c :: ·) hsplit, hopens, hlevel⟩

end Braces

variable {limit : Nat} {maxDepth : Int} {st st' : State} {c : Char}

lemma braces_of_step_next (h : step maxDepth st c = .next st') :
    st'.braces = st.braces.read c := by
  obtain ⟨tokens, mode, justClosed⟩ := st
  cases mode with
  | bare word =>
    simp only [step, bareStep] at h
    split at h
    · split at h <;> cases h
      simp_all [State.braces, Braces.read, Braces.opens]
    split at h
    · cases h
      simp_all [State.braces, Braces.read, Braces.opens]
    split at h <;> cases h <;> simp_all [State.braces, Braces.read, Braces.opens]
  | quoted word =>
    simp only [step, quotedStep] at h
    split at h <;> cases h <;> simp_all [State.braces, Braces.read, Braces.opens]
  | grouped word group outer =>
    simp only [step, groupedStep] at h
    split at h
    · split at h <;> cases h
      simp_all [State.braces, Braces.read, Braces.opens]
    split at h <;> cases h
    simp_all [State.braces, Braces.read, Braces.opens]

lemma braces_of_step_resolve {text : String} {andThen : String → State}
    (h : step maxDepth st c = .resolve text andThen) (result : String) :
    (andThen result).braces = st.braces.read c := by
  obtain ⟨rfl, tokens, word, group, outer, justClosed, rfl, rfl, rfl⟩ := eq_of_step_resolve h
  cases outer <;> simp [closeGroup, State.braces, Braces.read, Braces.opens]

lemma reaches_zero (openGroups : Nat) : reaches 0 openGroups = false := by
  simp [reaches]

lemma reaches_of_pos (hlimit : 1 ≤ limit) (openGroups : Nat) :
    reaches limit openGroups = decide (limit ≤ openGroups) := by
  have hpos : decide ((limit : Int) ≠ 0) = true := by
    rw [decide_eq_true_eq]
    omega
  rw [reaches, hpos, Bool.true_and]
  exact decide_eq_decide.mpr Int.ofNat_le

lemma step_eq_of_pos (hlimit : 1 ≤ limit) (st : State) (c : Char) :
    step limit st c =
      if st.braces.opens c && limit ≤ st.braces.openGroups then .limit else step 0 st c := by
  obtain ⟨tokens, mode, justClosed⟩ := st
  cases mode with
  | bare word =>
    have hroom : ¬ limit ≤ 0 := by omega
    have hreaches : reaches limit 0 = reaches 0 0 := by
      simp [reaches_of_pos hlimit 0, reaches_zero, hroom]
    simp [step, bareStep, State.braces, hreaches, hroom]
  | quoted word => simp [step, quotedStep, State.braces, Braces.opens]
  | grouped word group outer =>
    simp only [step, groupedStep, reaches_of_pos hlimit, reaches_zero, State.braces, Braces.opens]
    by_cases hopens : (decide (c = '\x7b') && !justClosed) = true
    · by_cases hdeep : limit ≤ outer.length + 1 <;> simp [hopens, hdeep]
    · simp [hopens]

lemma step_zero_ne_limit (st : State) (c : Char) : step 0 st c ≠ .limit := by
  obtain ⟨tokens, mode, justClosed⟩ := st
  intro h
  cases mode with
  | bare word =>
    simp only [step, bareStep, reaches_zero, Bool.false_eq_true, if_false] at h
    repeat' split at h
    all_goals cases h
  | quoted word =>
    simp only [step, quotedStep] at h
    split at h <;> cases h
  | grouped word group outer =>
    simp only [step, groupedStep, reaches_zero, Bool.false_eq_true, if_false] at h
    repeat' split at h
    all_goals cases h

section Monadic

variable {m : Type → Type} [Monad m] [LawfulMonad m] (resolve : String → m String)

lemma run_eq_of_pos (hlimit : 1 ≤ limit) (s : List Char) (st : State)
    (hst : st.braces.openGroups ≤ limit) :
    run limit resolve st s =
      run 0 resolve st (st.braces.shallowFrom limit s) >>= fun outcome =>
        pure (if st.braces.depthFrom s ≤ limit then outcome else .error ⟨limit⟩) := by
  induction s generalizing st with
  | nil => simp [run, Braces.shallowFrom, Braces.depthFrom, hst]
  | cons c rest ih =>
    rw [run, step_eq_of_pos hlimit]
    by_cases hdeeper : (st.braces.opens c && decide (limit ≤ st.braces.openGroups)) = true
    · have hdepth : ¬ st.braces.depthFrom (c :: rest) ≤ limit := by
        rw [Bool.and_eq_true, decide_eq_true_eq] at hdeeper
        have hread : (st.braces.read c).openGroups = st.braces.openGroups + 1 := by
          simp [Braces.read, hdeeper.1]
        have hrest := (st.braces.read c).le_depthFrom rest
        rw [Braces.depthFrom, max_le_iff]
        omega
      rw [if_pos hdeeper, Braces.shallowFrom, if_pos hdeeper]
      simp [run, hdepth]
    · have hopen := Braces.openGroups_read_le hst hdeeper
      have hdepth : st.braces.depthFrom (c :: rest) ≤ limit
          ↔ (st.braces.read c).depthFrom rest ≤ limit := by
        rw [Braces.depthFrom, max_le_iff]
        exact and_iff_right hst
      rw [if_neg hdeeper, Braces.shallowFrom, if_neg hdeeper, run]
      simp only [hdepth]
      cases hstep : step 0 st c with
      | next st' =>
        have hbraces := braces_of_step_next hstep
        rw [← hbraces] at hopen ⊢
        exact ih st' hopen
      | limit => exact absurd hstep (step_zero_ne_limit st c)
      | resolve text andThen =>
        simp only [bind_assoc]
        congr 1
        funext result
        have hbraces := braces_of_step_resolve hstep result
        rw [← hbraces] at hopen ⊢
        exact ih (andThen result) hopen

/-- What is left of a scan without a limit that has come to some place. -/
def onward (rest : List Char) : Except LimitReached State → m (Except LimitReached (List String))
  | .ok st => Except.map State.finish <$> run 0 resolve st rest
  | .error reached => pure (.error reached)

lemma run_append (s t : List Char) (st : State) :
    Except.map State.finish <$> run 0 resolve st (s ++ t) =
      run 0 resolve st s >>= onward resolve t := by
  induction s generalizing st with
  | nil => simp [run, onward]
  | cons c rest ih =>
    rw [List.cons_append, run, run]
    cases step 0 st c with
    | next st' => exact ih st'
    | limit => simp [onward, Except.map]
    | resolve text andThen => simp [ih]

end Monadic

section Stateful

variable {σ : Type} (resolve : String → StateM σ String)

def asking (text : String) : StateM (σ × List String) String := fun s =>
  let answer := resolve text s.1
  (answer.1, answer.2, s.2 ++ [text])

lemma run_zero_isOk (st : State) (s : List Char) (w : σ) :
    ∃ st', (run 0 resolve st s w).1 = .ok st' := by
  induction s generalizing st w with
  | nil => exact ⟨st, rfl⟩
  | cons c rest ih =>
    rw [run]
    cases hstep : step 0 st c with
    | next st' => exact ih st' w
    | limit => exact absurd hstep (step_zero_ne_limit st c)
    | resolve text andThen => exact ih _ _

lemma run_asking_calls (st : State) (s : List Char) (w : σ × List String) :
    ∃ later, (run maxDepth (asking resolve) st s w).2.2 = w.2 ++ later := by
  induction s generalizing st w with
  | nil => exact ⟨[], (List.append_nil _).symm⟩
  | cons c rest ih =>
    rw [run]
    cases step maxDepth st c with
    | next st' => exact ih st' w
    | limit => exact ⟨[], (List.append_nil _).symm⟩
    | resolve text andThen =>
      obtain ⟨later, hlater⟩ := ih (andThen (asking resolve text w).1) (asking resolve text w).2
      refine ⟨text :: later, hlater.trans ?_⟩
      simp [asking]

end Stateful

lemma scan_eq_of_pos {m : Type → Type} [Monad m] [LawfulMonad m] (resolve : String → m String)
    (hlimit : 1 ≤ limit) (line : String) :
    scan limit resolve line =
      if depth line ≤ limit then scan 0 resolve line
      else scan 0 resolve (shallow limit line) >>= fun _ => pure (.error ⟨limit⟩) := by
  have hstart : State.start.braces.openGroups ≤ limit := Nat.zero_le _
  have hbraces : State.start.braces = Braces.start := rfl
  simp only [scan, run_eq_of_pos resolve hlimit line.toList .start hstart, hbraces, shallow,
    String.toList_ofList, bind_assoc, pure_bind]
  by_cases hdepth : depth line ≤ limit
  · have hshallow := Braces.shallowFrom_eq hdepth
    rw [depth] at hdepth
    simp only [hshallow, hdepth, depth, if_true]
  · rw [depth] at hdepth
    simp only [hdepth, depth, if_false]
    rfl

lemma scan_zero_eq {m : Type → Type} [Monad m] [LawfulMonad m] (resolve : String → m String)
    (line : String) :
    scan 0 resolve line = Except.map State.finish <$> run 0 resolve .start line.toList := by
  rw [scan, map_eq_pure_bind]

lemma exists_brace_of_lt_depth {line : String} (h : limit < depth line) :
    ∃ rest, line.toList = (shallow limit line).toList ++ '\x7b' :: rest ∧
      depth (shallow limit line) ≤ limit ∧
      ((shallow limit line).toList.foldl Braces.read .start).opens '\x7b' = true ∧
      ((shallow limit line).toList.foldl Braces.read .start).openGroups = limit ∧
      ∀ {m : Type → Type} [Monad m] [LawfulMonad m] (resolve : String → m String),
        scan 0 resolve line =
          run 0 resolve .start (shallow limit line).toList >>= onward resolve ('\x7b' :: rest) := by
  have hstart : Braces.start.openGroups ≤ limit := Nat.zero_le _
  have hshallow : (shallow limit line).toList = Braces.start.shallowFrom limit line.toList :=
    String.toList_ofList
  obtain ⟨rest, hsplit, hopens, hlevel⟩ := Braces.exists_brace_of_lt_depthFrom hstart h
  rw [← hshallow] at hsplit hopens hlevel
  refine ⟨rest, hsplit, ?_, hopens, hlevel, fun resolve => ?_⟩
  · rw [depth, hshallow]
    exact Braces.depthFrom_shallowFrom line.toList hstart
  · rw [scan_zero_eq, hsplit, run_append]

section Stateful

variable {σ : Type} (resolve : String → StateM σ String) (w : σ) {line : String}

lemma scan_zero_asking_isOk (line : String) :
    ∃ tokens, (scan 0 (asking resolve) line (w, [])).1 = .ok tokens := by
  obtain ⟨st, hst⟩ := run_zero_isOk (asking resolve) .start line.toList (w, [])
  refine ⟨st.finish, ?_⟩
  rw [scan_zero_eq]
  exact congrArg (Except.map State.finish) hst

lemma scan_asking_of_deep (hlimit : 1 ≤ limit) (h : limit < depth line) :
    scan limit (asking resolve) line (w, []) =
      (.error ⟨limit⟩, (scan 0 (asking resolve) (shallow limit line) (w, [])).2) := by
  rw [scan_eq_of_pos _ hlimit, if_neg (Nat.not_le.mpr h)]
  rfl

lemma scan_asking_calls (h : limit < depth line) :
    ∃ later, (scan 0 (asking resolve) line (w, [])).2.2 =
      (scan 0 (asking resolve) (shallow limit line) (w, [])).2.2 ++ later := by
  obtain ⟨rest, -, -, -, -, honward⟩ := exists_brace_of_lt_depth h
  let reached := run 0 (asking resolve) .start (shallow limit line).toList (w, [])
  obtain ⟨st, hst⟩ : ∃ st, reached.1 = .ok st := run_zero_isOk _ _ _ _
  have hline : scan 0 (asking resolve) line (w, []) =
      onward (asking resolve) ('\x7b' :: rest) reached.1 reached.2 := by
    rw [honward]
    rfl
  have hlater : ∃ later, (run 0 (asking resolve) st ('\x7b' :: rest) reached.2).2.2 =
      reached.2.2 ++ later := run_asking_calls resolve st _ _
  rw [hline, hst, scan_zero_eq]
  exact hlater

end Stateful

/-- A limit is reached just if more groups than that are open at once somewhere in the text,
whatever they are replaced by. A scan that reaches it has asked what a scan without a limit asks on
its way to the first brace that is one too many; any other scan is the one without a limit. -/
theorem scan_limit_iff_depth (line : String) (limit : Nat) (hlimit : 1 ≤ limit) :
    (∀ {m : Type → Type} [Monad m] [LawfulMonad m] (resolve : String → m String),
      scan limit resolve line =
        if depth line ≤ limit then scan 0 resolve line
        else scan 0 resolve (shallow limit line) >>= fun _ => pure (.error ⟨limit⟩)) ∧
    (limit < depth line → ∃ rest, line.toList = (shallow limit line).toList ++ '\x7b' :: rest ∧
      depth (shallow limit line) ≤ limit ∧
      ((shallow limit line).toList.foldl Braces.read .start).opens '\x7b' = true ∧
      ((shallow limit line).toList.foldl Braces.read .start).openGroups = limit ∧
      ∀ {m : Type → Type} [Monad m] [LawfulMonad m] (resolve : String → m String),
        scan 0 resolve line =
          run 0 resolve .start (shallow limit line).toList >>= onward resolve ('\x7b' :: rest)) ∧
    ∀ {σ : Type} (resolve : String → StateM σ String) (w : σ),
      let limited := scan limit (asking resolve) line (w, [])
      let free := scan 0 (asking resolve) line (w, [])
      let before := scan 0 (asking resolve) (shallow limit line) (w, [])
      (∀ reached, limited.1 = .error reached ↔ reached = ⟨limit⟩ ∧ limit < depth line) ∧
      (limit < depth line → limited.2 = before.2 ∧ ∃ later, free.2.2 = before.2.2 ++ later) ∧
      (depth line ≤ limit → limited = free) ∧
      ∀ raised : Nat, raised = 0 ∨ limit ≤ raised → ∀ tokens, limited.1 = .ok tokens →
        scan raised (asking resolve) line (w, []) = limited := by
  refine ⟨fun resolve => scan_eq_of_pos resolve hlimit line, exists_brace_of_lt_depth,
    fun {σ} resolve w => ?_⟩
  intro limited free before
  have hfree : ∀ bound : Nat, 1 ≤ bound → depth line ≤ bound →
      scan bound (asking resolve) line (w, []) = free := by
    intro bound hbound hdepth
    rw [scan_eq_of_pos _ hbound, if_pos hdepth]
  have hdeep : limit < depth line → limited = (.error ⟨limit⟩, before.2) :=
    scan_asking_of_deep resolve w hlimit
  obtain ⟨found, hfound⟩ := scan_zero_asking_isOk resolve w line
  refine ⟨fun reached => ?_, fun h => ⟨by rw [hdeep h], scan_asking_calls resolve w h⟩,
    hfree limit hlimit, fun raised hraised tokens htokens => ?_⟩
  · rcases Nat.lt_or_ge limit (depth line) with h | h
    · rw [hdeep h]
      simp [h, eq_comm]
    · have hlimited : limited = free := hfree limit hlimit h
      rw [hlimited, hfound]
      simp [Nat.not_lt.mpr h]
  · have hdepth : depth line ≤ limit := by
      by_contra h
      rw [hdeep (Nat.not_le.mp h)] at htokens
      cases htokens
    have hlimited : limited = free := hfree limit hlimit hdepth
    rw [hlimited]
    rcases hraised with rfl | hraised
    · rfl
    · exact hfree raised (hlimit.trans hraised) (hdepth.trans hraised)

def counting (_text : String) : StateM Nat String := fun n =>
  (String.ofList (List.replicate n 'x'), n + 1)

def threeOpen : String := "a\x7bb\x7d\x7b \"\x7b\" \x7bc \x7bd\x7d \x7b\x7be"

theorem scan_limit_three :
    1 ≤ 2 ∧ depth threeOpen = 3 ∧
      scan 2 (asking counting) threeOpen (1, []) = (.error ⟨2⟩, 3, ["b", "d"]) ∧
      1 ≤ 3 ∧ scan 3 (asking counting) threeOpen (1, [])
        = scan 0 (asking counting) threeOpen (1, []) := by
  have hdepth : depth threeOpen = 3 := by cbv
  have hbefore : scan 0 (asking counting) (shallow 2 threeOpen) (1, [])
      = (.ok ["a", "x", "\x7b", "\x7b"], 3, ["b", "d"]) := by cbv
  obtain ⟨-, -, htwo⟩ := scan_limit_iff_depth threeOpen 2 (by decide)
  obtain ⟨-, -, hthree⟩ := scan_limit_iff_depth threeOpen 3 (by decide)
  obtain ⟨hreached, hcalls, -⟩ := htwo counting 1
  obtain ⟨-, -, hfree, -⟩ := hthree counting 1
  have hdeep : 2 < depth threeOpen := by
    rw [hdepth]
    decide
  have hlimit : (scan 2 (asking counting) threeOpen (1, [])).1 = .error ⟨2⟩ :=
    (hreached ⟨2⟩).mpr ⟨rfl, hdeep⟩
  have hasked : (scan 2 (asking counting) threeOpen (1, [])).2 = (3, ["b", "d"]) :=
    (hcalls hdeep).1.trans (congrArg Prod.snd hbefore)
  exact ⟨by decide, hdepth, Prod.ext hlimit hasked, by decide, hfree hdepth.le⟩

end LineShell.Scan
