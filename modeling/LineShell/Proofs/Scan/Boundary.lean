import LineShell.Proofs.Scan.Depth

/-! Texts that leave no quote and no group open. The space after such a text brings the scanner back
to its start, so that what follows is scanned as it is scanned alone. -/

namespace LineShell.Scan

def Braces.Closed (b : Braces) : Prop :=
  b.openGroups = 0 ∧ b.inQuote = false

instance (b : Braces) : Decidable b.Closed :=
  inferInstanceAs (Decidable (_ ∧ _))

def bracesAfter (line : String) : Braces :=
  line.toList.foldl Braces.read .start

def Closed (line : String) : Prop :=
  (bracesAfter line).Closed

instance (line : String) : Decidable (Closed line) :=
  inferInstanceAs (Decidable (Braces.Closed _))

def State.behind (earlier : List String) (st : State) : State :=
  { st with tokens := st.tokens ++ earlier.reverse }

def Step.behind (earlier : List String) : Step → Step
  | .next st => .next (st.behind earlier)
  | .limit => .limit
  | .resolve text andThen => .resolve text fun result => (andThen result).behind earlier

variable {maxDepth : Int} {st : State}

lemma addWord_behind (word : List Char) (tokens earlier : List String) :
    addWord word (tokens ++ earlier) = addWord word tokens ++ earlier := by
  rw [addWord, addWord]
  split <;> simp

lemma closeGroup_behind (tokens earlier : List String) (word : List Char)
    (outer : List (List Char)) (result : String) :
    closeGroup (tokens ++ earlier.reverse) word outer result =
      (closeGroup tokens word outer result).behind earlier := by
  cases outer <;> simp [closeGroup, State.behind, addWord_behind]

lemma step_behind (earlier : List String) (c : Char) :
    step maxDepth (st.behind earlier) c = (step maxDepth st c).behind earlier := by
  obtain ⟨tokens, mode, justClosed⟩ := st
  cases mode with
  | bare word =>
    simp only [State.behind, step, bareStep, addWord_behind]
    split_ifs <;> rfl
  | quoted word =>
    simp only [State.behind, step, quotedStep]
    split_ifs <;> rfl
  | grouped word group outer =>
    have hclose : closeGroup (tokens ++ earlier.reverse) word outer =
        fun result => (closeGroup tokens word outer result).behind earlier := by
      funext result
      exact closeGroup_behind tokens earlier word outer result
    simp only [State.behind, step, groupedStep, hclose]
    split_ifs <;> rfl

lemma finish_behind (earlier : List String) :
    (st.behind earlier).finish = earlier ++ st.finish := by
  obtain ⟨tokens, mode, justClosed⟩ := st
  cases mode <;> simp [State.behind, State.finish, addWord_behind]

lemma eq_bare_of_closed (h : st.braces.Closed) :
    ∃ tokens word justClosed, st = ⟨tokens, .bare word, justClosed⟩ := by
  obtain ⟨tokens, mode, justClosed⟩ := st
  cases mode with
  | bare word => exact ⟨tokens, word, justClosed, rfl⟩
  | quoted word => cases h.2
  | grouped word group outer => cases h.1

lemma step_space_of_closed (h : st.braces.Closed) :
    step maxDepth st ' ' = .next (State.start.behind st.finish) := by
  obtain ⟨tokens, word, justClosed, rfl⟩ := eq_bare_of_closed h
  simp [step, bareStep, State.start, State.behind, State.finish]

section Monadic

variable {m : Type → Type} [Monad m] (resolve : String → m String)

def tokensFrom (maxDepth : Int) (resolve : String → m String) (st : State) (s : List Char) :
    ExceptT LimitReached m (List String) :=
  ExceptT.mk (Except.map State.finish <$> run maxDepth resolve st s)

lemma tokensFrom_next {st' : State} {c : Char} (h : step maxDepth st c = .next st')
    (s : List Char) :
    tokensFrom maxDepth resolve st (c :: s) = tokensFrom maxDepth resolve st' s := by
  simp only [tokensFrom, run, h]

variable [LawfulMonad m]

lemma mk_scan_eq (line : String) :
    ExceptT.mk (scan maxDepth resolve line) = tokensFrom maxDepth resolve .start line.toList := by
  rw [scan, tokensFrom, map_eq_pure_bind]

lemma tokensFrom_nil (st : State) : tokensFrom maxDepth resolve st [] = pure st.finish := by
  apply ExceptT.ext
  simp [tokensFrom, run, Except.map]

lemma tokensFrom_limit {c : Char} (h : step maxDepth st c = .limit) (s : List Char) :
    tokensFrom maxDepth resolve st (c :: s) = throw ⟨maxDepth⟩ := by
  apply ExceptT.ext
  simp [tokensFrom, run, h, Except.map]

lemma tokensFrom_resolve {c : Char} {text : String} {andThen : String → State}
    (h : step maxDepth st c = .resolve text andThen) (s : List Char) :
    tokensFrom maxDepth resolve st (c :: s) =
      ExceptT.lift (resolve text) >>= fun result =>
        tokensFrom maxDepth resolve (andThen result) s := by
  apply ExceptT.ext
  simp [tokensFrom, run, h]

lemma tokensFrom_behind (earlier : List String) (s : List Char) :
    tokensFrom maxDepth resolve (st.behind earlier) s =
      (earlier ++ ·) <$> tokensFrom maxDepth resolve st s := by
  induction s generalizing st with
  | nil => rw [tokensFrom_nil, tokensFrom_nil, finish_behind, map_pure]
  | cons c rest ih =>
    have hbehind : step maxDepth (st.behind earlier) c = (step maxDepth st c).behind earlier :=
      step_behind earlier c
    cases hstep : step maxDepth st c with
    | next st' =>
      rw [hstep] at hbehind
      rw [tokensFrom_next resolve hbehind, tokensFrom_next resolve hstep, ih]
    | limit =>
      rw [hstep] at hbehind
      rw [tokensFrom_limit resolve hbehind, tokensFrom_limit resolve hstep]
      apply ExceptT.ext
      simp
    | resolve text andThen =>
      rw [hstep] at hbehind
      rw [tokensFrom_resolve resolve hbehind, tokensFrom_resolve resolve hstep, map_bind]
      congr 1
      funext result
      exact ih

lemma tokensFrom_append_space {s : List Char} (hs : (s.foldl Braces.read st.braces).Closed)
    (rest : List Char) :
    tokensFrom maxDepth resolve st (s ++ ' ' :: rest) = (do
      let first ← tokensFrom maxDepth resolve st s
      let second ← tokensFrom maxDepth resolve .start rest
      pure (first ++ second)) := by
  -- on the text in front of the space: what it leaves open does not depend on what is resolved
  induction s generalizing st with
  | nil =>
    rw [List.nil_append, tokensFrom_next resolve (step_space_of_closed hs), tokensFrom_behind,
      tokensFrom_nil, pure_bind, map_eq_pure_bind]
  | cons c s ih =>
    rw [List.foldl_cons] at hs
    rw [List.cons_append]
    cases hstep : step maxDepth st c with
    | next st' =>
      rw [← braces_of_step_next hstep] at hs
      rw [tokensFrom_next resolve hstep, tokensFrom_next resolve hstep, ih hs]
    | limit =>
      rw [tokensFrom_limit resolve hstep, tokensFrom_limit resolve hstep]
      apply ExceptT.ext
      simp
    | resolve text andThen =>
      rw [tokensFrom_resolve resolve hstep, tokensFrom_resolve resolve hstep, bind_assoc]
      congr 1
      funext result
      rw [← braces_of_step_resolve hstep result] at hs
      exact ih hs

lemma mk_scan_append_space {line : String} (hline : Closed line) (rest : String) :
    ExceptT.mk (scan maxDepth resolve (line ++ " " ++ rest)) = (do
      let first ← ExceptT.mk (scan maxDepth resolve line)
      let second ← ExceptT.mk (scan maxDepth resolve rest)
      pure (first ++ second)) := by
  have htext : (line ++ " " ++ rest).toList = line.toList ++ ' ' :: rest.toList := by simp
  have hstart : (line.toList.foldl Braces.read State.start.braces).Closed := hline
  simp only [mk_scan_eq, htext]
  exact tokensFrom_append_space resolve hstart rest.toList

lemma scan_append_space_eq {line : String} (hline : Closed line) (rest : String) :
    scan maxDepth resolve (line ++ " " ++ rest) =
      scan maxDepth resolve line >>= fun
        | .ok tokens => Except.map (tokens ++ ·) <$> scan maxDepth resolve rest
        | .error reached => pure (.error reached) := by
  have hwhole : (ExceptT.mk (scan maxDepth resolve (line ++ " " ++ rest))).run = _ :=
    congrArg ExceptT.run (mk_scan_append_space resolve hline rest)
  simp only [ExceptT.run_mk, ExceptT.run_bind, bind_pure_comp, ExceptT.run_map] at hwhole
  rw [hwhole]
  congr 1
  funext outcome
  cases outcome <;> rfl

end Monadic

/-- Computations that may fail, with a state and a list of the texts that were asked for. -/
abbrev Recorded (ε σ : Type) := ExceptT ε (StateM (σ × List String))

section Recorded

variable {ε σ α β : Type}

lemma Recorded.bind_apply (x : Recorded ε σ α) (f : α → Recorded ε σ β) (s : σ × List String) :
    (x >>= f) s =
      match x s with
      | (.ok a, s') => f a s'
      | (.error e, s') => (.error e, s') := by
  change (ExceptT.bindCont f (x s).1 : StateM (σ × List String) (Except ε β)) (x s).2 = _
  rcases x s with ⟨e | a, s'⟩ <;> rfl

variable (resolve : String → ExceptT ε (StateM σ) String)

def recording (text : String) : Recorded ε σ String := fun s =>
  let answer := resolve text s.1
  (answer.1, answer.2, s.2 ++ [text])

lemma run_recording (st : State) (s : List Char) (w : σ) (calls : List String) :
    run maxDepth (recording resolve) st s (w, calls) =
      let alone := run maxDepth (recording resolve) st s (w, [])
      (alone.1, alone.2.1, calls ++ alone.2.2) := by
  induction s generalizing st w calls with
  | nil => exact Prod.ext rfl (Prod.ext rfl (List.append_nil calls).symm)
  | cons c rest ih =>
    simp only [run]
    cases step maxDepth st c with
    | next st' => exact ih st' w calls
    | limit => exact Prod.ext rfl (Prod.ext rfl (List.append_nil calls).symm)
    | resolve text andThen =>
      simp only [Recorded.bind_apply, recording, List.nil_append]
      rcases resolve text w with ⟨e | answer, w'⟩
      · rfl
      · dsimp only
        rw [ih, ih _ _ [text]]
        simp

lemma scan_apply (line : String) (s : σ × List String) :
    scan maxDepth (recording resolve) line s =
      let reached := run maxDepth (recording resolve) .start line.toList s
      (reached.1.map (Except.map State.finish), reached.2) := by
  rw [scan, Recorded.bind_apply]
  rcases run maxDepth (recording resolve) .start line.toList s with ⟨e | outcome, s'⟩ <;> rfl

lemma scan_recording (line : String) (w : σ) (calls : List String) :
    scan maxDepth (recording resolve) line (w, calls) =
      let alone := scan maxDepth (recording resolve) line (w, [])
      (alone.1, alone.2.1, calls ++ alone.2.2) := by
  simp only [scan_apply]
  rw [run_recording]

section Closed

variable {line : String} (hline : Closed line) (rest : String) (s : σ × List String)

include hline

lemma scan_append_space_of_failed
    (h : ∀ tokens, (scan maxDepth (recording resolve) line s).1 ≠ .ok (.ok tokens)) :
    scan maxDepth (recording resolve) (line ++ " " ++ rest) s =
      scan maxDepth (recording resolve) line s := by
  rw [scan_append_space_eq _ hline, Recorded.bind_apply]
  rcases hscan : scan maxDepth (recording resolve) line s with ⟨e | reached | tokens, s'⟩
  · rfl
  · rfl
  · exact absurd (congrArg Prod.fst hscan) (h tokens)

lemma scan_append_space_of_ok {tokens : List String}
    (h : (scan maxDepth (recording resolve) line s).1 = .ok (.ok tokens)) :
    let first := scan maxDepth (recording resolve) line s
    let second := scan maxDepth (recording resolve) rest (first.2.1, [])
    scan maxDepth (recording resolve) (line ++ " " ++ rest) s =
      (second.1.map (Except.map (tokens ++ ·)), second.2.1, first.2.2 ++ second.2.2) := by
  intro first second
  have hfirst : scan maxDepth (recording resolve) line s = (.ok (.ok tokens), first.2) :=
    Prod.ext h rfl
  have hsecond : scan maxDepth (recording resolve) rest first.2 =
      (second.1, second.2.1, first.2.2 ++ second.2.2) := scan_recording resolve rest _ _
  have hwhole : scan maxDepth (recording resolve) (line ++ " " ++ rest) s =
      (Except.map (tokens ++ ·) <$> scan maxDepth (recording resolve) rest) first.2 := by
    rw [scan_append_space_eq _ hline, Recorded.bind_apply, hfirst]
  rw [hwhole, map_eq_pure_bind, Recorded.bind_apply, hsecond]
  rcases second with ⟨e | outcome, s'⟩ <;> rfl

end Closed

end Recorded

/-- A text that leaves nothing open and one that follows behind a space are scanned one after the
other: the calls of the latter come after those of the former, and so do its tokens. -/
theorem scan_append_of_closed (line rest : String) (hline : Closed line) (maxDepth : Int) :
    (∀ {m : Type → Type} [Monad m] [LawfulMonad m] (resolve : String → m String),
      ExceptT.mk (scan maxDepth resolve (line ++ " " ++ rest)) = (do
        let first ← ExceptT.mk (scan maxDepth resolve line)
        let second ← ExceptT.mk (scan maxDepth resolve rest)
        pure (first ++ second))) ∧
    ∀ {ε σ : Type} (resolve : String → ExceptT ε (StateM σ) String) (w : σ),
      let whole := scan maxDepth (recording resolve) (line ++ " " ++ rest) (w, [])
      let first := scan maxDepth (recording resolve) line (w, [])
      let second := scan maxDepth (recording resolve) rest (first.2.1, [])
      ((∀ tokens, first.1 ≠ .ok (.ok tokens)) → whole = first) ∧
      ∀ tokens, first.1 = .ok (.ok tokens) →
        whole = (second.1.map (Except.map (tokens ++ ·)), second.2.1, first.2.2 ++ second.2.2) := by
  refine ⟨fun resolve => mk_scan_append_space resolve hline rest, fun resolve w => ?_⟩
  intro whole first second
  exact ⟨scan_append_space_of_failed resolve hline rest (w, []),
    fun tokens => scan_append_space_of_ok resolve hline rest (w, [])⟩

def refusing (text : String) : ExceptT String (StateM Nat) String := fun n =>
  if text = "stop" then (.error "stopped", n) else (.ok ("<" ++ text ++ ">"), n + 1)

-- the second brace is escaped, the third is quoted, and the last one closes nothing
def manyEnds : String := "x\x7ba\x7d\x7bb \"c \x7b\"\x7d"

theorem scan_append_manyEnds :
    Closed manyEnds ∧
      scan 1 (recording refusing) (manyEnds ++ " " ++ "\x7bd\x7de \x7bstop\x7d \x7bf\x7d") (0, []) =
        (.error "stopped", 2, ["a", "d", "stop"]) := by
  have hclosed : Closed manyEnds := by decide
  have hfirst : scan 1 (recording refusing) manyEnds (0, []) =
      (.ok (.ok ["x", "<a>", "\x7bb", "c \x7b", "\x7d"]), 1, ["a"]) := by cbv
  have hsecond : scan 1 (recording refusing) "\x7bd\x7de \x7bstop\x7d \x7bf\x7d" (1, []) =
      (.error "stopped", 2, ["d", "stop"]) := by cbv
  obtain ⟨-, hrecorded⟩ :=
    scan_append_of_closed manyEnds "\x7bd\x7de \x7bstop\x7d \x7bf\x7d" hclosed 1
  obtain ⟨-, hwhole⟩ := hrecorded refusing 0
  refine ⟨hclosed, ?_⟩
  rw [hwhole _ (congrArg Prod.fst hfirst)]
  simp only [hfirst, hsecond]
  rfl

end LineShell.Scan
