import LineShell.Proofs.Scan.Boundary
import LineShell.Proofs.Scan.Evaluation

/-! Quotes in tokens. Tokens without quotes can be written down, each between quotes, and a scan
reads them back; no other token comes out of a scan but as the result of a group. -/

namespace LineShell.Scan

def QuoteFree (token : String) : Prop :=
  '"' ∉ token.toList

instance (token : String) : Decidable (QuoteFree token) :=
  inferInstanceAs (Decidable (_ ∉ _))

def quote (token : String) : String :=
  "\"" ++ token ++ "\""

/-- The tokens as a text: each between quotes, with a space after every one but the last. -/
def written (tokens : List String) : String :=
  " ".intercalate (tokens.map quote)

lemma toList_quote (token : String) : (quote token).toList = '"' :: token.toList ++ ['"'] := by
  simp [quote]

lemma foldl_read_quoted {s : List Char} (hs : '"' ∉ s) (justClosed : Bool) :
    ∃ j, s.foldl Braces.read ⟨0, true, justClosed⟩ = ⟨0, true, j⟩ := by
  induction s generalizing justClosed with
  | nil => exact ⟨justClosed, rfl⟩
  | cons c s ih =>
    rw [List.mem_cons, not_or] at hs
    have hread : Braces.read ⟨0, true, justClosed⟩ c = ⟨0, true, false⟩ := by
      simp [Braces.read, Braces.opens, Ne.symm hs.1]
    rw [List.foldl_cons, hread]
    exact ih hs.2 false

lemma closed_quote {token : String} (h : QuoteFree token) : Closed (quote token) := by
  have hopen : Braces.start.read '"' = ⟨0, true, false⟩ := by decide
  obtain ⟨j, hj⟩ := foldl_read_quoted h false
  rw [Closed, bracesAfter, toList_quote, List.cons_append, List.foldl_cons, hopen,
    List.foldl_append, hj]
  cases j <;> decide

section Monadic

variable {m : Type → Type} [Monad m] [LawfulMonad m] (maxDepth : Int) (resolve : String → m String)

omit [LawfulMonad m] in
lemma run_quoted {s : List Char} (hs : '"' ∉ s) (tokens : List String) (word rest : List Char)
    (justClosed : Bool) :
    run maxDepth resolve ⟨tokens, .quoted word, justClosed⟩ (s ++ '"' :: rest) =
      run maxDepth resolve ⟨textOf (s.reverse ++ word) :: tokens, .bare [], true⟩ rest := by
  induction s generalizing word justClosed with
  | nil => simp [run, step, quotedStep]
  | cons c s ih =>
    rw [List.mem_cons, not_or] at hs
    simp [run, step, quotedStep, Ne.symm hs.1, ih hs.2]

lemma scan_quote {token : String} (h : QuoteFree token) :
    scan maxDepth resolve (quote token) = pure (.ok [token]) := by
  have hopen : step maxDepth .start '"' = .next ⟨[], .quoted [], false⟩ := by
    simp [step, State.start, bareStep]
  rw [scan, toList_quote, List.cons_append, run, hopen]
  dsimp only
  rw [run_quoted maxDepth resolve h]
  simp [run, State.finish, addWord, textOf, Except.map]

lemma scan_written {tokens : List String} (h : ∀ t ∈ tokens, QuoteFree t) :
    scan maxDepth resolve (written tokens) = pure (.ok tokens) := by
  induction tokens with
  | nil => simp [scan, written, run, State.finish, State.start, addWord, Except.map]
  | cons token tokens ih =>
    rw [List.forall_mem_cons] at h
    cases tokens with
    | nil =>
      have hone : written [token] = quote token := by simp [written]
      rw [hone]
      exact scan_quote maxDepth resolve h.1
    | cons next tokens =>
      have hsplit : written (token :: next :: tokens) =
          quote token ++ " " ++ written (next :: tokens) := by
        simp [written]
      rw [hsplit, scan_append_space_eq resolve (closed_quote h.1), scan_quote maxDepth resolve h.1,
        pure_bind, ih h.2]
      simp [Except.map]

end Monadic

lemma not_mem_of_mem_wordItem {word text : List Char} (hword : '"' ∉ word)
    (h : Item.token text ∈ wordItem word) : '"' ∉ text := by
  rw [wordItem] at h
  split at h
  · cases h
  · rw [List.mem_singleton, Item.token.injEq] at h
    rwa [h]

lemma not_mem_takeWhile (s : List Char) : '"' ∉ s.takeWhile (· != '"') := by
  intro h
  have hc := List.mem_takeWhile_imp h
  simp at hc

lemma not_mem_of_mem_outlineFrom {escaped : Bool} {word s : List Char} (hword : '"' ∉ word)
    {text : List Char} (h : Item.token text ∈ (outlineFrom escaped word s).items) :
    '"' ∉ text := by
  fun_induction outlineFrom escaped word s with
  | case1 escaped word => exact not_mem_of_mem_wordItem hword h
  | case2 escaped word c rest hc first inner hin hr => exact not_mem_of_mem_wordItem hword h
  | case3 escaped word c rest hc body behind hb hr ih =>
    simp only [Outline.after, List.mem_append, List.mem_singleton, reduceCtorEq, or_false] at h
    rcases h with h | h
    · exact not_mem_of_mem_wordItem hword h
    · exact ih List.not_mem_nil h
  | case4 escaped word rest hq => cases h
  | case5 escaped word rest quote behind hq hc ih =>
    simp only [Outline.after, List.mem_append, List.mem_singleton, Item.token.injEq] at h
    rcases h with rfl | h
    · rw [List.mem_append, not_or]
      exact ⟨hword, not_mem_takeWhile rest⟩
    · exact ih List.not_mem_nil h
  | case6 escaped word rest hc hq ih =>
    simp only [Outline.after, List.mem_append] at h
    rcases h with h | h
    · exact not_mem_of_mem_wordItem hword h
    · exact ih List.not_mem_nil h
  | case7 escaped word c rest hc hq hs ih =>
    apply ih _ h
    simp [hword, Ne.symm hq]

section Recorded

variable {ε σ α β : Type}

def Recorded.Grows (x : Recorded ε σ α) : Prop :=
  ∀ s, ∃ later, (x s).2.2 = s.2 ++ later

lemma Recorded.Grows.pure (a : α) : Grows (pure a : Recorded ε σ α) :=
  fun s => ⟨[], (List.append_nil s.2).symm⟩

lemma Recorded.Grows.bind {x : Recorded ε σ α} {f : α → Recorded ε σ β} (hx : x.Grows)
    (hf : ∀ a, (f a).Grows) : (x >>= f).Grows := by
  intro s
  obtain ⟨later, hlater⟩ := hx s
  rw [bind_apply]
  rcases hs : x s with ⟨e | a, s'⟩
  · exact ⟨later, by rw [← hlater, hs]⟩
  · obtain ⟨more, hmore⟩ := hf a s'
    rw [hs] at hlater
    exact ⟨later ++ more, by rw [hmore, hlater, List.append_assoc]⟩

variable (resolve : String → ExceptT ε (StateM σ) String)

mutual

lemma Piece.eval_grows : ∀ p : Piece, (p.eval (recording resolve)).Grows
  | .char c => by
    rw [Piece.eval]
    exact .pure [c]
  | .group body => by
    rw [Piece.eval]
    refine (evalPieces_grows body).bind fun text => ?_
    refine Recorded.Grows.bind (fun s => ⟨[_], rfl⟩) fun result => .pure _

lemma evalPieces_grows : ∀ ps : List Piece, (evalPieces (recording resolve) ps).Grows
  | [] => by
    rw [evalPieces]
    exact .pure []
  | p :: ps => by
    rw [evalPieces]
    exact (Piece.eval_grows p).bind fun _ => (evalPieces_grows ps).bind fun _ => .pure _

end

lemma evalTail_grows (tail : List (List Piece)) : (evalTail (recording resolve) tail).Grows := by
  induction tail with
  | nil => exact .pure ()
  | cons ps tail ih => exact (evalPieces_grows resolve ps).bind fun _ => ih

variable {resolve} {s s' : σ × List String}

lemma Recorded.exists_of_bind {x : Recorded ε σ α} {f : α → Recorded ε σ β} {b : β}
    (h : (x >>= f) s = (.ok b, s')) : ∃ a t, x s = (.ok a, t) ∧ f a t = (.ok b, s') := by
  rw [bind_apply] at h
  rcases hx : x s with ⟨e | a, t⟩
  · rw [hx] at h
    cases h
  · rw [hx] at h
    exact ⟨a, t, rfl, h⟩

/-- A token that is no result of a group stands in the text, and has no quote. -/
def Item.Spells : Item → String → Prop
  | .token text, t => t = String.ofList text ∧ QuoteFree t
  | .group _, _ => True

lemma Item.eval_eq_ok {item : Item} (hitem : ∀ text, item = .token text → '"' ∉ text)
    {token : String} (h : item.eval (recording resolve) s = (.ok token, s')) :
    item.Spells token ∧
      ∃ later, s'.2 = s.2 ++ later ∧ (later = [] → ∀ body, item ≠ .group body) := by
  cases item with
  | token text =>
    cases h
    refine ⟨⟨rfl, ?_⟩, [], (List.append_nil _).symm, fun _ body => by simp⟩
    rw [QuoteFree, String.toList_ofList]
    exact hitem text rfl
  | group body =>
    obtain ⟨text, t, htext, hasked⟩ := Recorded.exists_of_bind h
    obtain ⟨later, hlater⟩ := evalPieces_grows resolve body s
    rw [htext] at hlater
    have hcalls : s'.2 = t.2 ++ [String.ofList text] := by
      rw [← congrArg (fun r => r.2.2) hasked]
      rfl
    refine ⟨trivial, later ++ [String.ofList text], ?_, by simp⟩
    rw [hcalls, hlater, List.append_assoc]

lemma evalItems_eq_ok {items : List Item} (hitems : ∀ text, .token text ∈ items → '"' ∉ text)
    {tokens : List String} (h : evalItems (recording resolve) items s = (.ok tokens, s')) :
    List.Forall₂ Item.Spells items tokens ∧
      ∃ later, s'.2 = s.2 ++ later ∧ (later = [] → ∀ body, .group body ∉ items) := by
  induction items generalizing s s' tokens with
  | nil =>
    cases h
    exact ⟨.nil, [], (List.append_nil _).symm, fun _ _ => List.not_mem_nil⟩
  | cons item items ih =>
    obtain ⟨token, t, htoken, hrest⟩ := Recorded.exists_of_bind h
    obtain ⟨rest, u, hrest, htokens⟩ := Recorded.exists_of_bind hrest
    cases htokens
    obtain ⟨hspells, earlier, hearlier, hfirst⟩ :=
      Item.eval_eq_ok (fun text heq => hitems text (heq ▸ List.mem_cons_self)) htoken
    obtain ⟨hall, later, hlater, hothers⟩ :=
      ih (fun text hmem => hitems text (List.mem_cons_of_mem item hmem)) hrest
    refine ⟨.cons hspells hall, earlier ++ later, ?_, fun hnone body hmem => ?_⟩
    · rw [hlater, hearlier, List.append_assoc]
    · rw [List.append_eq_nil_iff] at hnone
      rcases List.mem_cons.mp hmem with heq | hmem
      · exact hfirst hnone.1 body heq.symm
      · exact hothers hnone.2 body hmem

lemma quoteFree_of_spells {items : List Item} {tokens : List String}
    (h : List.Forall₂ Item.Spells items tokens) (hitems : ∀ body, .group body ∉ items) :
    ∀ t ∈ tokens, QuoteFree t := by
  induction h with
  | nil => exact fun t ht => by cases ht
  | @cons item token items tokens hspells _ ih =>
    rw [List.forall_mem_cons]
    refine ⟨?_, ih fun body hmem => hitems body (List.mem_cons_of_mem item hmem)⟩
    cases item with
    | token text => exact hspells.2
    | group body => exact absurd List.mem_cons_self (hitems body)

lemma step_zero_of_ne_limit {maxDepth : Int} {st : State} {c : Char}
    (h : step maxDepth st c ≠ .limit) : step 0 st c = step maxDepth st c := by
  obtain ⟨tokens, mode, justClosed⟩ := st
  cases mode with
  | bare word =>
    simp only [step, bareStep, reaches_zero] at h ⊢
    by_cases hopens : (decide (c = '\x7b') && !justClosed) = true
    · by_cases hreaches : reaches maxDepth 0 = true <;> simp_all
    · simp [hopens]
  | quoted word => rfl
  | grouped word group outer =>
    simp only [step, groupedStep, reaches_zero] at h ⊢
    by_cases hopens : (decide (c = '\x7b') && !justClosed) = true
    · by_cases hreaches : reaches maxDepth (outer.length + 1) = true <;> simp_all
    · simp [hopens]

lemma run_zero_of_ok {maxDepth : Int} {st st' : State} {text : List Char}
    (h : run maxDepth (recording resolve) st text s = (.ok (.ok st'), s')) :
    run 0 (recording resolve) st text s = (.ok (.ok st'), s') := by
  induction text generalizing st s with
  | nil => exact h
  | cons c rest ih =>
    rw [run] at h ⊢
    have hstep : step maxDepth st c ≠ .limit := by
      intro hlimit
      rw [hlimit] at h
      cases h
    rw [step_zero_of_ne_limit hstep]
    cases hnext : step maxDepth st c with
    | next st'' =>
      rw [hnext] at h
      exact ih h
    | limit => exact absurd hnext hstep
    | resolve text andThen =>
      rw [hnext] at h
      obtain ⟨answer, t, hanswer, hrest⟩ := Recorded.exists_of_bind h
      dsimp only
      rw [Recorded.bind_apply, hanswer]
      exact ih hrest

lemma scan_zero_of_ok {maxDepth : Int} {line : String} {tokens : List String}
    (h : scan maxDepth (recording resolve) line s = (.ok (.ok tokens), s')) :
    scan 0 (recording resolve) line s = (.ok (.ok tokens), s') := by
  obtain ⟨reached | st, t, hrun, hfinish⟩ := Recorded.exists_of_bind h
  · cases hfinish
  · rw [scan, Recorded.bind_apply, run_zero_of_ok hrun]
    exact hfinish

lemma outline_eval_of_ok {maxDepth : Int} {line : String} {tokens : List String}
    (h : scan maxDepth (recording resolve) line s = (.ok (.ok tokens), s')) :
    (outline line).eval (recording resolve) s = (.ok tokens, s') := by
  have hfinishing := finishing_bare (recording resolve) [] [] false line.toList
  have hscan : scan 0 (recording resolve) line =
      (outline line).resume (recording resolve) [] := hfinishing
  have hzero := scan_zero_of_ok h
  rw [hscan] at hzero
  obtain ⟨more, t, heval, hmore⟩ := Recorded.exists_of_bind hzero
  cases hmore
  exact heval

lemma spells_of_eval {line : String} {tokens : List String} {w w' : σ} {calls : List String}
    (h : (outline line).eval (recording resolve) (w, []) = (.ok tokens, w', calls)) :
    List.Forall₂ Item.Spells (outline line).items tokens ∧
      (calls = [] → ∀ body, .group body ∉ (outline line).items) := by
  obtain ⟨done, t, hitems, htail⟩ := Recorded.exists_of_bind h
  obtain ⟨_, u, htail, htokens⟩ := Recorded.exists_of_bind htail
  cases htokens
  obtain ⟨hspells, later, hlater, hgroups⟩ :=
    evalItems_eq_ok (fun text => not_mem_of_mem_outlineFrom List.not_mem_nil) hitems
  refine ⟨hspells, fun hnone => hgroups ?_⟩
  obtain ⟨last, hlast⟩ := evalTail_grows resolve (outline line).tail t
  rw [htail, hnone, hlater, List.nil_append] at hlast
  exact (List.append_eq_nil_iff.mp hlast.symm).1

lemma spells_of_scan {maxDepth : Int} {line : String} {tokens : List String} {w w' : σ}
    {calls : List String}
    (h : scan maxDepth (recording resolve) line (w, []) = (.ok (.ok tokens), w', calls)) :
    (calls = [] → ∀ t ∈ tokens, QuoteFree t) ∧
      (outline line).eval (recording resolve) (w, []) = (.ok tokens, w', calls) ∧
      List.Forall₂ Item.Spells (outline line).items tokens := by
  have heval := outline_eval_of_ok h
  obtain ⟨hspells, hgroups⟩ := spells_of_eval heval
  exact ⟨fun hnone => quoteFree_of_spells hspells (hgroups hnone), heval, hspells⟩

end Recorded

/-- The lists of tokens that can be written as a text, to be read without asking anything, are
those without quotes. In any scan the tokens that are not results of groups have none. -/
theorem quoteFree_iff_written :
    (∀ tokens : List String, (∀ t ∈ tokens, QuoteFree t) ↔
      ∃ line, ∀ (maxDepth : Int) {m : Type → Type} [Monad m] [LawfulMonad m]
        (resolve : String → m String), scan maxDepth resolve line = pure (.ok tokens)) ∧
    (∀ tokens : List String, (∀ t ∈ tokens, QuoteFree t) →
      ∀ (maxDepth : Int) {m : Type → Type} [Monad m] [LawfulMonad m] (resolve : String → m String),
        scan maxDepth resolve (written tokens) = pure (.ok tokens)) ∧
    ∀ {ε σ : Type} (resolve : String → ExceptT ε (StateM σ) String) (line : String)
      (maxDepth : Int) (w w' : σ) (calls tokens : List String),
      scan maxDepth (recording resolve) line (w, []) = (.ok (.ok tokens), w', calls) →
        (calls = [] → ∀ t ∈ tokens, QuoteFree t) ∧
        (outline line).eval (recording resolve) (w, []) = (.ok tokens, w', calls) ∧
        List.Forall₂ Item.Spells (outline line).items tokens := by
  refine ⟨fun tokens => ⟨fun h => ⟨written tokens, fun maxDepth _ _ _ resolve => ?_⟩, ?_⟩,
    fun tokens h maxDepth _ _ _ resolve => scan_written maxDepth resolve h,
    fun resolve line maxDepth w w' calls tokens => spells_of_scan⟩
  · exact scan_written maxDepth resolve h
  · -- a line that is read whatever the resolver does is read with one that is never asked
    rintro ⟨line, hline⟩
    have hsilent := hline 0 (recording fun text => (pure text : ExceptT Empty (StateM Unit) String))
    exact (spells_of_scan (congrFun hsilent ((), []))).1 rfl

def awkward : List String := ["", " \x7b", "\x7d\x7b a", "b"]

theorem awkward_written :
    (∀ t ∈ awkward, QuoteFree t) ∧
      written awkward = "\"\" \" \x7b\" \"\x7d\x7b a\" \"b\"" ∧
      scan 1 (recording refusing) (written awkward) (0, []) = (.ok (.ok awkward), 0, []) ∧
      List.Forall₂ Item.Spells (outline "a\x7b\"\x7d\"b \x7b\"").items ["a", "<\">", "b \x7b"] := by
  have hfree : ∀ t ∈ awkward, QuoteFree t := by decide
  obtain ⟨-, hwritten, hscanned⟩ := quoteFree_iff_written
  have hgroup : scan 1 (recording refusing) "a\x7b\"\x7d\"b \x7b\"" (0, []) =
      (.ok (.ok ["a", "<\">", "b \x7b"]), 1, ["\""]) := by cbv
  refine ⟨hfree, by cbv, ?_, (hscanned refusing _ 1 0 1 _ _ hgroup).2.2⟩
  exact congrFun (hwritten awkward hfree 1 (recording refusing)) (0, [])

end LineShell.Scan
