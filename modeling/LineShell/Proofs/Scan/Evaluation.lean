import LineShell.Proofs.Scan.Outline

namespace LineShell.Scan

variable {m : Type → Type} [Monad m]

def finishing (resolve : String → m String) (st : State) (s : List Char) :
    m (Except LimitReached (List String)) := do
  let outcome ← run 0 resolve st s
  pure (outcome.map State.finish)

variable [LawfulMonad m] (resolve : String → m String)

lemma finishing_nil (st : State) : finishing resolve st [] = pure (.ok st.finish) := by
  simp [finishing, run, Except.map]

lemma finishing_next {st : State} (st' : State) {c : Char} (h : step 0 st c = .next st')
    (s : List Char) :
    finishing resolve st (c :: s) = finishing resolve st' s := by
  simp [finishing, run, h]

lemma finishing_resolve {st : State} {c : Char} (text : String) (andThen : String → State)
    (h : step 0 st c = .resolve text andThen) (s : List Char) :
    finishing resolve st (c :: s) =
      resolve text >>= fun result => finishing resolve (andThen result) s := by
  simp [finishing, run, h]

def resumeGroup (tokens : List String) (word group : List Char) (outer : List (List Char)) :
    Reading → m (Except LimitReached (List String))
  | .closed body rest => do
    let text ← evalPieces resolve body
    let result ← resolve (String.ofList (group.reverse ++ text))
    finishing resolve (closeGroup tokens word outer result) rest
  | .cut first inner => do
    evalTail resolve (first :: inner)
    pure (.ok (addWord word tokens).reverse)

lemma resumeGroup_cons (tokens : List String) (word group : List Char) (outer : List (List Char))
    (c : Char) (r : Reading) :
    resumeGroup resolve tokens word (c :: group) outer r =
      resumeGroup resolve tokens word group outer (r.cons (.char c)) := by
  cases r with
  | closed body rest => simp [resumeGroup, Reading.cons, evalPieces, Piece.eval]
  | cut first inner => simp [resumeGroup, Reading.cons, evalTail, evalPieces, Piece.eval]

lemma resumeGroup_group (tokens : List String) (word group : List Char) (outer : List (List Char))
    (body : List Piece) (r : Reading) :
    resumeGroup resolve tokens word group outer (r.cons (.group body)) =
      evalPieces resolve body >>= fun text => resolve (String.ofList text) >>= fun result =>
        resumeGroup resolve tokens word (result.toList.reverse ++ group) outer r := by
  cases r with
  | closed body rest => simp [resumeGroup, Reading.cons, evalPieces, Piece.eval]
  | cut first inner => simp [resumeGroup, Reading.cons, evalTail, evalPieces, Piece.eval]

lemma finishing_grouped (tokens : List String) (word group : List Char) (outer : List (List Char))
    (escaped : Bool) (s : List Char) :
    finishing resolve ⟨tokens, .grouped word group outer, escaped⟩ s =
      resumeGroup resolve tokens word group outer (readGroup escaped s).1 := by
  -- The texts kept by the scanner vary: a group is read with an empty one, then spliced into the
  -- group around it.
  fun_induction readGroup escaped s generalizing group outer with
  | case1 escaped =>
    simp [finishing_nil, State.finish, resumeGroup, evalTail, evalPieces]
  | case2 escaped c rest hc first inner hin hr ih =>
    rw [finishing_next resolve ⟨tokens, .grouped word [] (group :: outer), false⟩, ih, hr]
    · simp [resumeGroup, evalTail, evalPieces]
    · simp_all [step, groupedStep, reaches]
  | case3 escaped c rest hc body behind hb hr r ih ih' =>
    rw [finishing_next resolve ⟨tokens, .grouped word [] (group :: outer), false⟩, ih, hr]
    · rw [resumeGroup_group]
      simp only [r, ← ih']
      simp only [resumeGroup, closeGroup, List.reverse_nil, List.nil_append]
    · simp_all [step, groupedStep, reaches]
  | case4 escaped rest hc =>
    rw [finishing_resolve resolve (textOf group) (closeGroup tokens word outer)]
    · simp [resumeGroup, evalPieces, textOf]
    · simp_all [step, groupedStep]
  | case5 escaped c rest hc hc' r ih =>
    rw [finishing_next resolve ⟨tokens, .grouped word (c :: group) outer, false⟩, ih]
    · exact resumeGroup_cons ..
    · simp_all [step, groupedStep]

def Outline.resume (done : List String) (o : Outline) : m (Except LimitReached (List String)) := do
  let more ← o.eval resolve
  pure (.ok (done ++ more))

def wordTokens (word : List Char) : List String :=
  if word.isEmpty then [] else [String.ofList word]

lemma reverse_addWord (word : List Char) (tokens : List String) :
    (addWord word.reverse tokens).reverse = tokens.reverse ++ wordTokens word := by
  cases word <;> simp [addWord, wordTokens, textOf]

lemma Outline.after_append (a b : List Item) (o : Outline) :
    o.after (a ++ b) = (o.after b).after a := by
  simp [Outline.after]

lemma resume_word (done : List String) (word : List Char) (o : Outline) :
    (o.after (wordItem word)).resume resolve done = o.resume resolve (done ++ wordTokens word) := by
  cases word with
  | nil => simp [Outline.resume, Outline.after, wordItem, wordTokens]
  | cons c word =>
    simp [Outline.resume, Outline.after, Outline.eval, wordItem, wordTokens, evalItems, Item.eval]

lemma resume_token (done : List String) (text : List Char) (o : Outline) :
    (o.after [.token text]).resume resolve done =
      o.resume resolve (done ++ [String.ofList text]) := by
  simp [Outline.resume, Outline.after, Outline.eval, evalItems, Item.eval]

lemma resume_group (done : List String) (body : List Piece) (o : Outline) :
    (o.after [.group body]).resume resolve done =
      evalPieces resolve body >>= fun text => resolve (String.ofList text) >>= fun result =>
        o.resume resolve (done ++ [result]) := by
  simp [Outline.resume, Outline.after, Outline.eval, evalItems, Item.eval]

lemma finishing_quoted (tokens : List String) (word : List Char) (escaped : Bool) (s : List Char) :
    finishing resolve ⟨tokens, .quoted word.reverse, escaped⟩ s =
      match s.dropWhile (· != '"') with
      | [] => pure (.ok tokens.reverse)
      | _ :: behind =>
        finishing resolve
          ⟨String.ofList (word ++ s.takeWhile (· != '"')) :: tokens, .bare [], true⟩ behind := by
  induction s generalizing word escaped with
  | nil => simp [finishing_nil, State.finish]
  | cons c rest ih =>
    by_cases hc : c = '"'
    · rw [finishing_next resolve ⟨textOf word.reverse :: tokens, .bare [], true⟩]
      · simp [hc, textOf]
      · simp [step, quotedStep, hc]
    · rw [finishing_next resolve ⟨tokens, .quoted (word ++ [c]).reverse, false⟩, ih]
      · simp [hc]
      · simp [step, quotedStep, hc]

lemma resume_end (done : List String) (word : List Char) (tail : List (List Piece)) :
    Outline.resume resolve done ⟨wordItem word, tail⟩ =
      evalTail resolve tail >>= fun _ => pure (.ok (done ++ wordTokens word)) := by
  cases word with
  | nil => simp [Outline.resume, Outline.eval, wordItem, wordTokens, evalItems]
  | cons c word => simp [Outline.resume, Outline.eval, wordItem, wordTokens, evalItems, Item.eval]

lemma finishing_bare (tokens : List String) (word : List Char) (escaped : Bool) (s : List Char) :
    finishing resolve ⟨tokens, .bare word.reverse, escaped⟩ s =
      (outlineFrom escaped word s).resume resolve tokens.reverse := by
  fun_induction outlineFrom escaped word s generalizing tokens with
  | case1 escaped word =>
    rw [finishing_nil, resume_end]
    simp [State.finish, reverse_addWord, evalTail]
  | case2 escaped word c rest hc first inner hin hr =>
    rw [finishing_next resolve ⟨tokens, .grouped word.reverse [] [], false⟩,
      finishing_grouped, hr, resume_end]
    · simp only [resumeGroup, reverse_addWord]
    · simp_all [step, bareStep, reaches]
  | case3 escaped word c rest hc body behind hb hr ih =>
    -- the word that touches the brace stays with the scanner until the group has closed
    rw [finishing_next resolve ⟨tokens, .grouped word.reverse [] [], false⟩,
      finishing_grouped, hr, Outline.after_append, resume_word, resume_group]
    · simp only [resumeGroup, closeGroup, List.reverse_nil, List.nil_append] at ih ⊢
      simp only [ih, List.reverse_cons, reverse_addWord]
    · simp_all [step, bareStep, reaches]
  | case4 escaped word rest hq =>
    rw [finishing_next resolve ⟨tokens, .quoted word.reverse, false⟩, finishing_quoted, hq]
    · simp [Outline.resume, Outline.eval, evalItems, evalTail]
    · simp [step, bareStep]
  | case5 escaped word rest quote behind hq hc ih =>
    rw [finishing_next resolve ⟨tokens, .quoted word.reverse, false⟩, finishing_quoted, hq,
      resume_token]
    · simp only [List.reverse_nil] at ih
      simp only [ih, List.reverse_cons]
    · simp [step, bareStep]
  | case6 escaped word rest hc hq ih =>
    rw [finishing_next resolve ⟨addWord word.reverse tokens, .bare [], false⟩, resume_word]
    · simp only [List.reverse_nil] at ih
      rw [ih, reverse_addWord]
    · simp [step, bareStep]
  | case7 escaped word c rest hc hq hs ih =>
    rw [finishing_next resolve ⟨tokens, .bare (word ++ [c]).reverse, false⟩, ih]
    simp_all [step, bareStep]

/-- Whatever the resolver does, a scan asks it for the groups of the structure that the text alone
has, each after the groups within it and all from left to right. -/
theorem scan_eq_eval_outline {m : Type → Type} [Monad m] [LawfulMonad m]
    (resolve : String → m String) (line : String) :
    scan 0 resolve line = (outline line).eval resolve >>= fun tokens => pure (.ok tokens) := by
  have h := finishing_bare resolve [] [] false line.toList
  simpa only [finishing, Outline.resume, List.reverse_nil, List.nil_append] using! h

def journaling (text : String) : ExceptT String (StateM (List String)) String := do
  modify (· ++ [text])
  if text = "bad" then throw "refused" else pure ("<" ++ text ++ ">")

theorem scan_eq_eval_outline_journaling :
    LawfulMonad (ExceptT String (StateM (List String))) ∧
      scan 0 journaling "a\x7bb \x7bc\x7d\x7bd\x7d \x7bbad\x7d\x7be\x7d" =
        ((outline "a\x7bb \x7bc\x7d\x7bd\x7d \x7bbad\x7d\x7be\x7d").eval journaling
          >>= fun tokens => pure (.ok tokens)) ∧
      (scan 0 journaling "a\x7bb \x7bc\x7d\x7bd\x7d \x7bbad\x7d\x7be\x7d").run [] =
        (.error "refused", ["c", "b <c>\x7bd", "bad"]) :=
  ⟨inferInstance, scan_eq_eval_outline journaling _, by cbv⟩

end LineShell.Scan
