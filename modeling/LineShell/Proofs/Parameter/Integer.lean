import LineShell.Proofs.Parameter.Registration

namespace LineShell

open LineShell.Text

namespace Text

def isSeparator (c : Char) : Bool :=
  28 ≤ c.toNat && c.toNat ≤ 31

lemma isNumericBlank_iff {c : Char} :
    isNumericBlank c = true ↔ isBlank c = true ∧ isSeparator c = false := by
  rw [isNumericBlank, isSeparator, Bool.and_eq_true, Bool.not_eq_true']

lemma isBlank_of_isSeparator {c : Char} (h : isSeparator c = true) : isBlank c = true := by
  simp only [isSeparator, Bool.and_eq_true, decide_eq_true_eq] at h
  simp only [isBlank]
  grind

lemma not_isBlank_of_isBasicDigit {c : Char} (h : isBasicDigit c = true) : isBlank c = false := by
  have h0 : ('0' : Char).val.toNat = 48 := rfl
  have h9 : ('9' : Char).val.toNat = 57 := rfl
  simp only [isBasicDigit, Bool.and_eq_true, decide_eq_true_eq, Char.le_def,
    UInt32.le_iff_toNat_le, h0, h9] at h
  simp only [isBlank, Char.toNat]
  grind

lemma dropWhile_behind {p : Char → Bool} {before rest : List Char}
    (hbefore : ∀ c ∈ before, p c = true) (hrest : ∀ c ∈ rest.head?, p c = false) :
    (before ++ rest).dropWhile p = rest := by
  rw [List.dropWhile_append_of_pos hbefore]
  cases rest with
  | nil => rfl
  | cons c rest => exact List.dropWhile_cons_of_neg (by simp [hrest c rfl])

lemma exists_strip (s : List Char) : ∃ before after, s = before ++ (strip s ++ after) ∧
    (∀ c ∈ before, isBlank c = true) ∧ ∀ c ∈ after, isBlank c = true := by
  let rest := s.dropWhile isBlank
  refine ⟨s.takeWhile isBlank, (rest.reverse.takeWhile isBlank).reverse, ?_, ?_, ?_⟩
  · rw [strip, dropTrailing, dropLeading, ← List.reverse_append, List.takeWhile_append_dropWhile,
      List.reverse_reverse, List.takeWhile_append_dropWhile]
  · exact fun c hc => List.mem_takeWhile_imp hc
  · exact fun c hc => List.mem_takeWhile_imp (List.mem_reverse.mp hc)

lemma startsWithSeparator_append {before rest : List Char}
    (hbefore : ∀ c ∈ before, isBlank c = true) (hrest : ∀ c ∈ rest.head?, isBlank c = false) :
    Parser.startsWithSeparator (before ++ rest) = before.any isSeparator := by
  rw [Parser.startsWithSeparator, dropLeading]
  induction before with
  | nil =>
    have hnumeric : ∀ c ∈ rest.head?, isNumericBlank c = false := by
      intro c hc
      rw [isNumericBlank, hrest c hc, Bool.false_and]
    rw [dropWhile_behind (by simp) hnumeric]
    cases rest with
    | nil => rfl
    | cons c rest => simp [hrest c rfl]
  | cons c before ih =>
    rw [List.forall_mem_cons] at hbefore
    rw [List.cons_append, List.any_cons]
    cases hc : isSeparator c with
    | true =>
      have hstops : ¬ isNumericBlank c = true := by simp [isNumericBlank_iff, hc]
      simp [List.dropWhile_cons_of_neg hstops, hbefore.1]
    | false =>
      have hpasses : isNumericBlank c = true := isNumericBlank_iff.mpr ⟨hbefore.1, hc⟩
      rw [List.dropWhile_cons_of_pos hpasses, ih hbefore.2, Bool.false_or]

end Text

namespace Decimal

inductive Sign
  | plus
  | minus
  deriving DecidableEq, Repr

def Sign.toChar : Sign → Char
  | .plus => '+'
  | .minus => '-'

structure Numeral (blank : Char → Bool) where
  before : List Char
  sign : Option Sign
  digits : List Char
  after : List Char
  before_blank : ∀ c ∈ before, blank c = true
  digits_ne_nil : digits ≠ []
  digits_basic : ∀ c ∈ digits, isBasicDigit c = true
  after_blank : ∀ c ∈ after, blank c = true

namespace Numeral

variable {blank wider : Char → Bool}

def body (w : Numeral blank) : List Char :=
  (w.sign.map Sign.toChar).toList ++ w.digits

def text (w : Numeral blank) : List Char :=
  w.before ++ (w.body ++ w.after)

def value (w : Numeral blank) : Int :=
  let n : Int := Nat.ofDigitChars 10 w.digits 0
  if w.sign = some .minus then -n else n

def within (w : Numeral blank) (hbefore : ∀ c ∈ w.before, wider c = true)
    (hafter : ∀ c ∈ w.after, wider c = true) : Numeral wider :=
  ⟨w.before, w.sign, w.digits, w.after, hbefore, w.digits_ne_nil, w.digits_basic, hafter⟩

def plain (sign : Option Sign) (n : Nat) : Numeral blank where
  before := []
  sign := sign
  digits := Nat.toDigits 10 n
  after := []
  before_blank := by simp
  digits_ne_nil := Nat.toDigits_ne_nil
  digits_basic := fun _ hc => Nat.isDigit_of_mem_toDigits (by decide) (by decide) hc
  after_blank := by simp

lemma body_ne_nil (w : Numeral blank) : w.body ≠ [] := by
  simp [body, w.digits_ne_nil]

lemma not_isBlank_of_mem_body (w : Numeral blank) {c : Char} (hc : c ∈ w.body) :
    isBlank c = false := by
  rw [body, List.mem_append] at hc
  rcases hc with hsign | hdigit
  · rcases hs : w.sign with _ | _ | _ <;> rw [hs] at hsign <;> cases hsign
    · rfl
    · contradiction
    · rfl
    · contradiction
  · exact not_isBlank_of_isBasicDigit (w.digits_basic c hdigit)

lemma body_head (w : Numeral blank) (rest : List Char) :
    ∀ c ∈ (w.body ++ rest).head?, isBlank c = false := by
  intro c hc
  rw [List.head?_append_of_ne_nil _ w.body_ne_nil] at hc
  exact w.not_isBlank_of_mem_body (List.mem_of_mem_head? hc)

lemma body_last (w : Numeral blank) (rest : List Char) :
    ∀ c ∈ (w.body.reverse ++ rest).head?, isBlank c = false := by
  intro c hc
  rw [List.head?_append_of_ne_nil _ (List.reverse_ne_nil_iff.mpr w.body_ne_nil)] at hc
  exact w.not_isBlank_of_mem_body (List.mem_reverse.mp (List.mem_of_mem_head? hc))

lemma any_isSeparator_text (w : Numeral blank) :
    w.text.any isSeparator = (w.before.any isSeparator || w.after.any isSeparator) := by
  have hbody : w.body.any isSeparator = false := by
    rw [List.any_eq_false]
    intro c hc hseparator
    have hblank := w.not_isBlank_of_mem_body hc
    rw [isBlank_of_isSeparator hseparator] at hblank
    cases hblank
  rw [text, List.any_append, List.any_append, hbody, Bool.false_or]

lemma strip_text (w : Numeral isBlank) : strip w.text = w.body := by
  have hafter : ∀ c ∈ w.after.reverse, isBlank c = true :=
    fun c hc => w.after_blank c (List.mem_reverse.mp hc)
  have hlast := w.body_last []
  rw [List.append_nil] at hlast
  rw [strip, dropLeading, text, dropWhile_behind w.before_blank (w.body_head w.after), dropTrailing,
    List.reverse_append, dropWhile_behind hafter hlast, List.reverse_reverse]

lemma splitSign_body (w : Numeral blank) :
    splitSign w.body = (decide (w.sign = some .minus), w.digits) := by
  have hdigits := w.digits_basic
  obtain ⟨d, digits, hd⟩ := List.exists_cons_of_ne_nil w.digits_ne_nil
  rw [body]
  rcases hs : w.sign with _ | _ | _
  · rw [hd] at hdigits ⊢
    have hdigit := hdigits d List.mem_cons_self
    have hplus : d ≠ '+' := by
      rintro rfl
      cases hdigit
    have hminus : d ≠ '-' := by
      rintro rfl
      cases hdigit
    exact splitSign.eq_3 (d :: digits) (fun r h => hplus (List.cons.inj h).1)
      fun r h => hminus (List.cons.inj h).1
  · rfl
  · rfl

lemma integerShape?_text (w : Numeral isBlank) :
    integerShape? w.text = some (decide (w.sign = some .minus), w.digits) := by
  have hdigits : w.digits.all isBasicDigit = true := List.all_eq_true.mpr w.digits_basic
  have hne : w.digits.isEmpty = false := by simp [w.digits_ne_nil]
  rw [integerShape?, strip_text, splitSign_body]
  simp [hdigits, hne]

lemma signedNat_digits (w : Numeral blank) :
    signedNat (decide (w.sign = some .minus)) w.digits = w.value := by
  have hread : readNat w.digits = Nat.ofDigitChars 10 w.digits 0 := by
    rw [readNat, ofDigits, List.foldl_map, Nat.ofDigitChars_eq_foldl]
    rfl
  rw [signedNat, value, hread]
  simp only [decide_eq_true_eq]

lemma length_digits_le (w : Numeral blank) : w.digits.length ≤ w.text.countP isBasicDigit := by
  have hdigits : w.digits.countP isBasicDigit = w.digits.length :=
    List.countP_eq_length.mpr w.digits_basic
  simp only [text, body, List.countP_append, hdigits]
  omega

end Numeral

lemma exists_splitSign (s : List Char) : ∃ sign : Option Sign,
    s = (sign.map Sign.toChar).toList ++ (splitSign s).2 ∧
      (splitSign s).1 = decide (sign = some .minus) := by
  rw [splitSign.eq_def]
  split
  · exact ⟨some .plus, rfl, rfl⟩
  · exact ⟨some .minus, rfl, rfl⟩
  · exact ⟨none, rfl, rfl⟩

lemma exists_numeral {s : List Char} (h : integerShape? s ≠ none) :
    ∃ w : Numeral isBlank, w.text = s := by
  obtain ⟨before, after, hs, hbefore, hafter⟩ := exists_strip s
  obtain ⟨sign, hsign, -⟩ := exists_splitSign (strip s)
  have hdigits : (splitSign (strip s)).2 ≠ [] ∧
      ∀ c ∈ (splitSign (strip s)).2, isBasicDigit c = true := by
    rw [integerShape?] at h
    simpa using h
  refine ⟨⟨before, sign, _, after, hbefore, hdigits.1, hdigits.2, hafter⟩, ?_⟩
  rw [Numeral.text, Numeral.body, ← hsign, ← hs]

end Decimal

open Decimal

/-- The text is an integer between characters of a class. -/
def Writes (blank : Char → Bool) (literal : String) (n : Int) : Prop :=
  ∃ w : Numeral blank, w.text = literal.toList ∧ w.value = n

def Fits64 (n : Int) : Prop :=
  -2 ^ 63 ≤ n ∧ n ≤ 2 ^ 63 - 1

lemma inRange_iff (n : Int) : Parser.inRange n = true ↔ Fits64 n := by
  simp [Parser.inRange, Fits64]

section Parsing

variable {literal : String} {n : Int}

lemma integer_text (w : Numeral isBlank) (h : w.text = literal.toList)
    (hlength : w.digits.length ≤ digitLimit) :
    literal.toList.any isSeparator = false ∧ Fits64 w.value ∧
        Parser.integer literal = .ok (.typed (.integer w.value)) ∨
      (literal.toList.any isSeparator = true ∨ ¬ Fits64 w.value) ∧
        ∃ reason, Parser.integer literal = Parser.refuse reason := by
  have hbefore : Parser.startsWithSeparator w.text = w.before.any isSeparator :=
    startsWithSeparator_append w.before_blank (w.body_head w.after)
  have hafter : Parser.startsWithSeparator w.text.reverse = w.after.any isSeparator := by
    rw [Numeral.text, List.reverse_append, List.reverse_append, List.append_assoc,
      startsWithSeparator_append (fun c hc => w.after_blank c (List.mem_reverse.mp hc))
        (w.body_last _), List.any_reverse]
  have hfits := inRange_iff w.value
  simp only [Parser.integer, ← h, w.integerShape?_text, hbefore, hafter, w.signedNat_digits,
    w.any_isSeparator_text, Nat.not_lt.mpr hlength, if_false]
  cases w.before.any isSeparator with
  | true => exact .inr ⟨.inl rfl, _, rfl⟩
  | false =>
    cases w.after.any isSeparator with
    | true => exact .inr ⟨.inl rfl, _, rfl⟩
    | false =>
      cases hrange : Parser.inRange w.value with
      | true => exact .inl ⟨rfl, hfits.mp hrange, rfl⟩
      | false =>
        have hnot : ¬ Fits64 w.value := fun hf => by simp [hfits.mpr hf] at hrange
        exact .inr ⟨.inr hnot, _, rfl⟩

lemma integer_of_not_writes (h : ¬ ∃ n, Writes isBlank literal n) :
    ∃ reason, Parser.integer literal = Parser.refuse reason := by
  have hshape : integerShape? literal.toList = none := by
    by_contra hne
    obtain ⟨w, hw⟩ := exists_numeral hne
    exact h ⟨w.value, w, hw, rfl⟩
  rw [Parser.integer, hshape]
  exact ⟨_, rfl⟩

lemma Writes.of_isNumericBlank (h : Writes isNumericBlank literal n) :
    Writes isBlank literal n := by
  obtain ⟨w, hw, hn⟩ := h
  exact ⟨w.within (fun c hc => (isNumericBlank_iff.mp (w.before_blank c hc)).1)
    (fun c hc => (isNumericBlank_iff.mp (w.after_blank c hc)).1), hw, hn⟩

lemma Writes.unique {m : Int} (hm : Writes isBlank literal m) (hn : Writes isBlank literal n) :
    m = n := by
  obtain ⟨v, hv, rfl⟩ := hm
  obtain ⟨w, hw, rfl⟩ := hn
  have hshape := v.integerShape?_text
  rw [hv, ← hw, w.integerShape?_text] at hshape
  obtain ⟨hsign, hdigits⟩ := Prod.mk.inj (Option.some.inj hshape)
  rw [← v.signedNat_digits, ← w.signedNat_digits, hsign, hdigits]

lemma Writes.isNumericBlank_iff (h : Writes isBlank literal n) :
    Writes isNumericBlank literal n ↔ literal.toList.any isSeparator = false := by
  constructor
  · rintro ⟨w, hw, -⟩
    have hbefore : w.before.any isSeparator = false :=
      List.any_eq_false.mpr fun c hc => by
        simp [(Text.isNumericBlank_iff.mp (w.before_blank c hc)).2]
    have hafter : w.after.any isSeparator = false :=
      List.any_eq_false.mpr fun c hc => by
        simp [(Text.isNumericBlank_iff.mp (w.after_blank c hc)).2]
    rw [← hw, w.any_isSeparator_text, hbefore, hafter, Bool.false_or]
  · intro hplain
    obtain ⟨w, hw, hn⟩ := h
    rw [← hw, w.any_isSeparator_text, Bool.or_eq_false_iff, List.any_eq_false,
      List.any_eq_false] at hplain
    refine ⟨w.within (fun c hc => ?_) (fun c hc => ?_), hw, hn⟩
    · exact Text.isNumericBlank_iff.mpr ⟨w.before_blank c hc, by simpa using hplain.1 c hc⟩
    · exact Text.isNumericBlank_iff.mpr ⟨w.after_blank c hc, by simpa using hplain.2 c hc⟩

lemma integer_cases (h : literal.toList.countP isBasicDigit ≤ digitLimit) :
    (∃ n, Writes isNumericBlank literal n ∧ Fits64 n ∧
        Parser.integer literal = .ok (.typed (.integer n))) ∨
      (¬ ∃ n, Writes isNumericBlank literal n ∧ Fits64 n) ∧
        ∃ reason, Parser.integer literal = Parser.refuse reason := by
  by_cases hshape : ∃ n, Writes isBlank literal n
  · obtain ⟨n, w, hw, rfl⟩ := hshape
    have hwrites : Writes isBlank literal w.value := ⟨w, hw, rfl⟩
    have hlength := w.length_digits_le.trans (hw ▸ h)
    rcases integer_text w hw hlength with ⟨hplain, hfits, hok⟩ | ⟨hfault, hrefused⟩
    · exact .inl ⟨_, hwrites.isNumericBlank_iff.mpr hplain, hfits, hok⟩
    · refine .inr ⟨?_, hrefused⟩
      rintro ⟨n, hn, hfits⟩
      obtain rfl := hwrites.unique hn.of_isNumericBlank
      rw [hwrites.isNumericBlank_iff.mp hn] at hfault
      simp [hfits] at hfault
  · refine .inr ⟨?_, integer_of_not_writes hshape⟩
    rintro ⟨n, hn, -⟩
    exact hshape ⟨n, hn.of_isNumericBlank⟩

end Parsing

lemma get?_int_registerAll (offers : List (String × Option Parser)) :
    (TypeTable.builtin.registerAll offers).2.parsers.get? intTypeName = some Parser.integer := by
  rw [TypeTable.get?_registerAll]
  rfl

lemma writes_intText (blank : Char → Bool) (n : Int) : Writes blank (intText n) n := by
  cases n with
  | ofNat n =>
    refine ⟨.plain none n, ?_, ?_⟩
    · simp [Numeral.text, Numeral.body, Numeral.plain, intText, natText]
    · simp [Numeral.value, Numeral.plain]
  | negSucc n =>
    refine ⟨.plain (some .minus) (n + 1), ?_, ?_⟩
    · simp [Numeral.text, Numeral.body, Numeral.plain, intText, natText, Sign.toChar]
    · simp [Numeral.value, Numeral.plain, Int.negSucc_eq]

lemma countP_intText_le {n : Int} (h : Fits64 n) :
    (intText n).toList.countP isBasicDigit ≤ digitLimit := by
  have hdigits : ∀ m, m < 10 ^ 19 → (natText m).toList.countP isBasicDigit ≤ 19 := by
    intro m hm
    rw [natText, String.toList_ofList]
    exact List.countP_le_length.trans (Nat.toDigits_length 10 m 19 (by decide) hm)
  have hlimit : digitLimit = 4300 := rfl
  obtain ⟨hlow, hhigh⟩ := h
  cases n with
  | ofNat n =>
    rw [Int.ofNat_eq_natCast] at hhigh
    have hcount := hdigits n (by omega)
    rw [intText]
    omega
  | negSucc n =>
    have hcount := hdigits (n + 1) (by omega)
    have hminus : "-".toList.countP isBasicDigit = 0 := rfl
    rw [intText, String.toList_append, List.countP_append]
    omega

lemma parse_int_cases (offers : List (String × Option Parser)) {literal : String}
    (h : literal.toList.countP isBasicDigit ≤ digitLimit) :
    let types := (TypeTable.builtin.registerAll offers).2
    (∃ n, Writes isNumericBlank literal n ∧ Fits64 n ∧
        types.parse "int" literal = .ok (.integer n)) ∨
      (¬ ∃ n, Writes isNumericBlank literal n ∧ Fits64 n) ∧
        ∃ reason, types.parse "int" literal = .error (.mismatch "int" literal reason "int") := by
  have hint : (TypeTable.builtin.registerAll offers).2.parsers.get? "int" = some Parser.integer :=
    get?_int_registerAll offers
  dsimp only
  rw [TypeTable.parse, hint]
  dsimp only
  rcases integer_cases h with ⟨n, hwrites, hfits, hok⟩ | ⟨hnone, reason, hrefused⟩
  · rw [hok]
    exact .inl ⟨n, hwrites, hfits, rfl⟩
  · rw [hrefused]
    exact .inr ⟨hnone, reason, rfl⟩

lemma parse_int_ok_iff (offers : List (String × Option Parser)) {literal : String}
    (h : literal.toList.countP isBasicDigit ≤ digitLimit) (v : ParameterValue) :
    (TypeTable.builtin.registerAll offers).2.parse "int" literal = .ok v ↔
      ∃ n, Writes isNumericBlank literal n ∧ Fits64 n ∧ v = .integer n := by
  rcases parse_int_cases offers h with ⟨n, hwrites, hfits, hparse⟩ | ⟨hnone, reason, hparse⟩ <;>
    rw [hparse]
  · constructor
    · rintro ⟨⟩
      exact ⟨n, hwrites, hfits, rfl⟩
    · rintro ⟨m, hm, -, rfl⟩
      rw [hwrites.of_isNumericBlank.unique hm.of_isNumericBlank]
  · constructor
    · rintro ⟨⟩
    · rintro ⟨m, hm, hfits, -⟩
      exact (hnone ⟨m, hm, hfits⟩).elim

lemma parse_int_error (offers : List (String × Option Parser)) {literal : String}
    (h : literal.toList.countP isBasicDigit ≤ digitLimit)
    (hnone : ¬ ∃ v, (TypeTable.builtin.registerAll offers).2.parse "int" literal = .ok v) :
    ∃ reason, (TypeTable.builtin.registerAll offers).2.parse "int" literal =
      .error (.mismatch "int" literal reason "int") := by
  rcases parse_int_cases offers h with ⟨n, -, -, hparse⟩ | ⟨-, hrefused⟩
  · exact (hnone ⟨_, hparse⟩).elim
  · exact hrefused

lemma reads_shape_iff {literal : String} {reads : ParameterValue → Prop}
    (hreads : ∀ v, reads v ↔ ∃ n, Writes isNumericBlank literal n ∧ Fits64 n ∧ v = .integer n) :
    (∀ v, reads v ↔ ∃ n, Writes isBlank literal n ∧ Fits64 n ∧ v = .integer n) ↔
      ¬ ∃ n, Writes isBlank literal n ∧ Fits64 n ∧ ∃ c ∈ literal.toList, isSeparator c = true := by
  constructor
  · rintro hshape ⟨n, hwrites, hfits, c, hc, hseparator⟩
    obtain ⟨m, hm, -, hvalue⟩ := (hreads _).mp ((hshape _).mpr ⟨n, hwrites, hfits, rfl⟩)
    obtain rfl := ParameterValue.integer.inj hvalue
    have hplain := List.any_eq_false.mp (hwrites.isNumericBlank_iff.mp hm) c hc
    exact hplain hseparator
  · intro hnone v
    rw [hreads]
    constructor
    · rintro ⟨n, hwrites, hfits, rfl⟩
      exact ⟨n, hwrites.of_isNumericBlank, hfits, rfl⟩
    · rintro ⟨n, hwrites, hfits, rfl⟩
      refine ⟨n, hwrites.isNumericBlank_iff.mpr ?_, hfits, rfl⟩
      rw [List.any_eq_false]
      exact fun c hc hseparator => hnone ⟨n, hwrites, hfits, c, hc, hseparator⟩

lemma parse_intText (offers : List (String × Option Parser)) {n : Int} (hfits : Fits64 n) :
    (TypeTable.builtin.registerAll offers).2.parse "int" (intText n) = .ok (.integer n) :=
  (parse_int_ok_iff offers (countP_intText_le hfits) _).mpr
    ⟨n, writes_intText isNumericBlank n, hfits, rfl⟩

/-- Whatever else is registered, the integer type reads the integers of 64 bits in their decimal
form, with a sign or without, and refuses every other text as a mismatch. White space around them
does no harm unless it has a separator, and a number that is read is read again from its text. -/
theorem parse_int_eq_ok_iff (offers : List (String × Option Parser)) (literal : String) :
    let types := (TypeTable.builtin.registerAll offers).2
    (literal.toList.countP isBasicDigit ≤ 4300 →
      (∀ v, types.parse "int" literal = .ok v ↔
        ∃ n, Writes isNumericBlank literal n ∧ Fits64 n ∧ v = .integer n) ∧
      ((¬ ∃ v, types.parse "int" literal = .ok v) →
        ∃ reason, types.parse "int" literal = .error (.mismatch "int" literal reason "int")) ∧
      ((∀ v, types.parse "int" literal = .ok v ↔
          ∃ n, Writes isBlank literal n ∧ Fits64 n ∧ v = .integer n) ↔
        ¬ ∃ n, Writes isBlank literal n ∧ Fits64 n ∧ ∃ c ∈ literal.toList, isSeparator c = true)) ∧
    ∀ n, Fits64 n → ∃ v, types.parse "int" (intText n) = .ok v ∧ v = .integer n ∧
      types.parse "int" v.toText = .ok v := by
  intro types
  refine ⟨fun h => ?_, fun n hfits => ?_⟩
  · have hok := parse_int_ok_iff offers h
    exact ⟨hok, parse_int_error offers h, reads_shape_iff hok⟩
  · have hparse := parse_intText offers hfits
    exact ⟨.integer n, hparse, rfl, hparse⟩

def spacedNumeral : Numeral isNumericBlank where
  before := ['\u3000']
  sign := some .minus
  digits := ['0', '0', '4', '2']
  after := ['\t']
  before_blank := List.all_eq_true.mp rfl
  digits_ne_nil := by decide
  digits_basic := List.all_eq_true.mp rfl
  after_blank := List.all_eq_true.mp rfl

theorem spaced_parse_int :
    "\u3000-0042\t".toList.countP isBasicDigit ≤ 4300 ∧
      TypeTable.builtin.parse "int" "\u3000-0042\t" = .ok (.integer (-42)) := by
  have hcount : "\u3000-0042\t".toList.countP isBasicDigit ≤ 4300 := by decide
  have hwrites : Writes isNumericBlank "\u3000-0042\t" (-42) := ⟨spacedNumeral, rfl, rfl⟩
  have hfits : Fits64 (-42) := by simp [Fits64]
  obtain ⟨hparse, -⟩ := (parse_int_eq_ok_iff [] "\u3000-0042\t").1 hcount
  exact ⟨hcount, (hparse _).mpr ⟨-42, hwrites, hfits, rfl⟩⟩

def separatedNumeral : Numeral isBlank where
  before := ['\x1c']
  sign := none
  digits := ['5']
  after := []
  before_blank := List.all_eq_true.mp rfl
  digits_ne_nil := by decide
  digits_basic := List.all_eq_true.mp rfl
  after_blank := List.all_eq_true.mp rfl

/-- A separator is white space, but no white space for a number. -/
theorem separated_five_refused :
    ("\x1c5".toList.countP isBasicDigit ≤ 4300 ∧ Writes isBlank "\x1c5" 5 ∧ Fits64 5) ∧
      ∃ reason, TypeTable.builtin.parse "int" "\x1c5"
        = .error (.mismatch "int" "\x1c5" reason "int") := by
  have hwrites : Writes isBlank "\x1c5" 5 := ⟨separatedNumeral, rfl, rfl⟩
  have hfits : Fits64 5 := by simp [Fits64]
  exact ⟨⟨by decide, hwrites, hfits⟩, _, rfl⟩

end LineShell
