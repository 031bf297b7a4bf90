import Mathlib.Data.List.Basic
import Mathlib.Data.List.TakeWhile
import PhpOutline.Proofs.Lexer.FencedReaders

/-!
# The lexer does not see the case of letters

Making the capitals of a source small changes no class that a character belongs to (`CaseBlind`) and
no character that is not a letter.  So every reader cuts a source with small letters where it cuts
the source itself, and a step reads the same token in small letters (`step_lower`).

There is one exception.  The label that closes a heredoc is compared letter by letter, so that the
statement is not about steps inside of heredocs.
-/

namespace PhpOutline.Lexer

open Text (lower)

/-! ### Characters -/

/-- The ASCII capitals. -/
def capitals : List Char := "ABCDEFGHIJKLMNOPQRSTUVWXYZ".toList

/-- The condition does not tell a capital from its small letter. -/
def CaseBlind (p : Char → Bool) : Prop := ∀ c, p c.toLower = p c

variable {c d : Char} {cs ds w : List Char} {p : Char → Bool} {stop : List Char → Bool}

/-- A character other than a capital has no small letter but itself. -/
lemma toLower_of_not_mem_capitals (h : c ∉ capitals) : c.toLower = c := by
  refine dif_neg fun hrange => h ?_
  have hlow : 65 ≤ c.toNat := UInt32.le_iff_toNat_le.1 hrange.1
  have hhigh : c.toNat ≤ 90 := UInt32.le_iff_toNat_le.1 hrange.2
  have hall : ∀ n < 26, Char.ofNat (65 + n) ∈ capitals := by decide
  have hmem := hall (c.toNat - 65) (by omega)
  rwa [Nat.add_sub_cancel' hlow, Char.ofNat_toNat] at hmem

lemma caseBlind_of_capitals (h : (capitals.all fun c => p c.toLower == p c) = true) :
    CaseBlind p := by
  intro c
  by_cases hc : c ∈ capitals
  · exact beq_iff_eq.1 (List.all_eq_true.1 h c hc)
  · rw [toLower_of_not_mem_capitals hc]

lemma caseBlind_isSpace : CaseBlind isSpace := caseBlind_of_capitals (by decide)

lemma caseBlind_isBlank : CaseBlind isBlank := caseBlind_of_capitals (by decide)

lemma caseBlind_isNameStart : CaseBlind isNameStart := caseBlind_of_capitals (by decide)

lemma caseBlind_isNameChar : CaseBlind isNameChar := caseBlind_of_capitals (by decide)

lemma caseBlind_isDigit : CaseBlind Char.isDigit := caseBlind_of_capitals (by decide)

lemma caseBlind_isDigitOrMark : CaseBlind isDigitOrMark := caseBlind_of_capitals (by decide)

lemma caseBlind_isHexDigitOrMark : CaseBlind isHexDigitOrMark := caseBlind_of_capitals (by decide)

/-- A character that is no letter is not the small letter of another one. -/
lemma toLower_eq_iff (hd : d.isAlpha = false) : c.toLower = d ↔ c = d := by
  have hblind : CaseBlind Char.isAlpha := caseBlind_of_capitals (by decide)
  by_cases hc : c ∈ capitals
  · have hall : (capitals.all Char.isAlpha) = true := by decide
    have halpha := List.all_eq_true.1 hall c hc
    refine iff_of_false ?_ ?_
    · rintro rfl
      rw [hblind, halpha] at hd
      cases hd
    · rintro rfl
      rw [halpha] at hd
      cases hd
  · rw [toLower_of_not_mem_capitals hc]

lemma toLower_beq (hd : d.isAlpha = false) : (c.toLower == d) = (c == d) := by
  rw [Bool.eq_iff_iff, beq_iff_eq, beq_iff_eq, toLower_eq_iff hd]

lemma toLower_toLower (c : Char) : c.toLower.toLower = c.toLower := by
  by_cases hc : c ∈ capitals
  · have hall : (capitals.all fun c => c.toLower.toLower == c.toLower) = true := by decide
    exact beq_iff_eq.1 (List.all_eq_true.1 hall c hc)
  · rw [toLower_of_not_mem_capitals hc, toLower_of_not_mem_capitals hc]

/-! ### Texts -/

@[simp] lemma lower_nil : lower [] = [] := rfl

@[simp] lemma lower_cons (c : Char) (cs : List Char) :
    lower (c :: cs) = c.toLower :: lower cs := rfl

@[simp] lemma lower_append (cs ds : List Char) : lower (cs ++ ds) = lower cs ++ lower ds :=
  List.map_append

@[simp] lemma length_lower (cs : List Char) : (lower cs).length = cs.length := List.length_map _

lemma lower_lower (cs : List Char) : lower (lower cs) = lower cs := by
  rw [lower, lower, List.map_map]
  exact List.map_congr_left fun c _ => toLower_toLower c

lemma take_lower (n : Nat) (cs : List Char) : (lower cs).take n = lower (cs.take n) :=
  List.map_take.symm

lemma drop_lower (n : Nat) (cs : List Char) : (lower cs).drop n = lower (cs.drop n) :=
  List.map_drop.symm

lemma tail_lower (cs : List Char) : (lower cs).tail = lower cs.tail := List.map_tail.symm

lemma takeWhile_lower (hp : CaseBlind p) (cs : List Char) :
    (lower cs).takeWhile p = lower (cs.takeWhile p) := by
  rw [lower, List.takeWhile_map, show p ∘ Char.toLower = p from funext hp, lower]

lemma dropWhile_lower (hp : CaseBlind p) (cs : List Char) :
    (lower cs).dropWhile p = lower (cs.dropWhile p) := by
  rw [lower, List.dropWhile_map, show p ∘ Char.toLower = p from funext hp, lower]

lemma nextIs_lower (hp : CaseBlind p) (cs : List Char) : nextIs p (lower cs) = nextIs p cs := by
  cases cs with
  | nil => rfl
  | cons c cs => exact hp c

lemma head?_lower (hd : d.isAlpha = false) : (lower cs).head? = some d ↔ cs.head? = some d := by
  cases cs with
  | nil => simp
  | cons c cs => simp [toLower_eq_iff hd]

lemma mem_lower (hd : d.isAlpha = false) : d ∈ lower cs ↔ d ∈ cs := by
  induction cs with
  | nil => simp
  | cons c cs ih => simp [ih, eq_comm (a := d), toLower_eq_iff hd]

/-- A text without letters stands at the front of the small letters if it stands at the front. -/
lemma isPrefixOf_lower (hw : (w.all fun a => !a.isAlpha) = true) :
    w.isPrefixOf (lower cs) = w.isPrefixOf cs := by
  induction w generalizing cs with
  | nil => rfl
  | cons a w ih =>
    obtain ⟨ha, hw⟩ := Bool.and_eq_true_iff.1 (List.all_cons.symm.trans hw)
    cases cs with
    | nil => rfl
    | cons c cs =>
      have hfirst : (a == c.toLower) = (a == c) := by
        rw [Bool.eq_iff_iff, beq_iff_eq, beq_iff_eq, eq_comm, toLower_eq_iff (by simpa using ha),
          eq_comm]
      rw [lower_cons, List.isPrefixOf, List.isPrefixOf, hfirst, ih hw]

/-- A text without letters has no other small letters. -/
lemma lower_of_not_isAlpha (hw : (w.all fun a => !a.isAlpha) = true) : lower w = w := by
  have hall := List.all_eq_true.1 hw
  refine (List.map_congr_left fun a ha => ?_).trans (List.map_id w)
  exact (toLower_eq_iff (by simpa using hall a ha)).2 rfl

/-! ### Cuts -/

/-- The cut with small letters. -/
def Cut.lower (k : Cut) : Cut := ⟨Text.lower k.text, Text.lower k.rest⟩

lemma Cut.lower_push (c : Char) (k : Cut) : (k.push c).lower = k.lower.push c.toLower := rfl

lemma Cut.lower_prepend (cs : List Char) (k : Cut) :
    (k.prepend cs).lower = k.lower.prepend (Text.lower cs) := by
  simp [Cut.lower, Cut.prepend]

lemma span_lower (hp : CaseBlind p) (cs : List Char) :
    Cut.span p (lower cs) = (Cut.span p cs).lower := by
  rw [Cut.span, takeWhile_lower hp, dropWhile_lower hp]
  rfl

lemma before_lower (hstop : ∀ cs, stop (lower cs) = stop cs) (cs : List Char) :
    Cut.before stop (lower cs) = (Cut.before stop cs).lower := by
  induction cs with
  | nil => rfl
  | cons c cs ih =>
    have hhere := hstop (c :: cs)
    rw [lower_cons] at hhere ⊢
    rw [Cut.before, Cut.before, hhere, ih]
    split <;> rfl

/-! ### Comments and strings -/

lemma endsLineComment_lower (cs : List Char) : endsLineComment (lower cs) = endsLineComment cs := by
  cases cs with
  | nil => rfl
  | cons c cs =>
    rw [lower_cons, endsLineComment_cons, endsLineComment_cons, Bool.eq_iff_iff]
    simp [toLower_eq_iff (show ('\n').isAlpha = false by decide),
      toLower_eq_iff (show ('\r').isAlpha = false by decide),
      toLower_eq_iff (show ('?').isAlpha = false by decide),
      head?_lower (show ('>').isAlpha = false by decide)]

lemma isDocComment_lower (cs : List Char) : isDocComment (lower cs) = isDocComment cs := by
  rw [isDocComment_eq, isDocComment_eq, isPrefixOf_lower (by decide), drop_lower,
    nextIs_lower caseBlind_isSpace]

lemma throughStarSlash_lower (cs : List Char) :
    throughStarSlash (lower cs) = (throughStarSlash cs).lower := by
  induction cs with
  | nil => rfl
  | cons c cs ih =>
    by_cases hends : c = '*' ∧ cs.head? = some '/'
    · obtain ⟨rfl, hslash⟩ := hends
      obtain ⟨ds, rfl⟩ := List.head?_eq_some_iff.1 hslash
      rfl
    · have hends' : ¬(c.toLower = '*' ∧ (lower cs).head? = some '/') := by
        rwa [toLower_eq_iff rfl, head?_lower rfl]
      rw [lower_cons, throughStarSlash_cons hends, throughStarSlash_cons hends', ih, Cut.lower_push]

lemma throughQuote_lower {quote : Char} (hquote : isQuote quote = true) (cs : List Char) :
    throughQuote quote (lower cs) = (throughQuote quote cs).lower := by
  have hletter : quote.isAlpha = false ∧ quote ≠ '\\' := by
    rcases isQuote_eq_true.1 hquote with rfl | rfl <;> decide
  fun_induction throughQuote quote cs with
  | case1 c cs ih =>
    rw [Cut.lower_prepend, ← ih]
    rfl
  | case2 cs =>
    have hsame : quote.toLower = quote := (toLower_eq_iff hletter.1).2 rfl
    rw [lower_cons, hsame, throughQuote_cons hletter.2, if_pos rfl, Cut.lower, lower_cons, hsame]
    rfl
  | case3 c cs hescape hc ih =>
    by_cases hslash : c = '\\'
    · -- nothing follows that could be escaped
      subst hslash
      cases cs with
      | nil => exact if_neg hc
      | cons d ds => exact absurd rfl (hescape d ds rfl)
    · rw [lower_cons, throughQuote_cons (by rwa [Ne, toLower_eq_iff rfl]),
        if_neg (by rwa [toLower_eq_iff hletter.1]), ih, Cut.lower_push]
  | case4 => rfl

lemma shellCommand_lower (cs : List Char) : shellCommand (lower cs) = (shellCommand cs).lower := by
  fun_induction shellCommand cs with
  | case1 c cs ih =>
    rw [Cut.lower_prepend, ← ih]
    rfl
  | case2 cs =>
    rw [lower_cons, show Char.toLower '\x60' = '\x60' from rfl, shellCommand_cons (by decide),
      if_pos rfl]
    rfl
  | case3 c cs hescape hc ih =>
    by_cases hslash : c = '\\'
    · subst hslash
      cases cs with
      | nil => rfl
      | cons d ds => exact absurd rfl (hescape d ds rfl)
    · rw [lower_cons, shellCommand_cons (by rwa [Ne, toLower_eq_iff rfl]),
        if_neg (by rwa [toLower_eq_iff rfl]), ih, Cut.lower_push]
  | case4 => rfl

/-! ### Numbers -/

/-- A letter that starts a part of a number is meant in both cases. -/
lemma toLower_mem_iff {letters : List Char} (h : CaseBlind fun x => decide (x ∈ letters)) :
    c.toLower ∈ letters ↔ c ∈ letters := decide_eq_decide.1 (h c)

lemma radixNumber?_lower (cs : List Char) :
    radixNumber? (lower cs) = (radixNumber? cs).map Cut.lower := by
  have hletter : CaseBlind fun x => decide (x ∈ ['x', 'X', 'b', 'B', 'o', 'O']) :=
    caseBlind_of_capitals (by decide)
  rcases cs with _ | ⟨c, cs⟩
  · rfl
  by_cases hc : c = '0'
  · subst hc
    rcases cs with _ | ⟨x, cs⟩
    · rfl
    · rw [lower_cons, lower_cons, show Char.toLower '0' = '0' from rfl, radixNumber?, radixNumber?,
        if_congr (toLower_mem_iff hletter) rfl rfl, span_lower caseBlind_isHexDigitOrMark]
      split
      · exact congrArg some (Cut.lower_prepend ['0', x] _).symm
      · rfl
  · rw [lower_cons, radixNumber?_of_ne hc, radixNumber?_of_ne (by rwa [Ne, toLower_eq_iff rfl])]
    rfl

lemma fraction?_lower (cs : List Char) :
    fraction? (lower cs) = (fraction? cs).map Cut.lower := by
  rcases cs with _ | ⟨c, cs⟩
  · rfl
  by_cases hc : c = '.'
  · subst hc
    rcases cs with _ | ⟨d, cs⟩
    · rfl
    · have hsecond : d.toLower = '.' ∨ d.toLower = '=' ↔ d = '.' ∨ d = '=' := by
        rw [toLower_eq_iff rfl, toLower_eq_iff rfl]
      rw [lower_cons, lower_cons, show Char.toLower '.' = '.' from rfl, fraction?, fraction?,
        caseBlind_isDigit, if_congr hsecond rfl rfl, ← lower_cons,
        span_lower caseBlind_isDigitOrMark]
      split
      · rfl
      · split <;> rfl
  · rw [lower_cons, fraction?_of_ne hc, fraction?_of_ne (by rwa [Ne, toLower_eq_iff rfl])]
    rfl

lemma exponent?_lower (cs : List Char) :
    exponent? (lower cs) = (exponent? cs).map Cut.lower := by
  have hletter : CaseBlind fun x => decide (x = 'e' ∨ x = 'E') :=
    caseBlind_of_capitals (by decide)
  rcases cs with _ | ⟨e, _ | ⟨s, cs⟩⟩
  · rfl
  · rfl
  · have hfirst : e.toLower = 'e' ∨ e.toLower = 'E' ↔ e = 'e' ∨ e = 'E' :=
      decide_eq_decide.1 (hletter e)
    have hsign : s.toLower = '+' ∨ s.toLower = '-' ↔ s = '+' ∨ s = '-' := by
      rw [toLower_eq_iff rfl, toLower_eq_iff rfl]
    rw [lower_cons, lower_cons, exponent?, exponent?, if_congr hfirst rfl rfl,
      if_congr hsign rfl rfl, caseBlind_isDigit, nextIs_lower caseBlind_isDigit, ← lower_cons,
      span_lower caseBlind_isDigit, span_lower caseBlind_isDigit]
    split
    · split
      · split
        · exact congrArg some (Cut.lower_prepend [e, s] _).symm
        · rfl
      · split <;> rfl
    · rfl

lemma optional_lower {part? : List Char → Option Cut}
    (hpart : ∀ cs, part? (lower cs) = (part? cs).map Cut.lower) (cs : List Char) :
    optional part? (lower cs) = ((optional part? cs).1, (optional part? cs).2.lower) := by
  rw [optional, optional, hpart]
  cases part? cs <;> rfl

lemma number_lower (cs : List Char) : number (lower cs) = ((number cs).1, (number cs).2.lower) := by
  have hdecimal : decimalNumber (lower cs) =
      ((decimalNumber cs).1, (decimalNumber cs).2.lower) := by
    rw [decimalNumber_eq, decimalNumber_eq]
    dsimp only
    rw [span_lower caseBlind_isDigitOrMark]
    dsimp only [Cut.lower]
    rw [optional_lower fraction?_lower]
    dsimp only [Cut.lower]
    rw [optional_lower exponent?_lower]
    simp [Cut.lower, Cut.prepend]
  rw [number, number, radixNumber?_lower, hdecimal]
  cases radixNumber? cs <;> rfl

lemma startsNumber_lower (c : Char) (cs : List Char) :
    startsNumber c.toLower (lower cs) = startsNumber c cs := by
  rw [startsNumber, startsNumber, caseBlind_isDigit, toLower_beq rfl,
    nextIs_lower caseBlind_isDigit]

/-! ### Names and operators -/

lemma isWord_lower (spelling : String) (word : List Char) :
    isWord spelling (lower word) = isWord spelling word := by
  rw [isWord, isWord, lower_lower]

lemma continuesName_lower (cs : List Char) : continuesName (lower cs) = continuesName cs := by
  cases cs with
  | nil => rfl
  | cons c cs =>
    rw [lower_cons, continuesName, continuesName, caseBlind_isNameChar, toLower_beq rfl,
      nextIs_lower caseBlind_isNameStart]

lemma name_lower (cs : List Char) : name (lower cs) = (name cs).lower :=
  before_lower (fun cs => by rw [continuesName_lower]) cs

lemma startsName_lower (c : Char) (cs : List Char) :
    startsName c.toLower (lower cs) = startsName c cs := by
  rw [startsName, startsName, caseBlind_isNameStart, toLower_beq rfl,
    nextIs_lower caseBlind_isNameStart]

lemma wordCategory_lower (context : Context) (word rest : List Char) :
    wordCategory context (lower word) (lower rest) = wordCategory context word rest := by
  have hfollows : declaredNameFollows (lower rest) = declaredNameFollows rest := by
    rw [declaredNameFollows, declaredNameFollows, nextIs_lower caseBlind_isSpace,
      dropWhile_lower caseBlind_isSpace, nextIs_lower caseBlind_isNameStart,
      takeWhile_lower caseBlind_isNameChar, isWord_lower, isWord_lower]
  have hmakes : context.makesIdentifier (lower word) = context.makesIdentifier word := by
    cases context <;> simp [Context.makesIdentifier, isWord_lower]
  rw [wordCategory, wordCategory, hfollows, hmakes, isWord_lower, reserved?, reserved?, lower_lower]

lemma nameCategory_lower (context : Context) (text rest : List Char) :
    nameCategory context (lower text) (lower rest) = nameCategory context text rest := by
  rw [nameCategory, nameCategory, if_congr (head?_lower rfl) rfl rfl,
    if_congr (mem_lower rfl) rfl rfl, takeWhile_lower caseBlind_isNameChar, isWord_lower,
    wordCategory_lower]

/-- No operator has a letter in it. -/
lemma all_not_isAlpha_of_mem_operators {op : String × Category} (h : op ∈ operators) :
    (op.1.toList.all fun a => !a.isAlpha) = true := by
  have hall : ∀ op ∈ operators, (op.1.toList.all fun a => !a.isAlpha) = true := by decide
  exact hall op h

lemma operator?_lower (cs : List Char) : operator? (lower cs) = operator? cs := by
  have hfilter : (operators.filter fun op => op.1.toList.isPrefixOf (lower cs)) =
      operators.filter fun op => op.1.toList.isPrefixOf cs :=
    List.filter_congr fun _ hop => isPrefixOf_lower (all_not_isAlpha_of_mem_operators hop)
  rw [operator?, operator?, ← List.head?_filter, hfilter, List.head?_filter]

/-! ### Tags and heredocs -/

lemma lineBreak?_lower (cs : List Char) :
    lineBreak? (lower cs) = (lineBreak? cs).map Cut.lower := by
  cases cs with
  | nil => rfl
  | cons c cs =>
    have hfeed : c.toLower = '\n' ↔ c = '\n' := toLower_eq_iff rfl
    have hreturn : c.toLower = '\r' ∧ (lower cs).head? = some '\n' ↔
        c = '\r' ∧ cs.head? = some '\n' := by
      rw [toLower_eq_iff rfl, head?_lower rfl]
    rw [lower_cons, lineBreak?_cons, lineBreak?_cons, if_congr hfeed rfl rfl,
      if_congr hreturn rfl rfl, tail_lower]
    split
    · rfl
    · split <;> rfl

lemma closeTagEnd_lower (cs : List Char) : closeTagEnd (lower cs) = (closeTagEnd cs).lower := by
  rw [closeTagEnd_eq, closeTagEnd_eq, lineBreak?_lower]
  cases lineBreak? cs <;> rfl

lemma openTagEnd?_lower (cs : List Char) :
    openTagEnd? (lower cs) = (openTagEnd? cs).map Cut.lower := by
  cases cs with
  | nil => rfl
  | cons c cs =>
    have hreturn : c.toLower = '\r' ∧ (lower cs).head? = some '\n' ↔
        c = '\r' ∧ cs.head? = some '\n' := by
      rw [toLower_eq_iff rfl, head?_lower rfl]
    rw [lower_cons, openTagEnd?_cons, openTagEnd?_cons, if_congr hreturn rfl rfl, tail_lower,
      caseBlind_isSpace]
    split
    · rfl
    · split <;> rfl

lemma openTag?_lower (cs : List Char) :
    openTag? (lower cs) = (openTag? cs).map fun tag => (tag.1, tag.2.lower) := by
  by_cases hangle : ['<', '?'].isPrefixOf cs = true
  · obtain ⟨cs, rfl⟩ := List.isPrefixOf_iff_prefix.1 hangle
    change openTag? ('<' :: '?' :: lower cs) = (openTag? ('<' :: '?' :: cs)).map _
    rw [openTag?_angle, openTag?_angle, if_congr (head?_lower rfl) rfl rfl, take_lower, drop_lower,
      tail_lower, isWord_lower, openTagEnd?_lower]
    split
    · rfl
    split
    · cases openTagEnd? (cs.drop 3) with
      | none => rfl
      | some k => simp [Cut.lower_prepend]
    · rfl
  · rw [openTag?_of_not_isPrefixOf hangle, openTag?_of_not_isPrefixOf]
    · rfl
    · rwa [isPrefixOf_lower rfl]

lemma labelQuote_lower (cs : List Char) : labelQuote (lower cs) = labelQuote cs := by
  cases cs with
  | nil => rfl
  | cons c cs =>
    have hblind : CaseBlind isQuote := caseBlind_of_capitals (by decide)
    rw [lower_cons, labelQuote_cons, labelQuote_cons, hblind]
    split
    · next hquote => rcases isQuote_eq_true.1 hquote with rfl | rfl <;> rfl
    · rfl

lemma labelLine?_lower {quote : List Char} (hquote : quote = [] ∨ quote = ['\''] ∨ quote = ['"'])
    (blanks cs : List Char) :
    labelLine? (lower blanks) quote (lower cs) =
      (labelLine? blanks quote cs).map fun line => (lower line.1, line.2.lower) := by
  have hletter : (quote.all fun a => !a.isAlpha) = true := by
    rcases hquote with rfl | rfl | rfl <;> decide
  rw [labelLine?, labelLine?, takeWhile_lower caseBlind_isNameChar,
    dropWhile_lower caseBlind_isNameChar, nextIs_lower caseBlind_isNameStart,
    isPrefixOf_lower hletter, drop_lower, lineBreak?_lower]
  split
  · cases lineBreak? ((cs.dropWhile isNameChar).drop quote.length) with
    | none => rfl
    | some k => simp [Cut.lower_prepend, lower_of_not_isAlpha hletter]
  · rfl

lemma heredocOpener?_lower (cs : List Char) :
    heredocOpener? (lower cs) =
      (heredocOpener? cs).map fun line => (lower line.1, line.2.lower) := by
  by_cases hangles : ['<', '<', '<'].isPrefixOf cs = true
  · obtain ⟨cs, rfl⟩ := List.isPrefixOf_iff_prefix.1 hangles
    change heredocOpener? ('<' :: '<' :: '<' :: lower cs) =
      (heredocOpener? ('<' :: '<' :: '<' :: cs)).map _
    rw [heredocOpener?_angles, heredocOpener?_angles, span_lower caseBlind_isBlank]
    dsimp only [Cut.lower]
    rw [labelQuote_lower, drop_lower, labelLine?_lower (labelQuote_cases _)]
    rfl
  · rw [heredocOpener?_of_not_isPrefixOf hangles, heredocOpener?_of_not_isPrefixOf]
    · rfl
    · rwa [isPrefixOf_lower rfl]

/-! ### Steps -/

/-- The token with small letters. -/
def lowerToken : RawToken → RawToken
  | .punctuation c => .punctuation c.toLower
  | .named category text => .named category (String.ofList (lower text.toList))

/-- The mode with the label in small letters. -/
def Mode.lower : Mode → Mode
  | .heredoc label => .heredoc (Text.lower label)
  | mode => mode

/-- The step on a source with small letters. -/
def Step.lower (s : Step) : Step := ⟨lowerToken s.token, s.mode.lower, Text.lower s.rest⟩

lemma Step.lower_read (category : Category) (k : Cut) (mode : Mode) :
    (Step.read category k mode).lower = .read category k.lower mode.lower := by
  simp [Step.lower, Step.read, lowerToken, Cut.lower]

lemma stepMarkup_lower (cs : List Char) : stepMarkup (lower cs) = (stepMarkup cs).lower := by
  have hstop : ∀ cs, (openTag? (lower cs)).isSome = (openTag? cs).isSome := by
    intro cs
    rw [openTag?_lower, Option.isSome_map]
  rw [stepMarkup, stepMarkup, openTag?_lower, before_lower hstop]
  cases openTag? cs with
  | none =>
    dsimp only [Option.map]
    rw [Step.lower_read]
    rfl
  | some tag =>
    dsimp only [Option.map]
    rw [Step.lower_read]
    rfl

lemma stepName_lower (context : Context) (cs : List Char) :
    stepName context (lower cs) = (stepName context cs).lower := by
  have hmode : ∀ category, (modeAfterName category).lower = modeAfterName category := by
    intro category
    unfold modeAfterName
    split <;> rfl
  rw [stepName, stepName, name_lower, Step.lower_read]
  dsimp only [Cut.lower]
  rw [nameCategory_lower, hmode]

lemma stepNumber_lower (cs : List Char) : stepNumber (lower cs) = (stepNumber cs).lower := by
  rw [stepNumber, stepNumber, number_lower, Step.lower_read]
  rfl

lemma stepBlockComment_lower (context : Context) (cs : List Char) :
    stepBlockComment context (lower cs) = (stepBlockComment context cs).lower := by
  rw [stepBlockComment, stepBlockComment, isDocComment_lower, take_lower, drop_lower,
    throughStarSlash_lower, Step.lower_read, Cut.lower_prepend]
  rfl

lemma stepOperator_lower (context : Context) (c : Char) (cs : List Char) :
    stepOperator context c.toLower (lower cs) = (stepOperator context c cs).lower := by
  have hcontext :
      contextAfterPunctuation context c.toLower = contextAfterPunctuation context c := by
    simp only [contextAfterPunctuation, toLower_eq_iff (show ('&').isAlpha = false from rfl)]
  rw [stepOperator, stepOperator, ← lower_cons, operator?_lower, hcontext]
  cases hop : operator? (c :: cs) with
  | none => rfl
  | some op =>
    have hletter := all_not_isAlpha_of_mem_operators (List.mem_of_find?_eq_some hop)
    dsimp only
    rw [Step.lower_read, drop_lower, Cut.lower, lower_of_not_isAlpha hletter]
    rfl

lemma stepToken_lower (context : Context) (c : Char) (cs : List Char) :
    stepToken context c.toLower (lower cs) = (stepToken context c cs).lower := by
  have hnext : nextIs isNameStart (lower cs) = nextIs isNameStart cs :=
    nextIs_lower caseBlind_isNameStart cs
  rw [stepToken, stepToken, startsNumber_lower, startsName_lower, hnext]
  simp only [toLower_eq_iff (show ('#').isAlpha = false from rfl),
    toLower_eq_iff (show ('/').isAlpha = false from rfl),
    toLower_eq_iff (show ('$').isAlpha = false from rfl),
    toLower_eq_iff (show ('\'').isAlpha = false from rfl),
    toLower_eq_iff (show ('"').isAlpha = false from rfl),
    toLower_eq_iff (show ('\x60').isAlpha = false from rfl),
    toLower_eq_iff (show ('\\').isAlpha = false from rfl),
    head?_lower (show ('[').isAlpha = false from rfl),
    head?_lower (show ('/').isAlpha = false from rfl),
    head?_lower (show ('*').isAlpha = false from rfl)]
  split
  · rw [tail_lower, Step.lower_read]
    rfl
  split
  · rw [lineComment, before_lower endsLineComment_lower, Step.lower_read]
    rfl
  split
  · rw [← lower_cons, stepBlockComment_lower]
  split
  · rw [span_lower caseBlind_isNameChar, Step.lower_read]
    rfl
  split
  · next hquote =>
    have hsame : c.toLower = c := by rcases hquote with rfl | rfl <;> rfl
    rw [hsame, throughQuote_lower (isQuote_eq_true.2 hquote), Step.lower_read, Cut.lower_push,
      hsame]
    rfl
  split
  · rfl
  split
  · rw [← lower_cons, stepNumber_lower]
  split
  · rw [← lower_cons, stepName_lower]
  split
  · rw [Step.lower_read]
    rfl
  · exact stepOperator_lower context c cs

lemma stepCode_lower (context : Context) (c : Char) (cs : List Char) :
    stepCode context c.toLower (lower cs) = (stepCode context c cs).lower := by
  have hclose : c.toLower = '?' ∧ (lower cs).head? = some '>' ↔ c = '?' ∧ cs.head? = some '>' := by
    rw [toLower_eq_iff rfl, head?_lower rfl]
  rw [stepCode, stepCode, if_congr hclose rfl rfl, caseBlind_isSpace, ← lower_cons,
    heredocOpener?_lower, span_lower caseBlind_isSpace, tail_lower, closeTagEnd_lower]
  split
  · rw [Step.lower_read, Cut.lower_prepend]
    rfl
  split
  · rw [Step.lower_read]
    rfl
  cases heredocOpener? (c :: cs) with
  | none => exact stepToken_lower context c cs
  | some line =>
    dsimp only [Option.map]
    rw [Step.lower_read]
    rfl

lemma stepShell_lower (c : Char) (cs : List Char) :
    stepShell c.toLower (lower cs) = (stepShell c cs).lower := by
  rw [stepShell, stepShell, if_congr (toLower_eq_iff rfl) rfl rfl, ← lower_cons, shellCommand_lower]
  split
  · rfl
  · rw [Step.lower_read]
    rfl

/-- Outside of heredocs, a step reads the same token from small letters. -/
lemma step_lower {mode : Mode} (hmode : ∀ label, mode ≠ .heredoc label) (c : Char)
    (cs : List Char) : step mode c.toLower (lower cs) = (step mode c cs).lower := by
  cases mode with
  | markup => exact stepMarkup_lower (c :: cs)
  | code context => exact stepCode_lower context c cs
  | shell => exact stepShell_lower c cs
  | heredoc label => exact absurd rfl (hmode label)
  | data =>
    rw [step, step, Step.lower_read]
    rfl

end PhpOutline.Lexer
