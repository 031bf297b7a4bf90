import Mathlib.Data.List.Basic
import PhpOutline.Proofs.Lexer.Run

/-!
# Words and their neighbours

The lexer carries a context along, which tells whether the next word is a member's or a function's
name.  Here the context is recovered from the tokens themselves: it is told by the nearest token
before the word that is no white space and no comment, or, over ampersands as well, by the word
`function` (`contextOf`).  Every step keeps this up (`contextOf_step`).  The word `enum` also looks
ahead; the characters that it looks at are those of the next two tokens (`declaresName_tokensFrom`).

So the category of every word is a function of its text and its neighbours (`category_of_word`).
-/

namespace PhpOutline.Lexer

/-! ### What stands around a word -/

/-- The token is of the given category. -/
def isOf (category : Category) : RawToken → Bool
  | .named category' _ => category' == category
  | .punctuation _ => false

/-- White space and comments. -/
def isTrivia (t : RawToken) : Bool := isOf .whitespace t || isOf .comment t || isOf .docComment t

/-- The nearest of the tokens before a word, the nearest first, that is no white space and no
comment. -/
def previousToken? (behind : List RawToken) : Option RawToken := behind.find? fun t => !isTrivia t

/-- Going back over white space, comments and ampersands, one comes to the word `function`. -/
def followsFunction (behind : List RawToken) : Bool :=
  (behind.find? fun t => !isTrivia t && t != .punctuation '&').any (isOf .kwFunction)

/-- A word behind the given tokens, the nearest first, names a member or a function. -/
def isMemberPosition (behind : List RawToken) (word : List Char) : Bool :=
  (previousToken? behind).any (fun p => isOf .objectOperator p || isOf .nullsafeObjectOperator p) ||
    ((previousToken? behind).any (isOf .doubleColon) && !isWord "class" word) ||
    followsFunction behind

/-- The categories of single words: identifiers, `enum` and the reserved words. -/
def isWordCategory (category : Category) : Bool :=
  category == .identifier || category == .kwEnum || (reservedWords.map (·.2)).contains category

/-- The categories of words, and of names that start with one. -/
def startsWithWord (category : Category) : Bool :=
  isWordCategory category || category == .nameQualified || category == .nameRelative

/-- The word that a token starts with, if it is a word, or a name that starts with one. -/
def leadingWord? : RawToken → Option (List Char)
  | .named category text =>
    if startsWithWord category then some (text.toList.takeWhile isNameChar) else none
  | .punctuation _ => none

/-- The tokens start with white space and a word other than `extends` and `implements`. -/
def declaresName : List RawToken → Bool
  | space :: t :: _ =>
    isOf .whitespace space &&
      (leadingWord? t).any fun word => !isWord "extends" word && !isWord "implements" word
  | _ => false

/-! ### The context behind some tokens -/

/-- The context that the tokens before a word give, the nearest first. -/
def contextOf (behind : List RawToken) : Context :=
  if (previousToken? behind).any
      fun p => isOf .objectOperator p || isOf .nullsafeObjectOperator p then
    .member
  else if (previousToken? behind).any (isOf .doubleColon) then .staticMember
  else if followsFunction behind then .functionName
  else .plain

/-- The context that a token gives by itself. -/
def contextAfter (t : RawToken) : Context := contextOf [t]

/-- Behind `function` and its ampersands, the previous token is one of these. -/
lemma previousToken?_of_followsFunction {behind : List RawToken}
    (h : followsFunction behind = true) :
    ∃ p, previousToken? behind = some p ∧ (p = .punctuation '&' ∨ isOf .kwFunction p = true) := by
  induction behind with
  | nil => cases h
  | cons t behind ih =>
    by_cases htrivia : isTrivia t = true
    · obtain ⟨p, hp, hkind⟩ := ih (by simpa [followsFunction, htrivia] using h)
      exact ⟨p, by simpa [previousToken?, htrivia] using hp, hkind⟩
    · refine ⟨t, by simp [previousToken?, htrivia], ?_⟩
      by_cases hamp : t = .punctuation '&'
      · exact Or.inl hamp
      · exact Or.inr (by simpa [followsFunction, htrivia, hamp] using h)

/-- The context names a function exactly behind `function`. -/
lemma contextOf_eq_functionName {behind : List RawToken} :
    contextOf behind = .functionName ↔ followsFunction behind = true := by
  constructor
  · intro h
    unfold contextOf at h
    split at h
    · cases h
    split at h
    · cases h
    split at h
    · assumption
    · cases h
  · intro h
    obtain ⟨p, hp, hkind⟩ := previousToken?_of_followsFunction h
    have hothers : isOf .objectOperator p = false ∧ isOf .nullsafeObjectOperator p = false ∧
        isOf .doubleColon p = false := by
      rcases hkind with rfl | hfunction
      · exact ⟨rfl, rfl, rfl⟩
      · cases p with
        | punctuation c => cases hfunction
        | named category text =>
          obtain rfl : category = .kwFunction := by simpa [isOf] using hfunction
          exact ⟨rfl, rfl, rfl⟩
    simp [contextOf, hp, hothers, h]

/-- In a context, a word is an identifier by its place if it is in the position of a member. -/
lemma makesIdentifier_contextOf (behind : List RawToken) (word : List Char) :
    (contextOf behind).makesIdentifier word = isMemberPosition behind word := by
  by_cases hfunction : followsFunction behind = true
  · rw [contextOf_eq_functionName.2 hfunction]
    simp [Context.makesIdentifier, isMemberPosition, hfunction]
  · unfold contextOf
    split
    · next hmember => simp [Context.makesIdentifier, isMemberPosition, hmember]
    next hmember =>
    split
    · next hstatic =>
      simp [Context.makesIdentifier, isMemberPosition, hmember, hstatic, hfunction]
    next hstatic =>
    simp [Context.makesIdentifier, isMemberPosition, hmember, hstatic, hfunction]

/-! ### The context along a run -/

variable {context : Context} {t : RawToken} {behind : List RawToken}

/-- White space and comments leave the context as it is. -/
lemma contextOf_trivia (behind : List RawToken) (h : isTrivia t = true) :
    contextOf (t :: behind) = contextOf behind := by
  have hprevious : previousToken? (t :: behind) = previousToken? behind := by
    simp [previousToken?, h]
  have hfollows : followsFunction (t :: behind) = followsFunction behind := by
    simp [followsFunction, h]
  rw [contextOf, hprevious, hfollows, contextOf]

/-- Other tokens than ampersands give the context by themselves. -/
lemma contextOf_cons (behind : List RawToken) (htrivia : isTrivia t = false)
    (hamp : t ≠ .punctuation '&') : contextOf (t :: behind) = contextAfter t := by
  simp [contextOf, contextAfter, previousToken?, followsFunction, htrivia, hamp]

/-- Of a token with a category, the category alone gives the context. -/
lemma contextOf_named (behind : List RawToken) {category : Category} (text : String)
    (h : isTrivia (.named category "") = false) :
    contextOf (.named category text :: behind) = contextAfter (.named category "") := by
  have htrivia : isTrivia (.named category text) = false := h
  rw [contextOf_cons behind htrivia (by simp)]
  simp [contextAfter, contextOf, previousToken?, followsFunction, h, htrivia, isOf]

/-- A punctuation character leaves the context or ends it. -/
lemma contextOf_punctuation (behind : List RawToken) (c : Char) :
    contextOf (.punctuation c :: behind) = contextAfterPunctuation (contextOf behind) c := by
  by_cases hc : c = '&'
  · subst hc
    have hprevious : previousToken? (.punctuation '&' :: behind) = some (.punctuation '&') := rfl
    have hfollows : followsFunction (.punctuation '&' :: behind) = followsFunction behind := rfl
    have hkeeps : contextOf (.punctuation '&' :: behind) =
        if followsFunction behind then .functionName else .plain := by
      rw [contextOf, hprevious, hfollows]
      rfl
    rw [hkeeps, contextAfterPunctuation]
    simp only [contextOf_eq_functionName, true_and]
  · rw [contextOf_cons behind rfl (by simpa using hc), contextAfterPunctuation,
      if_neg fun h => hc h.1]
    have halone : (RawToken.punctuation c != RawToken.punctuation '&') = true := by simpa using hc
    simp [contextAfter, contextOf, previousToken?, followsFunction, isTrivia, isOf, halone]

/-- An operator gives the context that the lexer takes behind it. -/
lemma contextOf_operator (behind : List RawToken) {op : String} {category : Category}
    (h : (op, category) ∈ operators) (text : String) :
    contextOf (.named category text :: behind) = contextAfterOperator category := by
  have hall : ∀ p ∈ operators, isTrivia (.named p.2 "") = false ∧
      contextAfter (.named p.2 "") = contextAfterOperator p.2 := by decide
  obtain ⟨htrivia, hcontext⟩ := hall _ h
  rw [contextOf_named behind text htrivia]
  exact hcontext

/-! ### The categories of names -/

/-- The categories of words and of names of several parts. -/
def nameCategories : List Category :=
  [.nameFullyQualified, .nameRelative, .nameQualified, .identifier, .kwEnum] ++
    reservedWords.map (·.2)

/-- A reserved word has one of the categories in the table. -/
lemma mem_of_reserved? {word : List Char} {category : Category}
    (h : reserved? word = some category) : category ∈ reservedWords.map (·.2) := by
  obtain ⟨before, after, hsplit, -⟩ := List.lookup_eq_some_iff.1 h
  rw [hsplit]
  simp

/-- A single word has the category of a word. -/
lemma isWordCategory_wordCategory (context : Context) (word rest : List Char) :
    isWordCategory (wordCategory context word rest) = true := by
  unfold wordCategory
  split
  · rfl
  split
  · rfl
  cases h : reserved? word with
  | none => rfl
  | some category =>
    simp only [isWordCategory, Option.getD_some, Bool.or_eq_true]
    exact Or.inr (List.contains_iff_mem.2 (mem_of_reserved? h))

/-- The category of a name is in the list. -/
lemma nameCategory_mem (context : Context) (text rest : List Char) :
    nameCategory context text rest ∈ nameCategories := by
  unfold nameCategory
  split
  · decide
  split
  · split <;> decide
  · have hword := isWordCategory_wordCategory context text rest
    simp only [isWordCategory, Bool.or_eq_true, beq_iff_eq, List.contains_iff_mem] at hword
    rcases hword with (heq | heq) | hmem
    · rw [heq]
      decide
    · rw [heq]
      decide
    · exact List.mem_append_right _ hmem

/-- No name is white space or a comment. -/
lemma isTrivia_of_mem_nameCategories {category : Category} (h : category ∈ nameCategories)
    (text : String) : isTrivia (.named category text) = false := by
  have hall : ∀ category ∈ nameCategories, isTrivia (.named category "") = false := by decide
  exact hall category h

lemma isOf_whitespace_of_mem_nameCategories {category : Category} (h : category ∈ nameCategories)
    (text : String) : isOf .whitespace (.named category text) = false := by
  have hall : ∀ category ∈ nameCategories, isOf .whitespace (.named category "") = false := by
    decide
  exact hall category h

/-- Behind a name the lexer takes the context that the name gives. -/
lemma contextOf_name (behind : List RawToken) {category : Category} (text : String)
    (hname : category ∈ nameCategories) (hmode : modeAfterName category = .code context) :
    contextOf (.named category text :: behind) = context := by
  have hall : ∀ category ∈ nameCategories, modeAfterName category = .data ∨
      modeAfterName category = .code (contextAfter (.named category "")) := by decide
  rcases hall category hname with hdata | hcode
  · rw [hdata] at hmode
    cases hmode
  · rw [hcode] at hmode
    cases hmode
    exact contextOf_named behind text (isTrivia_of_mem_nameCategories hname "")

/-- A step keeps the context in agreement with the tokens read so far. -/
lemma contextOf_step {mode : Mode} {c : Char} {cs : List Char}
    (hbefore : ∀ context, mode = .code context → contextOf behind = context)
    (hafter : (step mode c cs).mode = .code context) :
    contextOf ((step mode c cs).token :: behind) = context := by
  cases mode with
  | markup =>
    simp only [step, stepMarkup] at hafter ⊢
    split at hafter
    · next category k htag =>
      cases hafter
      rcases category_of_openTag? htag with rfl | rfl <;> exact contextOf_named _ _ rfl
    · cases hafter
  | shell =>
    simp only [step, stepShell] at hafter ⊢
    split at hafter
    · next hc =>
      cases hafter
      rw [if_pos hc, hc]
      exact contextOf_cons _ rfl (by simp [Step.punctuation])
    · cases hafter
  | heredoc label =>
    simp only [step, stepHeredoc] at hafter ⊢
    split at hafter
    · next hends =>
      cases hafter
      rw [if_pos hends]
      exact contextOf_named _ _ rfl
    · cases hafter
  | data => cases hafter
  | code inner =>
    obtain rfl := hbefore inner rfl
    have hstep := codeStep_stepCode (contextOf behind) c cs
    simp only [step] at hafter ⊢
    generalize stepCode (contextOf behind) c cs = s at hstep hafter ⊢
    cases hstep with
    | closeTag => cases hafter
    | space =>
      cases hafter
      exact contextOf_trivia _ rfl
    | heredoc => cases hafter
    | attributeOpen =>
      cases hafter
      exact contextOf_named _ _ rfl
    | lineComment =>
      cases hafter
      exact contextOf_trivia _ rfl
    | blockComment =>
      cases hafter
      rw [stepBlockComment]
      split <;> exact contextOf_trivia _ rfl
    | variableName =>
      cases hafter
      exact contextOf_named _ _ rfl
    | quoted =>
      cases hafter
      exact contextOf_named _ _ rfl
    | shell => cases hafter
    | number =>
      cases hafter
      simp only [stepNumber]
      cases (number (c :: cs)).1 <;> exact contextOf_named _ _ rfl
    | name => exact contextOf_name _ _ (nameCategory_mem _ _ _) hafter
    | separator =>
      cases hafter
      exact contextOf_named _ _ rfl
    | operator found =>
      cases hafter
      exact contextOf_operator _ (List.mem_of_find?_eq_some found) _
    | punctuation =>
      cases hafter
      exact contextOf_punctuation _ _

/-- Along a run from markup, the context in code is the one that the tokens give. -/
lemma contextOf_reads {mode : Mode} {cs rest : List Char} {front : List RawToken}
    (hstart : ∀ context, mode = .code context → contextOf behind = context)
    (h : Reads mode cs front (.code context) rest) :
    contextOf (front.reverse ++ behind) = context := by
  generalize hmode : Mode.code context = mode' at h
  induction h generalizing behind with
  | stay => exact hstart context hmode.symm
  | step next ih =>
    rw [List.reverse_cons, List.append_assoc, List.singleton_append]
    exact ih (fun inner hinner => contextOf_step hstart hinner) hmode

/-! ### What follows a word -/

/-- A name starts with the word that the source starts with. -/
lemma takeWhile_text_name (cs : List Char) :
    (name cs).text.takeWhile isNameChar = cs.takeWhile isNameChar := by
  induction cs with
  | nil => rfl
  | cons c cs ih =>
    rw [name, Cut.before]
    by_cases hc : isNameChar c = true
    · have hgoes : continuesName (c :: cs) = true := by simp [continuesName, hc]
      rw [hgoes]
      simp [hc, ← ih, name]
    · split
      · simp [hc]
      · simp [hc]

/-- Digits start no name. -/
lemma isNameStart_of_isDigit {c : Char} (h : c.isDigit = true) : isNameStart c = false := by
  have hrange : 48 ≤ c.toNat ∧ c.toNat ≤ 57 := by
    rw [Char.isDigit, Bool.and_eq_true, decide_eq_true_eq, decide_eq_true_eq] at h
    exact ⟨UInt32.le_iff_toNat_le.1 h.1, UInt32.le_iff_toNat_le.1 h.2⟩
  have hmark : c ≠ '_' := by
    rintro rfl
    exact absurd hrange (by decide)
  have hletter : c.isAlpha = false := by
    change (decide (c.val ≥ 65 ∧ c.val ≤ 90) ||
      (decide (c.val ≥ 97) && decide (c.val ≤ 122))) = false
    simp [UInt32.le_iff_toNat_le]
    omega
  simp [isNameStart, hletter, hmark]
  omega

/-- White space starts no name. -/
lemma isNameStart_of_isSpace {c : Char} (h : isSpace c = true) : isNameStart c = false := by
  have hc : ((c = ' ' ∨ c = '\t') ∨ c = '\n') ∨ c = '\r' := by
    simpa [isSpace, isBlank] using h
  rcases hc with ((rfl | rfl) | rfl) | rfl <;> decide

/-- In code, a character that starts a name is read as one. -/
lemma stepCode_of_isNameStart (context : Context) {c : Char} (cs : List Char)
    (h : isNameStart c = true) : stepCode context c cs = stepName context (c :: cs) := by
  have hne : ∀ d : Char, isNameStart d = false → c ≠ d := by
    rintro d hd rfl
    rw [h] at hd
    cases hd
  have hspace : isSpace c = false := by
    by_contra hspace
    rw [isNameStart_of_isSpace (by simpa using hspace)] at h
    cases h
  have hdigit : c.isDigit = false := by
    by_contra hdigit
    rw [isNameStart_of_isDigit (by simpa using hdigit)] at h
    cases h
  have hheredoc : heredocOpener? (c :: cs) = none := by
    unfold heredocOpener?
    split
    · next heq => exact absurd (List.cons.inj heq).1 (hne '<' (by decide))
    · rfl
  simp [stepCode, stepToken, hspace, hheredoc, startsNumber, hdigit, startsName, h,
    hne '?' (by decide), hne '#' (by decide), hne '/' (by decide), hne '$' (by decide),
    hne '\'' (by decide), hne '"' (by decide), hne '\x60' (by decide), hne '.' (by decide)]

/-- A name that starts with a word is a word or goes on behind a backslash. -/
lemma leadingWord?_stepName (context : Context) {c : Char} (cs : List Char)
    (h : isNameStart c = true) :
    leadingWord? (stepName context (c :: cs)).token = some ((c :: cs).takeWhile isNameChar) := by
  have hgoes : continuesName (c :: cs) = true := by simp [continuesName, isNameChar, h]
  have hhead : (name (c :: cs)).text.head? ≠ some '\\' := by
    rw [name, Cut.before, hgoes]
    simp only [Bool.not_true, Bool.false_eq_true, if_false, Cut.text_push, List.head?_cons]
    rintro heq
    cases heq
    cases h
  have hcategory : ∀ rest,
      startsWithWord (nameCategory context (name (c :: cs)).text rest) = true := by
    intro rest
    unfold nameCategory
    rw [if_neg hhead]
    split
    · split <;> rfl
    · simp [startsWithWord, isWordCategory_wordCategory]
  rw [← takeWhile_text_name]
  simp only [stepName, Step.read, leadingWord?, String.toList_ofList, hcategory, if_true]

/-- The word that a token of code starts with is read off the source. -/
lemma leadingWord?_stepCode (context : Context) (c : Char) (cs : List Char) :
    leadingWord? (stepCode context c cs).token =
      if isNameStart c then some ((c :: cs).takeWhile isNameChar) else none := by
  by_cases hc : isNameStart c = true
  · rw [if_pos hc, stepCode_of_isNameStart context cs hc, leadingWord?_stepName context cs hc]
  rw [if_neg hc]
  have hstep := codeStep_stepCode context c cs
  generalize stepCode context c cs = s at hstep ⊢
  cases hstep with
  | name first =>
    -- a name that does not start with a word starts with a backslash
    have hslash : c = '\\' ∧ nextIs isNameStart cs = true := by simpa [startsName, hc] using first
    obtain ⟨rfl, hnext⟩ := hslash
    have hgoes : continuesName ('\\' :: cs) = true := by simp [continuesName, hnext]
    have hnone : startsWithWord .nameFullyQualified = false := by decide
    simp [stepName, name, Cut.before, hgoes, nameCategory, Step.read, leadingWord?, hnone]
  | operator found =>
    have hall : ∀ p ∈ operators, startsWithWord p.2 = false := by decide
    have hnone := hall _ (List.mem_of_find?_eq_some found)
    simp only [Step.read, leadingWord?, hnone, Bool.false_eq_true, if_false]
  | number first =>
    simp only [stepNumber]
    cases (number (c :: cs)).1 <;> rfl
  | blockComment first second =>
    rw [stepBlockComment]
    split <;> rfl
  | closeTag => rfl
  | space => rfl
  | heredoc => rfl
  | attributeOpen => rfl
  | lineComment => rfl
  | variableName => rfl
  | quoted => rfl
  | shell => rfl
  | separator => rfl
  | punctuation => rfl

/-- In code, white space is read to its end. -/
lemma stepCode_of_isSpace (context : Context) {c : Char} (cs : List Char) (h : isSpace c = true) :
    stepCode context c cs =
      .read .whitespace (Cut.span isSpace (c :: cs)) (.code context) := by
  have hmark : c ≠ '?' := by
    rintro rfl
    cases h
  simp [stepCode, hmark, h]

/-- In code, a token that does not start with white space is none. -/
lemma isOf_whitespace_stepCode (context : Context) {c : Char} (cs : List Char)
    (h : isSpace c = false) : isOf .whitespace (stepCode context c cs).token = false := by
  have hstep := codeStep_stepCode context c cs
  generalize stepCode context c cs = s at hstep ⊢
  cases hstep with
  | space first =>
    rw [h] at first
    cases first
  | name first => exact isOf_whitespace_of_mem_nameCategories (nameCategory_mem _ _ _) _
  | operator found =>
    have hall : ∀ p ∈ operators, isOf .whitespace (.named p.2 "") = false := by decide
    exact hall _ (List.mem_of_find?_eq_some found)
  | number first =>
    simp only [stepNumber]
    cases (number (c :: cs)).1 <;> rfl
  | blockComment first second =>
    rw [stepBlockComment]
    split <;> rfl
  | closeTag => rfl
  | heredoc => rfl
  | attributeOpen => rfl
  | lineComment => rfl
  | variableName => rfl
  | quoted => rfl
  | shell => rfl
  | separator => rfl
  | punctuation => rfl

/-- Whether a name is declared behind `enum` shows in the next two tokens. -/
lemma declaresName_tokensFrom (context : Context) (rest : List Char) :
    declaresName (tokensFrom (.code context) rest) = declaredNameFollows rest := by
  cases rest with
  | nil => rw [tokensFrom_nil]; rfl
  | cons c cs =>
    rw [tokensFrom_cons]
    simp only [step]
    by_cases hc : isSpace c = true
    · rw [stepCode_of_isSpace context cs hc]
      simp only [Step.read, Cut.span]
      have hspace : isSpace c = true := hc
      cases hrest : (c :: cs).dropWhile isSpace with
      | nil => simp [tokensFrom_nil, declaresName, declaredNameFollows, hrest, nextIs]
      | cons d ds =>
        rw [tokensFrom_cons]
        simp only [step, declaresName, leadingWord?_stepCode, declaredNameFollows, hrest]
        by_cases hd : isNameStart d = true
        · simp [hd, nextIs, hspace, isOf]
        · simp [hd, nextIs, hspace, isOf]
    · have hno := isOf_whitespace_stepCode context cs (by simpa using hc)
      have hnext : nextIs isSpace (c :: cs) = false := by simpa [nextIs] using hc
      simp only [declaredNameFollows, hnext, Bool.false_and]
      cases tokensFrom (stepCode context c cs).mode (stepCode context c cs).rest with
      | nil => rfl
      | cons t ts => simp [declaresName, hno]

/-! ### The category of a word -/

/-- A word starts with a character that starts a name. -/
lemma isNameStart_of_isWordCategory {context : Context} {c : Char} {cs : List Char}
    {category : Category} {text : String}
    (h : (stepCode context c cs).token = .named category text)
    (hword : isWordCategory category = true) : isNameStart c = true := by
  have hleading := leadingWord?_stepCode context c cs
  by_contra hno
  rw [h, if_neg hno, leadingWord?, startsWithWord, hword] at hleading
  cases hleading

/-- A word is read in code, and the context and what follows give its category. -/
lemma wordCategory_of_step {mode : Mode} {c : Char} {cs : List Char} {category : Category}
    {text : String} (h : (step mode c cs).token = .named category text)
    (hword : isWordCategory category = true) :
    ∃ context, mode = .code context ∧
      category = wordCategory context text.toList (step mode c cs).rest ∧
      (step mode c cs).mode = modeAfterName category := by
  cases mode with
  | markup =>
    simp only [step, stepMarkup] at h
    split at h
    · next htag =>
      cases h
      rcases category_of_openTag? htag with rfl | rfl <;> cases hword
    · cases h
      cases hword
  | shell =>
    simp only [step, stepShell] at h
    split at h
    · cases h
    · cases h
      cases hword
  | heredoc label =>
    simp only [step, stepHeredoc] at h
    split at h <;> cases h <;> cases hword
  | data =>
    cases h
    cases hword
  | code context =>
    simp only [step] at h ⊢
    have hstart := isNameStart_of_isWordCategory h hword
    rw [stepCode_of_isNameStart context cs hstart] at h ⊢
    simp only [stepName, Step.read, RawToken.named.injEq] at h ⊢
    obtain ⟨rfl, rfl⟩ := h
    refine ⟨context, rfl, ?_, rfl⟩
    rw [String.toList_ofList]
    -- a name of several parts is not a word
    unfold nameCategory at hword ⊢
    split
    · next hfull =>
      rw [if_pos hfull] at hword
      cases hword
    next hfull =>
    rw [if_neg hfull] at hword
    split
    · next hparts =>
      rw [if_pos hparts] at hword
      split at hword <;> cases hword
    · rfl

/-- The word `enum` is reserved by what follows it alone. -/
lemma reserved?_of_isWord_enum {word : List Char} (h : isWord "enum" word = true) :
    reserved? word = none := by
  have hlower : Text.lower word = "enum".toList := by simpa [isWord] using h
  rw [reserved?, hlower]
  decide

/-- **Words in context.**  A word in the position of a member is an identifier.  Any other word is
`enum`, if it is spelled so and white space and a word other than `extends` and `implements` follow;
else it has the category of the reserved words, if it is one, and is an identifier otherwise. -/
theorem category_of_word {source : String} {front back : List RawToken} {category : Category}
    {text : String} (h : tokenize source = front ++ .named category text :: back)
    (hword : isWordCategory category = true) :
    category =
      if isMemberPosition front.reverse text.toList then .identifier
      else if isWord "enum" text.toList && declaresName back then .kwEnum
      else (reserved? text.toList).getD .identifier := by
  obtain ⟨mode, c, rest, hreads, htoken, hback⟩ := exists_step h
  obtain ⟨context, rfl, hcategory, hmode⟩ := wordCategory_of_step htoken hword
  have hcontext : contextOf front.reverse = context := by
    have hreverse : contextOf (front.reverse ++ []) = context :=
      contextOf_reads (fun context hno => by cases hno) hreads
    rwa [List.append_nil] at hreverse
  rw [← makesIdentifier_contextOf, hcontext]
  unfold wordCategory at hcategory
  by_cases hmember : context.makesIdentifier text.toList = true
  · rw [if_pos hmember] at hcategory ⊢
    exact hcategory
  rw [if_neg hmember] at hcategory ⊢
  by_cases henum : isWord "enum" text.toList = true
  · -- behind `enum` the lexer goes on in code, whatever the word has become
    have hcode : modeAfterName category = .code .plain := by
      rw [reserved?_of_isWord_enum henum] at hcategory
      rw [hcategory]
      split <;> rfl
    rw [hmode, hcode] at hback
    rw [← hback, declaresName_tokensFrom]
    exact hcategory
  · simp only [henum, Bool.false_and] at hcategory ⊢
    exact hcategory

/-- A reserved word behind `function`, an ampersand and a comment names the function. -/
theorem category_of_word_list :
    tokenize "<?php function &/**/list" =
        [.named .openTag "<?php ", .named .kwFunction "function", .named .whitespace " ",
          .punctuation '&', .named .comment "/**/"] ++ .named .identifier "list" :: [] ∧
      isWordCategory .identifier = true ∧ reserved? "list".toList = some .kwList ∧
      Category.identifier =
        if isMemberPosition [.named .comment "/**/", .punctuation '&', .named .whitespace " ",
            .named .kwFunction "function", .named .openTag "<?php "] "list".toList then .identifier
        else if isWord "enum" "list".toList && declaresName [] then .kwEnum
        else (reserved? "list".toList).getD .identifier := by
  have hsplit : tokenize "<?php function &/**/list" =
      [.named .openTag "<?php ", .named .kwFunction "function", .named .whitespace " ",
        .punctuation '&', .named .comment "/**/"] ++ .named .identifier "list" :: [] := by
    decide +kernel
  exact ⟨hsplit, by decide, by decide, category_of_word hsplit (by decide)⟩

end PhpOutline.Lexer
