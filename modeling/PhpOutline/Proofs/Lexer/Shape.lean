import Mathlib.Data.List.Basic
import Mathlib.Data.List.Infix
import Mathlib.Data.List.TakeWhile
import PhpOutline.Proofs.Lexer.FencedReaders
import PhpOutline.Proofs.Lexer.Lossless
import PhpOutline.Proofs.Lexer.WordContext
import PhpOutline.Proofs.Text.Split

/-!
# The shapes of tokens

What the text of a token looks like is told by its category (`TextShape`): white space is white
space only, a word is one identifier, a name is made of identifiers between single backslashes, a
comment does not go beyond its end.  Tokens are also as long as they can be: behind white space
there is no further white space, and behind a word, a name or a variable no character that would
belong to it (`Sealed`).

Both are shown of a single step (`formed_step`), with one lemma for each reader, and then of all
tokens of a source and of all neighbours among them (`formed_tokenize`).
-/

namespace PhpOutline.Lexer

/-! ### Shapes -/

/-- One word: a character that can start a name, then characters that can continue it. -/
def isIdentifier : List Char → Bool
  | [] => false
  | c :: cs => isNameStart c && cs.all isNameChar

/-- The text is made of the given words, joined by single backslashes. -/
structure Joins (words : List (List Char)) (text : List Char) : Prop where
  isIdentifier : ∀ word ∈ words, isIdentifier word = true
  text : text = ['\\'].intercalate words

/-- A comment up to the end of its line, or up to a close tag. -/
structure IsLineComment (text : List Char) : Prop where
  opener : ['#'] <+: text ∨ ['/', '/'] <+: text
  noLineFeed : '\n' ∉ text
  noReturn : '\r' ∉ text
  noCloseTag : ¬['?', '>'] <:+: text

/-- A comment up to the first star and slash behind its opening. -/
structure IsBlockComment (text : List Char) : Prop where
  opener : ['/', '*'] <+: text
  closer : ∀ front back, text.drop 2 = front ++ '*' :: '/' :: back → back = []

/-- The texts that tokens of a category have. -/
def TextShape : Category → List Char → Prop
  | .whitespace, text => text.all isSpace = true
  | .variableName, text => ∃ word, text = '$' :: word ∧ isIdentifier word = true
  | .nameFullyQualified, text =>
    ∃ first words path, text = '\\' :: path ∧ Joins (first :: words) path
  | .nameRelative, text =>
    ∃ first second words, Joins (first :: second :: words) text ∧ isWord "namespace" first = true
  | .nameQualified, text =>
    ∃ first second words, Joins (first :: second :: words) text ∧ isWord "namespace" first = false
  | .comment, text => IsLineComment text ∨ IsBlockComment text ∧ isDocComment text = false
  | .docComment, text => IsBlockComment text ∧ isDocComment text = true
  | category, text => isWordCategory category = true → isIdentifier text = true

/-- The text of the token has the shape that its category asks for. -/
def HasShape : RawToken → Prop
  | .named category text => TextShape category text.toList
  | .punctuation _ => True

/-- Words, names of several words, and variables. -/
def endsInWord : RawToken → Bool
  | .named category _ => (.variableName :: nameCategories).contains category
  | .punctuation _ => false

/-- White space is not followed by white space, and a word not by a character of a word. -/
def Sealed (t : RawToken) (rest : List Char) : Prop :=
  (isOf .whitespace t = true → nextIs isSpace rest = false) ∧
    (endsInWord t = true → nextIs isNameChar rest = false)

/-- Behind other tokens there may be anything. -/
lemma sealed_of_eq_false {t : RawToken} (hspace : isOf .whitespace t = false)
    (hword : endsInWord t = false) (rest : List Char) : Sealed t rest := by
  simp [Sealed, hspace, hword]

/-- The token of a step has its shape and is as long as it can be. -/
structure Formed (s : Step) : Prop where
  hasShape : HasShape s.token
  isSealed : Sealed s.token s.rest

variable {c : Char} {cs : List Char} {p : Char → Bool} {stop : List Char → Bool}
  {category : Category} {k : Cut} {mode : Mode}

/-! ### Tokens without a shape -/

/-- The categories whose tokens have a shape. -/
def shapedCategories : List Category :=
  [.whitespace, .comment, .docComment, .variableName] ++ nameCategories

/-- Tokens of the category may have any text, and anything behind them. -/
def isPlain (category : Category) : Bool := !shapedCategories.contains category

lemma isWordCategory_eq_false (h : isPlain category = true) : isWordCategory category = false := by
  rw [Bool.eq_false_iff]
  intro hword
  have hmem : category ∈ nameCategories := by
    simp only [isWordCategory, Bool.or_eq_true, beq_iff_eq, List.contains_iff_mem] at hword
    rcases hword with (rfl | rfl) | hmem
    · decide
    · decide
    · exact List.mem_append_right _ hmem
  simp [isPlain, shapedCategories, hmem] at h

lemma textShape_of_isPlain (h : isPlain category = true) (text : List Char) :
    TextShape category text := by
  have hword := isWordCategory_eq_false h
  unfold TextShape
  split
  case h_8 => simp [hword]
  all_goals exact absurd h (by decide)

lemma formed_of_isPlain (h : isPlain category = true) (k : Cut) (mode : Mode) :
    Formed (.read category k mode) := by
  refine ⟨textShape_of_isPlain h _, ?_, ?_⟩
  · intro hspace
    simp only [Step.read, isOf, beq_iff_eq] at hspace
    subst hspace
    cases h
  · intro hword
    have hmem := List.contains_iff_mem.1 hword
    have hno : category ∉ shapedCategories := by simpa [isPlain] using h
    refine absurd ?_ hno
    rcases List.mem_cons.1 hmem with rfl | hmem
    · decide
    · exact List.mem_append_right _ hmem

lemma formed_punctuation (c : Char) (rest : List Char) (mode : Mode) :
    Formed (.punctuation c rest mode) :=
  ⟨trivial, sealed_of_eq_false rfl rfl rest⟩

/-! ### White space and variables -/

/-- Behind a run of characters of one class there is none of that class. -/
lemma nextIs_rest_span (p : Char → Bool) (cs : List Char) :
    nextIs p (Cut.span p cs).rest = false := by
  have hhead := List.head?_dropWhile_not p cs
  rw [nextIs, Cut.span]
  cases h : (cs.dropWhile p).head? with
  | none => rfl
  | some c =>
    rw [h] at hhead
    simpa using hhead

lemma all_text_span (p : Char → Bool) (cs : List Char) : (Cut.span p cs).text.all p = true :=
  List.all_eq_true.2 fun _ h => List.mem_takeWhile_imp h

/-- The characters of a word that start with one that can start a name are an identifier. -/
lemma isIdentifier_takeWhile (h : isNameStart c = true) (cs : List Char) :
    isIdentifier ((c :: cs).takeWhile isNameChar) = true := by
  have hc : isNameChar c = true := by simp [isNameChar, h]
  rw [List.takeWhile_cons_of_pos hc, isIdentifier, h, Bool.true_and]
  exact all_text_span isNameChar cs

lemma formed_space (cs : List Char) (mode : Mode) :
    Formed (.read .whitespace (Cut.span isSpace cs) mode) := by
  refine ⟨?_, fun _ => nextIs_rest_span isSpace cs, fun hword => by cases hword⟩
  simp only [Step.read, HasShape, TextShape, String.toList_ofList]
  exact all_text_span isSpace cs

lemma formed_variableName (h : nextIs isNameStart cs = true) (mode : Mode) :
    Formed (.read .variableName ((Cut.span isNameChar cs).push '$') mode) := by
  refine ⟨?_, fun hspace => (by cases hspace), fun _ => nextIs_rest_span isNameChar cs⟩
  simp only [Step.read, HasShape, TextShape, String.toList_ofList]
  refine ⟨_, rfl, ?_⟩
  cases cs with
  | nil => cases h
  | cons c cs => exact isIdentifier_takeWhile (by simpa [nextIs] using h) cs

/-! ### Names -/

/-- A name is a word and further words, each behind a backslash.  The induction is on the source: a
character of a word goes on with the first word, a backslash starts a new one. -/
lemma exists_words (cs : List Char) :
    ∃ words : List (List Char), (∀ word ∈ words, isIdentifier word = true) ∧
      (name cs).text = cs.takeWhile isNameChar ++ words.flatMap ('\\' :: ·) := by
  induction cs with
  | nil => exact ⟨[], by simp, rfl⟩
  | cons c cs ih =>
    obtain ⟨words, hwords, htext⟩ := ih
    rw [name, Cut.before]
    by_cases hc : isNameChar c = true
    · have hgoes : continuesName (c :: cs) = true := by simp [continuesName, hc]
      refine ⟨words, hwords, ?_⟩
      rw [hgoes, List.takeWhile_cons_of_pos hc, List.cons_append, ← htext]
      rfl
    · by_cases hgoes : continuesName (c :: cs) = true
      · have hslash : c = '\\' ∧ nextIs isNameStart cs = true := by
          simpa [continuesName, hc] using hgoes
        refine ⟨cs.takeWhile isNameChar :: words, ?_, ?_⟩
        · rw [List.forall_mem_cons]
          refine ⟨?_, hwords⟩
          cases cs with
          | nil => cases hslash.2
          | cons d ds => exact isIdentifier_takeWhile (by simpa [nextIs] using hslash.2) ds
        · rw [hgoes, List.takeWhile_cons_of_neg hc, List.nil_append, List.flatMap_cons,
            List.cons_append, ← htext, hslash.1]
          rfl
      · refine ⟨[], by simp, ?_⟩
        rw [Bool.eq_false_iff.2 hgoes, List.takeWhile_cons_of_neg hc]
        rfl

lemma backslash_not_mem_takeWhile (cs : List Char) : '\\' ∉ cs.takeWhile isNameChar :=
  fun h => absurd (List.mem_takeWhile_imp h) (by decide)

/-- The text of a name that starts with a word. -/
lemma textShape_name_of_isNameStart (context : Context) (h : isNameStart c = true)
    (rest : List Char) :
    TextShape (nameCategory context (name (c :: cs)).text rest) (name (c :: cs)).text := by
  obtain ⟨words, hwords, htext⟩ := exists_words (c :: cs)
  have hfirst := isIdentifier_takeWhile h cs
  have hjoins : Joins ((c :: cs).takeWhile isNameChar :: words) (name (c :: cs)).text :=
    ⟨List.forall_mem_cons.2 ⟨hfirst, hwords⟩, by rw [htext, Text.intercalate_cons]⟩
  have hleading := takeWhile_text_name (c :: cs)
  have hhead : (name (c :: cs)).text.head? ≠ some '\\' := by
    have hc : isNameChar c = true := by simp [isNameChar, h]
    rw [htext, List.takeWhile_cons_of_pos hc, List.cons_append, List.head?_cons]
    rintro heq
    cases heq
    cases h
  rw [nameCategory, if_neg hhead, hleading]
  cases words with
  | nil =>
    have hword : (name (c :: cs)).text = (c :: cs).takeWhile isNameChar := by simpa using htext
    have hno : '\\' ∉ (name (c :: cs)).text := by
      rw [hword]
      exact backslash_not_mem_takeWhile _
    rw [if_neg hno, hword]
    have hcategory := isWordCategory_wordCategory context ((c :: cs).takeWhile isNameChar) rest
    generalize wordCategory context ((c :: cs).takeWhile isNameChar) rest = category at hcategory ⊢
    unfold TextShape
    split
    case h_8 => exact fun _ => hfirst
    all_goals exact absurd hcategory (by decide)
  | cons second words =>
    have hmem : '\\' ∈ (name (c :: cs)).text := by simp [htext]
    rw [if_pos hmem]
    split
    · next hnamespace => exact ⟨_, second, words, hjoins, hnamespace⟩
    · next hnamespace => exact ⟨_, second, words, hjoins, by simpa using hnamespace⟩

/-- The text of a name that starts with a backslash. -/
lemma textShape_name_of_backslash (context : Context) (h : nextIs isNameStart cs = true)
    (rest : List Char) :
    TextShape (nameCategory context (name ('\\' :: cs)).text rest) (name ('\\' :: cs)).text := by
  have hgoes : continuesName ('\\' :: cs) = true := by simp [continuesName, h]
  have htext : (name ('\\' :: cs)).text = '\\' :: (name cs).text := by
    rw [name, Cut.before, hgoes]
    rfl
  rw [htext, nameCategory, List.head?_cons, if_pos rfl]
  obtain ⟨words, hwords, hname⟩ := exists_words cs
  refine ⟨cs.takeWhile isNameChar, words, _, rfl, ?_, by rw [hname, Text.intercalate_cons]⟩
  rw [List.forall_mem_cons]
  refine ⟨?_, hwords⟩
  cases cs with
  | nil => cases h
  | cons c cs => exact isIdentifier_takeWhile (by simpa [nextIs] using h) cs

/-- A cut stops at the end or where it is told to. -/
lemma stop_rest_before (stop : List Char → Bool) (cs : List Char) :
    (Cut.before stop cs).rest = [] ∨ stop (Cut.before stop cs).rest = true := by
  induction cs with
  | nil => exact .inl rfl
  | cons c cs ih =>
    rw [Cut.before]
    split
    · next h => exact .inr h
    · exact ih

/-- A name is as long as it can be. -/
lemma nextIs_rest_name (cs : List Char) : nextIs isNameChar (name cs).rest = false := by
  rcases stop_rest_before (fun rest => !continuesName rest) cs with hnil | hstop
  · rw [name, hnil]
    rfl
  · rw [name]
    generalize (Cut.before (fun rest => !continuesName rest) cs).rest = rest at hstop ⊢
    cases rest with
    | nil => rfl
    | cons c rest =>
      rw [Bool.not_eq_true', continuesName, Bool.or_eq_false_iff] at hstop
      exact hstop.1

lemma formed_stepName (context : Context) (h : startsName c cs = true) :
    Formed (stepName context (c :: cs)) := by
  refine ⟨?_, fun hspace => ?_, fun _ => nextIs_rest_name _⟩
  · simp only [stepName, Step.read, HasShape, String.toList_ofList]
    rw [startsName, Bool.or_eq_true, Bool.and_eq_true, beq_iff_eq] at h
    rcases h with hstart | ⟨rfl, hnext⟩
    · exact textShape_name_of_isNameStart context hstart _
    · exact textShape_name_of_backslash context hnext _
  · have hno : isOf .whitespace (stepName context (c :: cs)).token = false :=
      isOf_whitespace_of_mem_nameCategories (nameCategory_mem _ _ _) _
    rw [hno] at hspace
    cases hspace

/-! ### Comments -/

/-- Within the text of a cut, the cut was not told to stop. -/
lemma stop_eq_false_of_text {front back : List Char} (h : (Cut.before stop cs).text = front ++ back)
    (hback : back ≠ []) : stop (back ++ (Cut.before stop cs).rest) = false := by
  induction cs generalizing front with
  | nil =>
    have hnil : front ++ back = [] := h.symm
    exact absurd (List.append_eq_nil_iff.1 hnil).2 hback
  | cons c cs ih =>
    rw [Cut.before] at h ⊢
    split at h
    · exact absurd (List.append_eq_nil_iff.1 h.symm).2 hback
    · next hstop =>
      rw [if_neg hstop]
      cases front with
      | nil =>
        obtain ⟨d, back, rfl⟩ := List.exists_cons_of_ne_nil hback
        obtain ⟨rfl, htail⟩ := List.cons.inj h
        rw [List.cons_append, ← htail]
        have hwhole := Cut.whole_before stop cs
        rw [Cut.whole] at hwhole
        change stop (c :: ((Cut.before stop cs).text ++ (Cut.before stop cs).rest)) = false
        rw [hwhole]
        exact Bool.eq_false_iff.2 hstop
      | cons d front => exact ih (List.cons.inj h).2

lemma not_mem_text_lineComment {d : Char} (hd : ∀ ds, endsLineComment (d :: ds) = true)
    (cs : List Char) : d ∉ (lineComment cs).text := by
  intro hmem
  obtain ⟨front, back, hsplit⟩ := List.append_of_mem hmem
  have hno := stop_eq_false_of_text hsplit (List.cons_ne_nil d back)
  rw [List.cons_append, hd] at hno
  cases hno

lemma isLineComment_push (h : c = '#' ∨ c = '/' ∧ cs.head? = some '/') :
    IsLineComment (c :: (lineComment cs).text) := by
  have hfirst : c = '#' ∨ c = '/' := h.imp_right And.left
  refine ⟨?_, ?_, ?_, ?_⟩
  · rcases h with rfl | ⟨rfl, hnext⟩
    · exact .inl ⟨_, rfl⟩
    · obtain ⟨ds, rfl⟩ := List.head?_eq_some_iff.1 hnext
      exact .inr ⟨(lineComment ds).text, rfl⟩
  · have hno := not_mem_text_lineComment (d := '\n') (fun _ => rfl) cs
    rcases hfirst with rfl | rfl <;> simp [hno]
  · have hno := not_mem_text_lineComment (d := '\r') (fun _ => rfl) cs
    rcases hfirst with rfl | rfl <;> simp [hno]
  · rw [List.infix_cons_iff]
    rintro (hopener | ⟨front, back, hsplit⟩)
    · obtain ⟨tail, htail⟩ := hopener
      rcases hfirst with rfl | rfl <;> cases htail
    · rw [List.append_assoc] at hsplit
      have hno := stop_eq_false_of_text hsplit.symm (List.cons_ne_nil '?' _)
      cases hno

/-- A block comment has a star and a slash at its end only. -/
lemma eq_nil_of_text_throughStarSlash {front back : List Char}
    (h : (throughStarSlash cs).text = front ++ '*' :: '/' :: back) : back = [] := by
  induction cs generalizing front with
  | nil =>
    have hnil : [] = front ++ '*' :: '/' :: back := h
    simp at hnil
  | cons c cs ih =>
    by_cases hends : c = '*' ∧ cs.head? = some '/'
    · obtain ⟨rfl, hslash⟩ := hends
      obtain ⟨ds, rfl⟩ := List.head?_eq_some_iff.1 hslash
      have hlength := congrArg List.length h
      simp only [throughStarSlash, List.length_append, List.length_cons, List.length_nil] at hlength
      exact List.eq_nil_of_length_eq_zero (by omega)
    · rw [throughStarSlash_cons hends] at h
      cases front with
      | nil =>
        -- the text goes on like the source, so that the comment would have ended here
        obtain ⟨rfl, htail⟩ := List.cons.inj h
        have hwhole := whole_throughStarSlash cs
        rw [Cut.whole, htail] at hwhole
        exact absurd ⟨rfl, by rw [← hwhole]; rfl⟩ hends
      | cons d front => exact ih (List.cons.inj h).2

/-- A comment that is closed has at least two characters behind its opening. -/
lemma take_text_throughStarSlash (cs : List Char) :
    (throughStarSlash cs).text.take 2 = cs.take 2 := by
  induction cs with
  | nil => rfl
  | cons c cs ih =>
    by_cases hends : c = '*' ∧ cs.head? = some '/'
    · obtain ⟨rfl, hslash⟩ := hends
      obtain ⟨ds, rfl⟩ := List.head?_eq_some_iff.1 hslash
      rfl
    · have hone := congrArg (List.take 1) ih
      rw [List.take_take, List.take_take] at hone
      rw [throughStarSlash_cons hends, Cut.text_push, List.take_succ_cons, List.take_succ_cons]
      exact congrArg (c :: ·) hone

/-- Whether a comment documents a declaration shows in its own text. -/
lemma isDocComment_text (ds : List Char) :
    isDocComment ('/' :: '*' :: (throughStarSlash ds).text) = isDocComment ('/' :: '*' :: ds) := by
  have htake : ∀ ds, isDocComment ('/' :: '*' :: ds) = isDocComment ('/' :: '*' :: ds.take 2) := by
    intro ds
    rcases ds with _ | ⟨d, _ | ⟨e, ds⟩⟩ <;> simp [isDocComment_eq, nextIs, List.isPrefixOf]
  rw [htake, take_text_throughStarSlash, ← htake]

lemma formed_stepBlockComment (context : Context) (ds : List Char) :
    Formed (stepBlockComment context ('/' :: '*' :: ds)) := by
  have hblock : IsBlockComment ('/' :: '*' :: (throughStarSlash ds).text) :=
    ⟨⟨_, rfl⟩, fun front back h => eq_nil_of_text_throughStarSlash h⟩
  have hdoc := isDocComment_text ds
  rw [stepBlockComment]
  split
  · next h =>
    refine ⟨?_, sealed_of_eq_false rfl rfl _⟩
    simp only [Step.read, HasShape, TextShape, String.toList_ofList]
    exact ⟨hblock, hdoc.trans h⟩
  · next h =>
    refine ⟨?_, sealed_of_eq_false rfl rfl _⟩
    simp only [Step.read, HasShape, TextShape, String.toList_ofList]
    exact .inr ⟨hblock, hdoc.trans (Bool.eq_false_iff.2 h)⟩

/-! ### Steps and runs -/

lemma formed_stepCode (context : Context) (c : Char) (cs : List Char) :
    Formed (stepCode context c cs) := by
  have hstep := codeStep_stepCode context c cs
  generalize stepCode context c cs = s at hstep ⊢
  cases hstep with
  | closeTag => exact formed_of_isPlain rfl _ _
  | space => exact formed_space _ _
  | heredoc => exact formed_of_isPlain rfl _ _
  | attributeOpen => exact formed_of_isPlain rfl _ _
  | lineComment first =>
    refine ⟨?_, sealed_of_eq_false rfl rfl _⟩
    simp only [Step.read, HasShape, TextShape, String.toList_ofList]
    exact .inl (isLineComment_push first)
  | blockComment first second =>
    obtain ⟨ds, rfl⟩ := List.head?_eq_some_iff.1 second
    rw [first]
    exact formed_stepBlockComment context ds
  | variableName first second =>
    rw [first]
    exact formed_variableName second _
  | quoted => exact formed_of_isPlain rfl _ _
  | shell => exact formed_punctuation _ _ _
  | number =>
    simp only [stepNumber]
    cases (number (c :: cs)).1 <;> exact formed_of_isPlain rfl _ _
  | name first => exact formed_stepName context first
  | separator => exact formed_of_isPlain rfl _ _
  | operator found =>
    have hall : ∀ op ∈ operators, isPlain op.2 = true := by decide
    exact formed_of_isPlain (hall _ (List.mem_of_find?_eq_some found)) _ _
  | punctuation => exact formed_punctuation _ _ _

/-- Every step reads a token that has its shape and is as long as it can be. -/
lemma formed_step (mode : Mode) (c : Char) (cs : List Char) : Formed (step mode c cs) := by
  cases mode with
  | markup =>
    rw [step, stepMarkup]
    split
    · next category k h =>
      rcases category_of_openTag? h with rfl | rfl <;> exact formed_of_isPlain rfl _ _
    · exact formed_of_isPlain rfl _ _
  | code context => exact formed_stepCode context c cs
  | shell =>
    rw [step, stepShell]
    split
    · exact formed_punctuation _ _ _
    · exact formed_of_isPlain rfl _ _
  | heredoc label =>
    simp only [step, stepHeredoc]
    split <;> exact formed_of_isPlain rfl _ _
  | data => exact formed_of_isPlain rfl _ _

/-- Two tokens that may stand side by side: not both are white space, and behind a word, a name or a
variable there is no character of a word. -/
def MayFollow (t u : RawToken) : Prop :=
  ¬(isOf .whitespace t = true ∧ isOf .whitespace u = true) ∧
    (endsInWord t = true → nextIs isNameChar u.text.toList = false)

/-- The first character of a token is the first one of what it is read from. -/
lemma nextIs_text_step (p : Char → Bool) (mode : Mode) (c : Char) (cs : List Char) :
    nextIs p (step mode c cs).token.text.toList = nextIs p (c :: cs) := by
  obtain ⟨hwhole, hadvances⟩ := step_lossless mode c cs
  obtain ⟨d, ds, htext⟩ := List.exists_cons_of_ne_nil hadvances
  rw [Step.whole, htext] at hwhole
  rw [htext, ← hwhole]
  rfl

/-- White space starts with white space. -/
lemma nextIs_isSpace_of_isOf (h : isOf .whitespace (step mode c cs).token = true) :
    nextIs isSpace (c :: cs) = true := by
  have hshape := (formed_step mode c cs).hasShape
  have hadvances := (step_lossless mode c cs).2
  rw [← nextIs_text_step isSpace mode c cs]
  rw [Step.Advances] at hadvances
  generalize (step mode c cs).token = t at h hshape hadvances ⊢
  cases t with
  | punctuation => cases h
  | named category text =>
    obtain rfl : category = .whitespace := by simpa [isOf] using h
    obtain ⟨d, ds, htext⟩ := List.exists_cons_of_ne_nil hadvances
    rw [HasShape, TextShape] at hshape
    rw [RawToken.text] at htext ⊢
    rw [htext, List.all_cons, Bool.and_eq_true] at hshape
    rw [htext]
    exact hshape.1

/-- A token that is sealed off from what follows may be followed by the token that is read there. -/
lemma mayFollow_step {t : RawToken} (h : Sealed t (c :: cs)) (mode : Mode) :
    MayFollow t (step mode c cs).token := by
  refine ⟨?_, ?_⟩
  · rintro ⟨hspace, hspace'⟩
    have hno := h.1 hspace
    rw [nextIs_isSpace_of_isOf hspace'] at hno
    cases hno
  · intro hword
    rw [nextIs_text_step]
    exact h.2 hword

lemma formed_tokensFrom (mode : Mode) (cs : List Char) :
    (∀ t ∈ tokensFrom mode cs, HasShape t) ∧ (tokensFrom mode cs).IsChain MayFollow := by
  induction mode, cs using tokensFrom.induct with
  | case1 mode =>
    rw [tokensFrom_nil]
    exact ⟨by simp, .nil⟩
  | case2 mode c cs ih =>
    obtain ⟨hshape, hchain⟩ := ih
    have hformed := formed_step mode c cs
    rw [tokensFrom_cons]
    refine ⟨List.forall_mem_cons.2 ⟨hformed.hasShape, hshape⟩, ?_⟩
    cases hrest : (step mode c cs).rest with
    | nil =>
      rw [tokensFrom_nil]
      exact .singleton _
    | cons d ds =>
      have hsealed := hformed.isSealed
      rw [hrest] at hchain hsealed
      rw [tokensFrom_cons] at hchain ⊢
      exact .cons_cons (mayFollow_step hsealed _) hchain

/-- **Tokens have the shapes of their categories and are as long as they can be.**  In every source,
the text of a token is one that its category allows.  No two neighbours are both white space, and
behind a word, a name or a variable no token starts with a character that would belong to it. -/
theorem formed_tokenize (source : String) :
    (∀ t ∈ tokenize source, HasShape t) ∧ (tokenize source).IsChain MayFollow :=
  formed_tokensFrom .markup source.toList

end PhpOutline.Lexer
