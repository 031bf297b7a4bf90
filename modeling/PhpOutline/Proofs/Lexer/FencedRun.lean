import Mathlib.Data.List.Basic
import Mathlib.Data.List.TakeWhile
import PhpOutline.Proofs.Lexer.FencedReaders
import PhpOutline.Proofs.Lexer.WordContext

/-!
# Runs up to a fence

A step of the lexer that does not take the fence into its token reads the same token from any two
sources that agree up to the fence (`step_fenced`).  So a run that comes to the fence reads the same
tokens from both: `Reads.fenced`.

A quote behind three angle brackets is not a fence for the lexer, since it may open the label of a
heredoc.  It may also close one, but no run stops there (`not_reads_of_closesLabel`).
-/

namespace PhpOutline.Lexer

/-! ### Steps -/

/-- The steps read the same token into the same mode, and what is left agrees up to the fence. -/
structure SameStep (q : Char) (x y : List Char) (s s' : Step) : Prop where
  token : s.token = s'.token
  mode : s.mode = s'.mode
  rest : Fenced q x y s.rest s'.rest

/-- The steps are the same, unless the first one has the fence in its token. -/
def StepUnlessPassed (q : Char) (x y : List Char) (s s' : Step) : Prop :=
  x.length < s.rest.length → SameStep q x y s s'

section Steps

variable {q c : Char} {x y cs ds : List Char} {k k' : Cut} {s s' t t' : Step}

lemma SameCut.read (h : SameCut q x y k k') (category : Category) (mode : Mode) :
    StepUnlessPassed q x y (.read category k mode) (.read category k' mode) := by
  intro _
  refine ⟨?_, rfl, h.rest⟩
  rw [Step.read, Step.read, h.text]

lemma SameUnlessPassed.read (h : SameUnlessPassed q x y k k') (category : Category)
    (mode : Mode) : StepUnlessPassed q x y (.read category k mode) (.read category k' mode) :=
  fun hlt => (h hlt).read category mode hlt

lemma stepUnlessPassed_read (h : Fenced q x y cs ds) (category : Category) (text : List Char)
    (mode : Mode) :
    StepUnlessPassed q x y (.read category ⟨text, cs⟩ mode) (.read category ⟨text, ds⟩ mode) :=
  fun _ => ⟨rfl, rfl, h⟩

lemma stepUnlessPassed_punctuation (h : Fenced q x y cs ds) (c : Char) (mode : Mode) :
    StepUnlessPassed q x y (.punctuation c cs mode) (.punctuation c ds mode) :=
  fun _ => ⟨rfl, rfl, h⟩

/-- A step chosen by a condition that sees nothing behind the fence. -/
lemma StepUnlessPassed.ite {p : Prop} [Decidable p] (hpos : p → StepUnlessPassed q x y s s')
    (hneg : ¬p → StepUnlessPassed q x y t t') :
    StepUnlessPassed q x y (if p then s else t) (if p then s' else t') := by
  by_cases hp : p
  · rw [if_pos hp, if_pos hp]
    exact hpos hp
  · rw [if_neg hp, if_neg hp]
    exact hneg hp

lemma stepMarkup_fenced (hf : IsFence q x y) (h : Fenced q x y cs ds) :
    StepUnlessPassed q x y (stepMarkup cs) (stepMarkup ds) := by
  have hisSome : ∀ {cs ds : List Char}, Fenced q x y cs ds →
      (openTag? cs).isSome = (openTag? ds).isSome := by
    intro cs ds h
    have htag := openTag?_fenced hf h
    generalize openTag? cs = tag, openTag? ds = tag' at htag
    cases htag <;> rfl
  have htag := openTag?_fenced hf h
  rw [stepMarkup, stepMarkup]
  generalize openTag? cs = tag, openTag? ds = tag' at htag
  cases htag with
  | none => exact (sameUnlessPassed_before h hisSome).read _ _
  | @some tag tag' same =>
    obtain ⟨hcategory, hcut⟩ := same
    dsimp only
    rw [hcategory]
    exact hcut.read _ _

lemma stepOperator_fenced (hf : IsFence q x y) (h : Fenced q x y cs ds) (context : Context)
    (c : Char) :
    StepUnlessPassed q x y (stepOperator context c cs) (stepOperator context c ds) := by
  rw [stepOperator, stepOperator, ← operator?_fenced hf h]
  cases operator? (c :: cs) with
  | none => exact stepUnlessPassed_punctuation h _ _
  | some op =>
    intro hlt
    exact ⟨rfl, rfl, (Fenced.cons c h).drop_of_lt hlt⟩

lemma stepBlockComment_fenced (hq : isMark q = true) (h : Fenced q x y cs ds)
    (context : Context) (hstar : cs.head? = some '*') :
    StepUnlessPassed q x y (stepBlockComment context ('/' :: cs))
      (stepBlockComment context ('/' :: ds)) := by
  obtain ⟨cs, rfl⟩ := List.head?_eq_some_iff.1 hstar
  obtain ⟨ds, rfl, hbehind⟩ := h.exists_cons (ne_of_isMark hq rfl)
  rw [stepBlockComment, stepBlockComment, ← isDocComment_fenced hq (.cons '/' h)]
  exact ((throughStarSlash_fenced hq hbehind).prepend ['/', '*']).read _ _

lemma stepNumber_fenced (hq : isMark q = true) (h : Fenced q x y cs ds) :
    StepUnlessPassed q x y (stepNumber cs) (stepNumber ds) := by
  obtain ⟨hfloat, hcut⟩ := number_fenced hq h
  have hstep : ∀ cs, stepNumber cs =
      .read (if (number cs).1 then .dnumber else .lnumber) (number cs).2 (.code .plain) :=
    fun _ => rfl
  rw [hstep, hstep, hfloat]
  exact hcut.read _ _

lemma stepName_fenced (hq : isMark q = true) (h : Fenced q x y cs ds) (context : Context) :
    StepUnlessPassed q x y (stepName context cs) (stepName context ds) := by
  have hcut := name_fenced hq h
  rw [stepName, stepName, ← hcut.text, ← nameCategory_fenced hq hcut.rest]
  exact hcut.read _ _

lemma stepToken_fenced (hf : IsFence q x y) (h : Fenced q x y cs ds) (context : Context)
    (c : Char) : StepUnlessPassed q x y (stepToken context c cs) (stepToken context c ds) := by
  have hnumber : startsNumber c ds = startsNumber c cs := by
    rw [startsNumber, startsNumber, h.nextIs_eq]
  have hname : startsName c ds = startsName c cs := by
    rw [startsName, startsName, h.nextIs_eq]
  have hq := hf.isMark
  have hnames := isNameChar_of_isMark hq
  rw [stepToken, stepToken, ← h.head?_eq, ← h.nextIs_eq, hnumber, hname]
  refine .ite (fun hattribute => ?_) fun _ => ?_
  · exact stepUnlessPassed_read (h.tail hattribute.2 (ne_of_isMark hq rfl)) _ _ _
  refine .ite (fun _ => ((lineComment_fenced hf h).push c).read _ _) fun _ => ?_
  refine .ite (fun hblock => ?_) fun _ => ?_
  · rw [hblock.1]
    exact stepBlockComment_fenced hq h context hblock.2
  refine .ite (fun _ => ((sameCut_span h hnames).push c).read _ _) fun _ => ?_
  refine .ite (fun _ => ((throughQuote_fenced hq c h).push c).read _ _) fun _ => ?_
  refine .ite (fun _ => stepUnlessPassed_punctuation h c .shell) fun _ => ?_
  refine .ite (fun _ => stepNumber_fenced hq (.cons c h)) fun _ => ?_
  refine .ite (fun _ => stepName_fenced hq (.cons c h) context) fun _ => ?_
  exact .ite (fun _ => stepUnlessPassed_read h _ _ _) fun _ => stepOperator_fenced hf h context c

lemma stepCode_fenced (hf : IsFence q x y) (h : Fenced q x y cs ds) (context : Context)
    (c : Char) :
    StepUnlessPassed q x y (stepCode context c cs) (stepCode context c ds) ∨
      isQuote q = true ∧ (OpensLabel q x (c :: cs) ∨ ClosesLabel q x (c :: cs)) := by
  have hq := hf.isMark
  rcases heredocOpener?_fenced hf (.cons c h) with hopener | hlabel
  · refine .inl ?_
    rw [stepCode, stepCode, ← h.head?_eq]
    refine .ite (fun hclose => ?_) fun _ => ?_
    · have hbehind := h.tail hclose.2 (ne_of_isMark hq rfl)
      exact ((closeTagEnd_fenced hq hbehind).prepend [c, '>']).read _ _
    refine .ite (fun _ => ?_) fun _ => ?_
    · exact (sameCut_span (.cons c h) (isSpace_of_isMark hq)).read _ _
    generalize heredocOpener? (c :: cs) = o, heredocOpener? (c :: ds) = o' at hopener
    cases hopener with
    | none => exact stepToken_fenced hf h context c
    | @some o o' same =>
      obtain ⟨hlabel, hcut⟩ := same
      dsimp only
      rw [hlabel]
      exact hcut.read _ _
  · exact .inr hlabel

lemma stepShell_fenced (hq : isMark q = true) (h : Fenced q x y cs ds) (c : Char) :
    StepUnlessPassed q x y (stepShell c cs) (stepShell c ds) := by
  rw [stepShell, stepShell]
  exact .ite (fun _ => stepUnlessPassed_punctuation h c _)
    fun _ => (shellCommand_fenced hq (.cons c h)).read _ _

/-- The body of a heredoc is empty only before its label. -/
lemma isPrefixOf_of_text_heredocBody {label : List Char} (c : Char) (cs : List Char)
    (h : (heredocBody label true (c :: cs)).text = []) : label.isPrefixOf (c :: cs) = true := by
  rw [heredocBody, Bool.true_and] at h
  split at h
  · next hcloses =>
    have hblank : ¬isBlank c = true := by
      intro hc
      rw [Cut.span, List.takeWhile_cons_of_pos hc] at h
      cases h
    rw [closesHeredoc, List.dropWhile_cons_of_neg hblank] at hcloses
    exact (Bool.and_eq_true_iff.1 hcloses).1
  · cases h

lemma stepHeredoc_fenced {label : List Char} (hq : isMark q = true) (hlabel : q ∉ label)
    (h : Fenced q x y cs ds) (c : Char) :
    StepUnlessPassed q x y (stepHeredoc label c cs) (stepHeredoc label c ds) := by
  have hbody := heredocBody_fenced hq hlabel (.cons c h) true
  rw [stepHeredoc, stepHeredoc]
  by_cases hpassed : x.length < (heredocBody label true (c :: cs)).rest.length
  · rw [← (hbody hpassed).text]
    refine .ite (fun hempty => ?_) fun _ => hbody.read _ _
    have hstarts := isPrefixOf_of_text_heredocBody c cs hempty
    cases label with
    | nil => exact stepUnlessPassed_read h _ _ _
    | cons a label =>
      -- the label stands in front of the fence
      obtain ⟨rest, hrest⟩ := List.isPrefixOf_iff_prefix.1 hstarts
      obtain ⟨rfl, rfl⟩ := List.cons.inj hrest
      rcases h.take_drop label.length with ⟨hmem, -⟩ | ⟨htake, hdrop⟩
      · rw [List.append_eq, List.take_left] at hmem
        exact absurd (List.mem_cons_of_mem a hmem) hlabel
      · rw [List.length_cons, Nat.add_sub_cancel, htake]
        exact stepUnlessPassed_read hdrop _ _ _
  · have hne : (heredocBody label true (c :: cs)).text ≠ [] := by
      intro hempty
      have hwhole := whole_heredocBody label true (c :: cs)
      rw [Cut.whole, hempty, List.nil_append] at hwhole
      rw [hwhole] at hpassed
      exact hpassed (Nat.lt_succ_of_lt h.length_lt)
    intro hlt
    rw [if_neg hne] at hlt
    exact absurd hlt hpassed

/-- The label of the heredoc that a mode is in does not have the character. -/
def LabelFree (q : Char) (mode : Mode) : Prop := ∀ label, mode = .heredoc label → q ∉ label

/-- A step sees nothing behind the fence unless the fence is in its token, or is a quote at the
label of a heredoc. -/
lemma step_fenced {mode : Mode} (hf : IsFence q x y) (hmode : LabelFree q mode)
    (h : Fenced q x y cs ds) (c : Char) :
    StepUnlessPassed q x y (step mode c cs) (step mode c ds) ∨
      (∃ context, mode = .code context) ∧ isQuote q = true ∧
        (OpensLabel q x (c :: cs) ∨ ClosesLabel q x (c :: cs)) := by
  cases mode with
  | markup => exact .inl (stepMarkup_fenced hf (.cons c h))
  | code context =>
    exact (stepCode_fenced hf h context c).imp_right fun hlabel => ⟨⟨context, rfl⟩, hlabel⟩
  | shell => exact .inl (stepShell_fenced hf.isMark h c)
  | heredoc label => exact .inl (stepHeredoc_fenced hf.isMark (hmode label rfl) h c)
  | data => exact .inl fun hlt => absurd hlt (Nat.not_lt_zero _)

end Steps

/-! ### Modes along a run -/

section Modes

variable {q c : Char} {cs label : List Char}

/-- The label of a heredoc is a word. -/
lemma isNameChar_of_mem_label {k : Cut} (h : heredocOpener? cs = some (label, k)) :
    ∀ a ∈ label, isNameChar a = true := by
  by_cases hangles : ['<', '<', '<'].isPrefixOf cs = true
  · obtain ⟨cs, rfl⟩ := List.isPrefixOf_iff_prefix.1 hangles
    change heredocOpener? ('<' :: '<' :: '<' :: cs) = some (label, k) at h
    rw [heredocOpener?_angles, labelLine?] at h
    split at h
    · obtain ⟨lineEnd, -, heq⟩ := Option.map_eq_some_iff.1 h
      rw [← (Prod.mk.inj heq).1]
      exact fun a ha => List.mem_takeWhile_imp ha
    · cases h
  · rw [heredocOpener?_of_not_isPrefixOf hangles] at h
    cases h

/-- A heredoc is entered only by its opening line. -/
lemma exists_opener_of_mode {mode : Mode} (hmode : ∀ label, mode ≠ .heredoc label)
    (h : (step mode c cs).mode = .heredoc label) :
    ∃ k, heredocOpener? (c :: cs) = some (label, k) ∧
      (step mode c cs).token = .named .startHeredoc (String.ofList k.text) := by
  cases mode with
  | markup =>
    rw [step, stepMarkup] at h
    split at h <;> cases h
  | code context =>
    rw [step] at h ⊢
    have hstep := codeStep_stepCode context c cs
    generalize stepCode context c cs = s at h hstep ⊢
    cases hstep with
    | heredoc opener =>
      cases h
      exact ⟨_, opener, rfl⟩
    | name =>
      change modeAfterName _ = _ at h
      unfold modeAfterName at h
      split at h <;> cases h
    | _ => cases h
  | shell =>
    rw [step, stepShell] at h
    split at h <;> cases h
  | heredoc label => exact absurd rfl (hmode label)
  | data => cases h

/-- Inside of a heredoc the label stays. -/
lemma label_of_mode {label' : List Char} (h : (step (.heredoc label) c cs).mode = .heredoc label') :
    label = label' := by
  rw [step, stepHeredoc] at h
  split at h
  · cases h
  · cases h
    rfl

/-- The label of a heredoc never has a character in it that no name has. -/
lemma labelFree_step {mode : Mode} (hq : isNameChar q = false) (hmode : LabelFree q mode) :
    LabelFree q (step mode c cs).mode := by
  intro label h
  by_cases hheredoc : ∃ label', mode = .heredoc label'
  · obtain ⟨label', rfl⟩ := hheredoc
    obtain rfl := label_of_mode h
    exact hmode _ rfl
  · obtain ⟨k, hopener, -⟩ := exists_opener_of_mode (not_exists.1 hheredoc) h
    intro hmem
    have hname := isNameChar_of_mem_label hopener q hmem
    rw [hq] at hname
    cases hname

end Modes

/-! ### Tokens of code -/

section Tokens

variable {mode : Mode} {context : Context} {category : Category} {c : Char} {cs : List Char}

/-- All but a few categories are read in code only. -/
lemma exists_code_of_isOf
    (hcategory : category ∉
      [Category.openTag, .openTagWithEcho, .inlineHtml, .encapsedAndWhitespace, .endHeredoc])
    (h : isOf category (step mode c cs).token = true) : ∃ context, mode = .code context := by
  have hno : ∀ {category' text}, isOf category (.named category' text) = true →
      category' ∉ [Category.openTag, .openTagWithEcho, .inlineHtml, .encapsedAndWhitespace,
        .endHeredoc] := by
    intro category' text heq
    rwa [beq_iff_eq.1 heq]
  cases mode with
  | code context => exact ⟨context, rfl⟩
  | markup =>
    rw [step, stepMarkup] at h
    split at h
    · next htag =>
      rcases category_of_openTag? htag with rfl | rfl <;> exact absurd (hno h) (by simp)
    · exact absurd (hno h) (by simp)
  | shell =>
    rw [step, stepShell] at h
    split at h
    · cases h
    · exact absurd (hno h) (by simp)
  | heredoc =>
    rw [step, stepHeredoc] at h
    split at h <;> exact absurd (hno h) (by simp)
  | data => exact absurd (hno h) (by simp)

/-- Of the tokens of code, strings start with a quote, and close tags with a question mark in front
of an angle bracket. -/
lemma first_of_isOf_stepCode (h : isOf category (stepCode context c cs).token = true) :
    (category = .constantEncapsedString → isQuote c = true) ∧
      (category = .closeTag → c = '?' ∧ cs.head? = some '>') := by
  have hstep := codeStep_stepCode context c cs
  generalize stepCode context c cs = s at h hstep
  have hothers : ∀ {category' text}, isOf category (.named category' text) = true →
      category' ≠ .constantEncapsedString ∧ category' ≠ .closeTag →
      (category = .constantEncapsedString → isQuote c = true) ∧
        (category = .closeTag → c = '?' ∧ cs.head? = some '>') := by
    intro category' text heq hne
    obtain rfl := beq_iff_eq.1 heq
    exact ⟨fun hstring => absurd hstring hne.1, fun htag => absurd htag hne.2⟩
  cases hstep with
  | closeTag first second =>
    refine ⟨?_, fun _ => ⟨first, second⟩⟩
    rintro rfl
    cases h
  | quoted first =>
    refine ⟨fun _ => isQuote_eq_true.2 first, ?_⟩
    rintro rfl
    cases h
  | name first =>
    have hall : ∀ category ∈ nameCategories,
        category ≠ .constantEncapsedString ∧ category ≠ .closeTag := by decide
    exact hothers h (hall _ (nameCategory_mem _ _ _))
  | operator found =>
    have hall : ∀ p ∈ operators, p.2 ≠ .constantEncapsedString ∧ p.2 ≠ .closeTag := by decide
    exact hothers h (hall _ (List.mem_of_find?_eq_some found))
  | number first =>
    have hall : ∀ isFloat : Bool,
        (if isFloat then Category.dnumber else .lnumber) ≠ .constantEncapsedString ∧
          (if isFloat then Category.dnumber else .lnumber) ≠ .closeTag := by decide
    exact hothers h (hall _)
  | blockComment first second =>
    refine hothers h ?_
    split <;> decide
  | shell => cases h
  | punctuation => cases h
  | _ => exact hothers h (by decide)

end Tokens

/-! ### Strings -/

/-- The characters can stand between two quotes: no quote among them closes the string, and no
backslash at the end escapes the closing quote. -/
def isContent (quote : Char) : List Char → Bool
  | [] => true
  | ['\\'] => false
  | '\\' :: _ :: cs => isContent quote cs
  | c :: cs => c != quote && isContent quote cs

section Strings

variable {q c : Char} {cs content tail : List Char}

lemma throughQuote_content (h : isContent q content = true) (hq : isQuote q = true) :
    throughQuote q (content ++ q :: tail) = ⟨content ++ [q], tail⟩ := by
  have hescape : '\\' ≠ q := ne_of_isMark (isMark_of_isQuote hq) rfl
  fun_induction isContent q content with
  | case1 =>
    rw [List.nil_append, throughQuote_cons hescape.symm, if_pos rfl]
    rfl
  | case2 => cases h
  | case3 c cs ih =>
    rw [List.cons_append, List.cons_append, throughQuote, ih h]
    rfl
  | case4 c cs hlast hpair ih =>
    obtain ⟨hne, hcs⟩ := Bool.and_eq_true_iff.1 h
    have hc : c ≠ '\\' := by
      rintro rfl
      cases cs with
      | nil => exact hlast rfl rfl
      | cons d cs => exact hpair d cs rfl rfl
    rw [List.cons_append, throughQuote_cons hc, if_neg (by simpa using hne), ih hcs]
    rfl

/-- A word can stand between two quotes. -/
lemma isContent_of_isNameChar (hq : isQuote q = true) (h : ∀ a ∈ cs, isNameChar a = true) :
    isContent q cs = true := by
  induction cs with
  | nil => rfl
  | cons c cs ih =>
    obtain ⟨hc, hcs⟩ := List.forall_mem_cons.1 h
    have hescape : c ≠ '\\' := by
      rintro rfl
      exact absurd hc (by decide)
    have hne : c ≠ q := by
      rintro rfl
      rw [isNameChar_of_isMark (isMark_of_isQuote hq)] at hc
      cases hc
    unfold isContent
    split
    · rfl
    · next heq => exact absurd (List.cons.inj heq).1 hescape
    · next heq => exact absurd (List.cons.inj heq).1 hescape
    · next heq =>
      obtain ⟨rfl, rfl⟩ := List.cons.inj heq
      simp [hne, ih hcs]

/-- At a quote in code a string is read. -/
lemma step_code_of_isQuote (hq : isQuote q = true) (context : Context) (cs : List Char) :
    step (.code context) q cs =
      .read .constantEncapsedString ((throughQuote q cs).push q) (.code .plain) := by
  have hangles : ¬['<', '<', '<'].isPrefixOf (q :: cs) = true := by
    rcases isQuote_eq_true.1 hq with rfl | rfl <;> simp [List.isPrefixOf]
  rw [step, stepCode, heredocOpener?_of_not_isPrefixOf hangles, stepToken]
  rcases isQuote_eq_true.1 hq with rfl | rfl <;> rfl

/-- The tokens from the opening quote on. -/
lemma tokensFrom_literal (hq : isQuote q = true) (h : isContent q content = true)
    (context : Context) (tail : List Char) :
    tokensFrom (.code context) (q :: (content ++ q :: tail)) =
      .named .constantEncapsedString (String.ofList (q :: (content ++ [q]))) ::
        tokensFrom (.code .plain) tail := by
  rw [tokensFrom_cons, step_code_of_isQuote hq, throughQuote_content h hq]
  rfl

end Strings

/-! ### Runs up to the quote -/

section Runs

variable {q c : Char} {x y cs ds : List Char} {mode mode' : Mode} {front : List RawToken}

/-- A run that leaves less than its source starts with a step. -/
lemma Reads.exists_next {rest : List Char} (h : Reads mode (c :: cs) front mode' rest)
    (hlt : rest.length ≤ cs.length) :
    ∃ front', Reads (Lexer.step mode c cs).mode (Lexer.step mode c cs).rest front' mode' rest := by
  cases h with
  | stay => exact absurd hlt (Nat.not_succ_le_self _)
  | step next => exact ⟨_, next⟩

/-- Three angle brackets that open no heredoc start with an operator. -/
lemma step_code_angles {context : Context}
    (hopener : heredocOpener? ('<' :: '<' :: '<' :: cs) = none) :
    step (.code context) '<' ('<' :: '<' :: cs) =
      .read .sl ⟨['<', '<'], '<' :: cs⟩ (.code .plain) := by
  rw [step, stepCode, hopener]
  rfl

/-- An angle bracket before a blank or a quote stands alone. -/
lemma step_code_angle {context : Context} (hc : isBlank c = true ∨ isQuote c = true) :
    step (.code context) '<' (c :: cs) = .punctuation '<' (c :: cs) (.code .plain) := by
  rw [isQuote_eq_true, isBlank, Bool.or_eq_true, beq_iff_eq, beq_iff_eq] at hc
  rcases hc with (rfl | rfl) | rfl | rfl <;> rfl

/-- Blanks are read as one token. -/
lemma Reads.exists_behind_blanks {blanks rest : List Char} {context : Context}
    (hq : isQuote q = true) (hblanks : ∀ a ∈ blanks, isBlank a = true)
    (h : Reads (.code context) (blanks ++ q :: cs) front mode' rest)
    (hlt : rest.length ≤ cs.length) :
    ∃ front', Reads (.code context) (q :: cs) front' mode' rest := by
  cases blanks with
  | nil => exact ⟨front, h⟩
  | cons b blanks =>
    have hspaces : ∀ a ∈ b :: blanks, isSpace a = true := by
      intro a ha
      rw [isSpace, hblanks a ha]
      rfl
    obtain ⟨front', hnext⟩ := h.exists_next (by simp; omega)
    rw [Lexer.step, stepCode_of_isSpace context _ (hspaces b List.mem_cons_self)] at hnext
    have hrest : (b :: (blanks ++ q :: cs)).dropWhile isSpace = q :: cs := by
      rw [← List.cons_append, List.dropWhile_append_of_pos hspaces,
        List.dropWhile_cons_of_neg (by simp [isSpace_of_isMark (isMark_of_isQuote hq)])]
    change Reads _ ((b :: (blanks ++ q :: cs)).dropWhile isSpace) _ _ _ at hnext
    rw [hrest] at hnext
    exact ⟨front', hnext⟩

/-- An opening line whose label the quote closes goes beyond the quote. -/
lemma length_rest_of_closesLabel {blanks label l : List Char} {k : Cut} (hq : isQuote q = true)
    (hblanks : ∀ a ∈ blanks, isBlank a = true) (hlabel : ∀ a ∈ label, isNameChar a = true)
    (h : heredocOpener? ('<' :: '<' :: '<' :: (blanks ++ q :: (label ++ q :: x))) = some (l, k)) :
    k.rest.length ≤ x.length := by
  have hblank : ¬isBlank q = true := by simp [isBlank_of_isMark (isMark_of_isQuote hq)]
  have hname : ¬isNameChar q = true := by simp [isNameChar_of_isMark (isMark_of_isQuote hq)]
  have hspan : (Cut.span isBlank (blanks ++ q :: (label ++ q :: x))).rest =
      q :: (label ++ q :: x) := by
    rw [Cut.span, List.dropWhile_append_of_pos hblanks, List.dropWhile_cons_of_neg hblank]
  have hrest : (label ++ q :: x).dropWhile isNameChar = q :: x := by
    rw [List.dropWhile_append_of_pos hlabel, List.dropWhile_cons_of_neg hname]
  rw [heredocOpener?_angles, hspan, labelQuote_cons, if_pos hq, labelLine?,
    List.length_singleton, List.drop_succ_cons, List.drop_zero, hrest] at h
  split at h
  · obtain ⟨lineEnd, hline, heq⟩ := Option.map_eq_some_iff.1 h
    obtain ⟨-, rfl⟩ := Prod.mk.inj heq
    have hwhole := congrArg List.length (whole_of_lineBreak? hline)
    rw [Cut.whole, List.length_append] at hwhole
    exact Nat.le_of_add_left_le hwhole.le
  · cases h

/-- No run comes to the quote that closes the label of a heredoc: either the opening line is read as
one token, or the label and its quotes are read as a string. -/
lemma not_reads_of_closesLabel {context : Context} (hq : isQuote q = true)
    (hcloses : ClosesLabel q x cs) : ¬Reads (.code context) cs front mode' (q :: x) := by
  obtain ⟨blanks, label, hblanks, hlabel, rfl⟩ := hcloses
  intro hreads
  obtain ⟨front₁, hreads⟩ := hreads.exists_next (by simp; omega)
  cases hopener : heredocOpener? ('<' :: '<' :: '<' :: (blanks ++ q :: (label ++ q :: x))) with
  | some opener =>
    obtain ⟨l, k⟩ := opener
    have hle := length_rest_of_closesLabel hq hblanks hlabel hopener
    rw [step, stepCode, hopener] at hreads
    have hrest := hreads.length_rest_le
    change (q :: x).length ≤ k.rest.length at hrest
    rw [List.length_cons] at hrest
    omega
  | none =>
    rw [step_code_angles hopener] at hreads
    change Reads (.code .plain) ('<' :: (blanks ++ q :: (label ++ q :: x))) _ _ _ at hreads
    obtain ⟨front₂, hreads⟩ := hreads.exists_next (by simp; omega)
    obtain ⟨front₃, hreads⟩ :
        ∃ front, Reads (.code .plain) (blanks ++ q :: (label ++ q :: x)) front mode' (q :: x) := by
      cases blanks with
      | nil =>
        rw [List.nil_append, step_code_angle (.inr hq)] at hreads
        exact ⟨_, hreads⟩
      | cons b blanks =>
        rw [List.cons_append, step_code_angle (.inl (hblanks b List.mem_cons_self))] at hreads
        exact ⟨_, hreads⟩
    obtain ⟨front₄, hreads⟩ := hreads.exists_behind_blanks hq hblanks (by simp)
    obtain ⟨front₅, hreads⟩ := hreads.exists_next (by simp)
    rw [step_code_of_isQuote hq, throughQuote_content (isContent_of_isNameChar hq hlabel) hq]
      at hreads
    exact absurd hreads.length_rest_le (Nat.not_succ_le_self _)

/-- Sources that agree up to a fence are read in the same way up to it, unless the fence is a quote
behind three angle brackets. -/
lemma Reads.fenced (hf : IsFence q x y) (h : Reads mode cs front mode' (q :: x))
    (hmode : LabelFree q mode) (hfenced : Fenced q x y cs ds)
    (hplain : isQuote q = true → ∀ before after, cs = before ++ after → ¬OpensLabel q x after) :
    Reads mode ds front mode' (q :: y) := by
  generalize hrest : q :: x = rest at h
  induction h generalizing ds with
  | stay mode cs =>
    subst hrest
    rw [hfenced.eq_of_fence]
    exact .stay mode (q :: y)
  | @step mode mode' c cs rest front next ih =>
    subst hrest
    -- the run comes to the fence later, so that the token of this step does not have it
    have hlt : x.length < (Lexer.step mode c cs).rest.length := next.length_rest_le
    obtain ⟨ds, rfl, hbehind⟩ : ∃ ds', ds = c :: ds' ∧ Fenced q x y cs ds' := by
      cases hfenced with
      | fence => exact absurd hlt (Nat.not_lt.2 (step_rest_length_le mode q x))
      | cons _ rest => exact ⟨_, rfl, rest⟩
    rcases step_fenced hf hmode hbehind c with hsame | ⟨⟨context, rfl⟩, hq, hopens | hcloses⟩
    · obtain ⟨htoken, hmode', hrest⟩ := hsame hlt
      have hnext : Reads (Lexer.step mode c cs).mode (Lexer.step mode c ds).rest front mode'
          (q :: y) := by
        have hname := isNameChar_of_isMark hf.isMark
        refine ih (labelFree_step hname hmode) hrest (fun hq before after heq => ?_) rfl
        refine hplain hq ((Lexer.step mode c cs).token.text.toList ++ before) after ?_
        rw [List.append_assoc, ← heq]
        exact (step_lossless mode c cs).1.symm
      rw [htoken]
      exact .step (hmode' ▸ hnext)
    · exact absurd hopens (hplain hq [] (c :: cs) rfl)
    · exact absurd (.step next) (not_reads_of_closesLabel hq hcloses)

end Runs

end PhpOutline.Lexer
