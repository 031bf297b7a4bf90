import Mathlib.Data.List.Forall2
import PhpOutline.Proofs.Lexer.FencedRun
import PhpOutline.Proofs.Lexer.Heredoc
import PhpOutline.Proofs.Lexer.LetterCase
import PhpOutline.Proofs.Lexer.Lossless

/-!
# Words may be written in any case

The letters of the words and names of a source may change their case (`Recased`).  The new source
has the new words where the old one had the old ones, under the same categories, and all other
tokens are the same (`tokenize_recased`).

The two sources have the same small letters, so that outside of heredocs steps in the same mode read
tokens of the same category and length (`step_recased`).  The label that closes a heredoc is
compared letter by letter.  But neither the opening line nor the body nor the label is a word, so
that all of them are still there (`heredocBody_exchange`), and what follows the label is a matter of
classes of characters again.
-/

namespace PhpOutline.Lexer

open Text (lower)

/-- The second token is the first one, or the same word or name in other letters. -/
inductive Recased : RawToken → RawToken → Prop
  | same (t : RawToken) : Recased t t
  | name {category : Category} {text text' : String} (isName : category ∈ nameCategories)
      (alike : Text.eqIgnoringCase text text' = true) :
      Recased (.named category text) (.named category text')

/-- The characters of some tokens. -/
def spell (ts : List RawToken) : List Char := ts.flatMap fun t => t.text.toList

variable {mode : Mode} {label cs cs' rest' : List Char} {c c' : Char} {t t' : RawToken}
  {ts ts' : List RawToken} {category : Category} {text : String}

lemma spell_cons (t : RawToken) (ts : List RawToken) :
    spell (t :: ts) = t.text.toList ++ spell ts := List.flatMap_cons

/-! ### Tokens in other letters -/

lemma toList_text_lowerToken (t : RawToken) :
    (lowerToken t).text.toList = lower t.text.toList := by
  cases t with
  | punctuation c => simp [lowerToken, RawToken.text, Char.toString]
  | named category text => simp [lowerToken, RawToken.text]

lemma Recased.lowerToken_eq (h : Recased t t') : lowerToken t = lowerToken t' := by
  cases h with
  | same => rfl
  | name _ alike => rw [lowerToken, lowerToken, beq_iff_eq.1 alike]

lemma Recased.lower_text_eq (h : Recased t t') : lower t.text.toList = lower t'.text.toList := by
  rw [← toList_text_lowerToken, h.lowerToken_eq, toList_text_lowerToken]

/-- Other tokens than words and names are the same. -/
lemma Recased.eq_of_not_mem (h : Recased (.named category text) t')
    (hcategory : category ∉ nameCategories) : t' = .named category text := by
  cases h with
  | same => rfl
  | name isName => exact absurd isName hcategory

lemma lower_spell_eq (h : List.Forall₂ Recased ts ts') : lower (spell ts) = lower (spell ts') := by
  induction h with
  | nil => rfl
  | cons first _ ih =>
    rw [spell_cons, spell_cons, lower_append, lower_append, first.lower_text_eq, ih]

lemma lower_spell_of_tokensFrom (h : List.Forall₂ Recased (tokensFrom mode cs) ts') :
    lower (spell ts') = lower cs := by
  rw [← lower_spell_eq h, spell, flatMap_text_tokensFrom]

/-- Tokens with the same small letters and the same text are the same. -/
lemma eq_of_lowerToken_eq (h : lowerToken t = lowerToken t')
    (htext : t.text.toList = t'.text.toList) : t = t' := by
  have htext' := String.toList_injective htext
  cases t with
  | punctuation c =>
    cases t' with
    | punctuation c' =>
      have hchar : [c] = [c'] := by simpa [RawToken.text, Char.toString] using htext
      rw [(List.cons.inj hchar).1]
    | named => cases h
  | named category text =>
    cases t' with
    | punctuation => cases h
    | named category' text' =>
      rw [RawToken.text, RawToken.text] at htext'
      rw [htext', (RawToken.named.inj h).1]

/-! ### Steps outside of heredocs -/

/-- The mode has a label that a heredoc can have, if it has one. -/
def Labelled (mode : Mode) : Prop :=
  ∀ label, mode = .heredoc label → nextIs isNameStart label = true ∧ '\n' ∉ label

lemma labelled_step (hmode : Labelled mode) (c : Char) (cs : List Char) :
    Labelled (step mode c cs).mode := by
  intro label h
  by_cases hheredoc : ∃ label', mode = .heredoc label'
  · obtain ⟨label', rfl⟩ := hheredoc
    obtain rfl := label_of_mode h
    exact hmode _ rfl
  · obtain ⟨k, hopener, -⟩ := exists_opener_of_mode (not_exists.1 hheredoc) h
    obtain ⟨heredoc, rfl, -⟩ := exists_heredoc_of_opener hopener
    exact ⟨heredoc.label_start, heredoc.newline_notMem_label⟩

/-- Opening lines with the same text have the same label. -/
lemma label_eq_of_text_eq {k k' : Cut} {label' : List Char}
    (h : heredocOpener? cs = some (label, k)) (h' : heredocOpener? cs' = some (label', k'))
    (htext : k.text = k'.text) : label = label' := by
  obtain ⟨heredoc, rfl, hopener⟩ := exists_heredoc_of_opener h
  have hread := heredoc.heredocOpener?_opener k'.rest
  rw [hopener, htext] at hread
  have hwhole : k'.text ++ k'.rest = cs' := whole_of_heredocOpener? h'
  rw [hwhole, h'] at hread
  exact (Prod.mk.inj (Option.some.inj hread)).1.symm

lemma eq_of_lower_eq {mode' : Mode} (h : mode.lower = mode'.lower)
    (hmode : ∀ label, mode ≠ .heredoc label) : mode = mode' := by
  cases mode with
  | heredoc label => exact absurd rfl (hmode label)
  | _ =>
    cases mode'
    all_goals cases h
    all_goals rfl

lemma lower_eq_heredoc (h : mode.lower = .heredoc label) :
    ∃ label', mode = .heredoc label' := by
  cases mode with
  | heredoc label' => exact ⟨label', rfl⟩
  | _ => cases h

/-- Steps that read the same token, up to the letters of words, come to the same mode.  A label is
read off the opening line of its heredoc, which is no word. -/
lemma mode_eq_of_recased (hmode : ∀ label, mode ≠ .heredoc label)
    (ht : Recased (step mode c cs).token (step mode c' cs').token)
    (hlower : (step mode c' cs').mode.lower = (step mode c cs).mode.lower) :
    (step mode c' cs').mode = (step mode c cs).mode := by
  by_cases hheredoc : ∃ label, (step mode c cs).mode = .heredoc label
  · obtain ⟨label, hlabel⟩ := hheredoc
    rw [hlabel] at hlower
    obtain ⟨label', hlabel'⟩ := lower_eq_heredoc hlower
    obtain ⟨k, hopener, hstart⟩ := exists_opener_of_mode hmode hlabel
    obtain ⟨k', hopener', hstart'⟩ := exists_opener_of_mode hmode hlabel'
    rw [hstart] at ht
    have heq := ht.eq_of_not_mem (by decide)
    rw [hstart'] at heq
    have htexts : k'.text = k.text := by
      have hlist := congrArg String.toList (RawToken.named.inj heq).2
      rwa [String.toList_ofList, String.toList_ofList] at hlist
    rw [hlabel, hlabel', label_eq_of_text_eq hopener' hopener htexts]
  · exact (eq_of_lower_eq hlower.symm fun label hlabel => hheredoc ⟨label, hlabel⟩).symm

/-- Outside of heredocs, a step reads the word in other letters and comes to the same mode. -/
lemma step_recased (hmode : ∀ label, mode ≠ .heredoc label)
    (ht : Recased (step mode c cs).token t') (hrest : lower rest' = lower (step mode c cs).rest) :
    ∃ c' cs', t'.text.toList ++ rest' = c' :: cs' ∧
      step mode c' cs' = ⟨t', (step mode c cs).mode, rest'⟩ := by
  obtain ⟨hwhole, hadvances⟩ := step_lossless mode c cs
  -- the two sources have the same small letters
  have hlower : lower (t'.text.toList ++ rest') = lower (c :: cs) := by
    rw [← hwhole, Step.whole, lower_append, lower_append, ht.lower_text_eq, hrest]
  obtain ⟨c', cs', hsource⟩ : ∃ c' cs', t'.text.toList ++ rest' = c' :: cs' := by
    apply List.exists_cons_of_ne_nil
    intro hnil
    rw [hnil] at hlower
    cases hlower
  refine ⟨c', cs', hsource, ?_⟩
  rw [hsource, lower_cons, lower_cons] at hlower
  obtain ⟨hc, hcs⟩ := List.cons.inj hlower
  have hstep : (step mode c' cs').lower = (step mode c cs).lower := by
    rw [← step_lower hmode, ← step_lower hmode, hc, hcs]
  -- so that the tokens end at the same place
  have htoken : lowerToken (step mode c' cs').token = lowerToken t' :=
    (congrArg Step.token hstep).trans ht.lowerToken_eq
  have hlength : (step mode c' cs').token.text.toList.length = t'.text.toList.length := by
    rw [← length_lower, ← toList_text_lowerToken, htoken, toList_text_lowerToken, length_lower]
  have hwhole' : (step mode c' cs').token.text.toList ++ (step mode c' cs').rest =
      t'.text.toList ++ rest' := (step_lossless mode c' cs').1.trans hsource.symm
  obtain ⟨htext, hrest'⟩ := List.append_inj hwhole' hlength
  have ht' := eq_of_lowerToken_eq htoken htext
  rw [← ht'] at ht
  rw [← mode_eq_of_recased hmode ht (congrArg Step.mode hstep), ← ht', ← hrest']

/-! ### Heredocs -/

/-- Where the search for the closing line ends, there is the label and no longer word. -/
lemma exists_label_of_rest {lineStarts : Bool} (h : (heredocBody label lineStarts cs).rest ≠ []) :
    ∃ tail, (heredocBody label lineStarts cs).rest = label ++ tail ∧
      nextIs isNameChar tail = false := by
  induction cs generalizing lineStarts with
  | nil => exact absurd rfl h
  | cons c cs ih =>
    rw [heredocBody] at h ⊢
    split
    · next hcloses =>
      obtain ⟨hstarts, hends⟩ := Bool.and_eq_true_iff.1 (Bool.and_eq_true_iff.1 hcloses).2
      obtain ⟨tail, htail⟩ := List.isPrefixOf_iff_prefix.1 hstarts
      refine ⟨tail, htail.symm, ?_⟩
      rw [← htail, List.drop_left] at hends
      simpa using hends
    · next hopen =>
      rw [if_neg hopen] at h
      exact ih h

/-- A search that does not end at once ends behind a line break. -/
lemma newline_mem_text_heredocBody {lineStarts : Bool}
    (h : (heredocBody label lineStarts cs).rest ≠ [])
    (hopen : ¬(lineStarts && closesHeredoc label cs) = true) :
    '\n' ∈ (heredocBody label lineStarts cs).text := by
  induction cs generalizing lineStarts with
  | nil => exact absurd rfl h
  | cons c cs ih =>
    rw [heredocBody, if_neg hopen] at h ⊢
    rw [Cut.text_push, List.mem_cons]
    by_cases hc : c = '\n'
    · exact .inl hc.symm
    · have hinside : (c == '\n') = false := beq_eq_false_iff_ne.2 hc
      rw [hinside] at h ⊢
      exact .inr (ih h (by simp))

lemma startsWithLabel_append {line : List Char} (h : StartsWithLabel label line)
    (more : List Char) : StartsWithLabel label (line ++ '\n' :: more) := by
  obtain ⟨blanks, tail, hblanks, rfl, htail⟩ := h
  refine ⟨blanks, tail ++ '\n' :: more, hblanks, by simp, ?_⟩
  cases tail with
  | nil => rfl
  | cons d tail => exact htail

/-- If the label is still there behind the body, the search for it ends in the same place.  The
induction is on the source: a line that does not start with the label ends before the body does, so
that what follows the body does not matter to it. -/
lemma heredocBody_exchange {lineStarts : Bool} {tail : List Char}
    (hlabel : nextIs isNameStart label = true) (hbreak : '\n' ∉ label)
    (htail : nextIs isNameChar tail = false)
    (h : (heredocBody label lineStarts cs).rest ≠ []) :
    heredocBody label lineStarts ((heredocBody label lineStarts cs).text ++ (label ++ tail)) =
      ⟨(heredocBody label lineStarts cs).text, label ++ tail⟩ := by
  induction cs generalizing lineStarts with
  | nil => exact absurd rfl h
  | cons c cs ih =>
    by_cases hcloses : (lineStarts && closesHeredoc label (c :: cs)) = true
    · have hhere : heredocBody label lineStarts (c :: cs) = Cut.span isBlank (c :: cs) := by
        rw [heredocBody, if_pos hcloses]
      rw [hhere, (Bool.and_eq_true_iff.1 hcloses).1]
      exact heredocBody_closing hlabel (fun d hd => List.mem_takeWhile_imp hd) htail
    · have hnewline := newline_mem_text_heredocBody h hcloses
      have hwhole := whole_heredocBody label lineStarts (c :: cs)
      have hlater : heredocBody label lineStarts (c :: cs) =
          (heredocBody label (c == '\n') cs).push c := by
        rw [heredocBody, if_neg hcloses]
      rw [hlater] at h hnewline hwhole ⊢
      have hopen : ¬(lineStarts && closesHeredoc label
          (((heredocBody label (c == '\n') cs).push c).text ++ (label ++ tail))) = true := by
        obtain ⟨line, more, hline, -⟩ := List.eq_append_cons_of_mem hnewline
        rw [Cut.whole, hline, List.append_assoc, List.cons_append] at hwhole
        rw [hline, List.append_assoc, List.cons_append, Bool.and_eq_true, closesHeredoc_iff hlabel]
        rintro ⟨hstarts, hclosing⟩
        have hcloses' := (closesHeredoc_iff hlabel).2
          (startsWithLabel_append (startsWithLabel_of_append hbreak hclosing)
            (more ++ (heredocBody label (c == '\n') cs).rest))
        change line ++ '\n' :: (more ++ (heredocBody label (c == '\n') cs).rest) = c :: cs at hwhole
        rw [hwhole] at hcloses'
        exact hcloses (Bool.and_eq_true_iff.2 ⟨hstarts, hcloses'⟩)
      rw [Cut.text_push, List.cons_append] at hopen ⊢
      rw [heredocBody, if_neg hopen, ih h]
      rfl

/-- In front of the label that closes a heredoc, the next of the tokens in other letters is this
label too. -/
lemma exists_label_token {tail : List Char} (hlabel : nextIs isNameStart label = true)
    (htail : nextIs isNameChar tail = false)
    (h : List.Forall₂ Recased (tokensFrom (.heredoc label) (label ++ tail)) ts') :
    ∃ tail', spell ts' = label ++ tail' ∧ nextIs isNameChar tail' = false := by
  rw [(reads_label hlabel htail).tokensFrom_eq, List.singleton_append] at h
  obtain ⟨t', ts', ht', hts', rfl⟩ := List.forall₂_cons_left_iff.1 h
  obtain rfl := ht'.eq_of_not_mem (by decide)
  refine ⟨spell ts', ?_, ?_⟩
  · rw [spell_cons, RawToken.text, String.toList_ofList]
  · rw [← nextIs_lower caseBlind_isNameChar, lower_spell_of_tokensFrom hts',
      nextIs_lower caseBlind_isNameChar, htail]

/-- At the label that closes a heredoc, a step reads the label again. -/
lemma step_label_recased {tail : List Char} (hlabel : nextIs isNameStart label = true)
    (htail : nextIs isNameChar tail = false) (hsource : label ++ tail = c :: cs)
    (ht' : Recased (step (.heredoc label) c cs).token t')
    (hrest' : lower rest' = lower (step (.heredoc label) c cs).rest) :
    ∃ c' cs', t'.text.toList ++ rest' = c' :: cs' ∧
      step (.heredoc label) c' cs' = ⟨t', (step (.heredoc label) c cs).mode, rest'⟩ := by
  obtain ⟨d, ds, hsource', hstep⟩ := step_label hlabel htail
  obtain ⟨rfl, rfl⟩ := List.cons.inj (hsource.symm.trans hsource')
  rw [hstep] at ht' hrest' ⊢
  have htail' : nextIs isNameChar rest' = false := by
    rw [← nextIs_lower caseBlind_isNameChar, hrest', nextIs_lower caseBlind_isNameChar]
    exact htail
  obtain ⟨c', cs', hcs', hstep'⟩ := step_label hlabel htail'
  obtain rfl := ht'.eq_of_not_mem (by decide)
  exact ⟨c', cs', by rw [← hcs', RawToken.text, String.toList_ofList], hstep'⟩

/-- The content of a heredoc is found again in front of the tokens in other letters. -/
lemma heredocBody_recased (hlabel : nextIs isNameStart label = true) (hbreak : '\n' ∉ label)
    (hts' : List.Forall₂ Recased
      (tokensFrom (.heredoc label) (heredocBody label true cs).rest) ts') :
    heredocBody label true ((heredocBody label true cs).text ++ spell ts') =
      ⟨(heredocBody label true cs).text, spell ts'⟩ := by
  by_cases hnil : (heredocBody label true cs).rest = []
  · -- the heredoc is not closed, and the content is all of the source
    have hwhole := whole_heredocBody label true cs
    rw [hnil, tokensFrom_nil, List.forall₂_nil_left_iff] at hts'
    rw [Cut.whole, hnil] at hwhole
    rw [hts', spell, List.flatMap_nil, hwhole, ← hnil]
  · obtain ⟨tail, hrest, htail⟩ := exists_label_of_rest hnil
    rw [hrest] at hts'
    obtain ⟨tail', hspell, htail'⟩ := exists_label_token hlabel htail hts'
    rw [hspell]
    exact heredocBody_exchange hlabel hbreak htail' hnil

/-- Inside of a heredoc, a step reads what it read before. -/
lemma stepHeredoc_recased (hlabel : nextIs isNameStart label = true) (hbreak : '\n' ∉ label)
    (ht' : Recased (step (.heredoc label) c cs).token t')
    (hts' : List.Forall₂ Recased
      (tokensFrom (step (.heredoc label) c cs).mode (step (.heredoc label) c cs).rest) ts') :
    ∃ c' cs', t'.text.toList ++ spell ts' = c' :: cs' ∧
      step (.heredoc label) c' cs' = ⟨t', (step (.heredoc label) c cs).mode, spell ts'⟩ := by
  have hwhole := whole_heredocBody label true (c :: cs)
  by_cases hcontent : (heredocBody label true (c :: cs)).text = []
  · -- the closing label is all that is left of the heredoc
    have hrest : (heredocBody label true (c :: cs)).rest = c :: cs := by
      rwa [Cut.whole, hcontent, List.nil_append] at hwhole
    have hne : (heredocBody label true (c :: cs)).rest ≠ [] := by
      rw [hrest]
      exact List.cons_ne_nil c cs
    obtain ⟨tail, hlabelled, htail⟩ := exists_label_of_rest hne
    exact step_label_recased hlabel htail (hlabelled.symm.trans hrest) ht'
      (lower_spell_of_tokensFrom hts')
  · rw [step_content hcontent] at ht' hts' ⊢
    obtain rfl := ht'.eq_of_not_mem (by decide)
    have hbody : heredocBody label true
        ((heredocBody label true (c :: cs)).text ++ spell ts') =
          ⟨(heredocBody label true (c :: cs)).text, spell ts'⟩ :=
      heredocBody_recased hlabel hbreak hts'
    obtain ⟨c', cs', hcs'⟩ : ∃ c' cs',
        (heredocBody label true (c :: cs)).text ++ spell ts' = c' :: cs' := by
      apply List.exists_cons_of_ne_nil
      simp [hcontent]
    refine ⟨c', cs', by rw [← hcs', RawToken.text, String.toList_ofList], ?_⟩
    rw [hcs'] at hbody
    rw [step_content (by rw [hbody]; exact hcontent), hbody]
    rfl

/-! ### Runs -/

/-- The tokens in other letters are read from their own characters. -/
lemma tokensFrom_recased (hmode : Labelled mode)
    (h : List.Forall₂ Recased (tokensFrom mode cs) ts') : tokensFrom mode (spell ts') = ts' := by
  induction mode, cs using tokensFrom.induct generalizing ts' with
  | case1 mode =>
    rw [tokensFrom_nil, List.forall₂_nil_left_iff] at h
    subst h
    exact tokensFrom_nil mode
  | case2 mode c cs ih =>
    rw [tokensFrom_cons] at h
    obtain ⟨t', ts', ht', hts', rfl⟩ := List.forall₂_cons_left_iff.1 h
    obtain ⟨c', cs', hsource, hstep⟩ : ∃ c' cs', t'.text.toList ++ spell ts' = c' :: cs' ∧
        step mode c' cs' = ⟨t', (step mode c cs).mode, spell ts'⟩ := by
      by_cases hheredoc : ∃ label, mode = .heredoc label
      · obtain ⟨label, rfl⟩ := hheredoc
        obtain ⟨hlabel, hbreak⟩ := hmode label rfl
        exact stepHeredoc_recased hlabel hbreak ht' hts'
      · exact step_recased (not_exists.1 hheredoc) ht' (lower_spell_of_tokensFrom hts')
    rw [spell_cons, hsource, tokensFrom_cons, hstep]
    dsimp only
    rw [ih (labelled_step hmode c cs) hts']

/-- **Words may be written in any case.**  If the letters in the words and names of a source change
their case, the new source has the new words in place of the old ones, under the same categories,
and the same tokens otherwise. -/
theorem tokenize_recased {source : String} {tokens : List RawToken}
    (h : List.Forall₂ Recased (tokenize source) tokens) :
    tokenize (RawToken.concat tokens) = tokens := by
  have hmode : Labelled .markup := by
    intro label hlabel
    cases hlabel
  rw [tokenize, toList_concat]
  exact tokensFrom_recased hmode h

/-- A word that declares by what follows it, a word that is reserved by what stands before it, and a
heredoc whose label is also a word. -/
theorem tokenize_recased_words :
    let rest : List RawToken :=
      [.punctuation ';', .named .startHeredoc "<<<A\n", .named .encapsedAndWhitespace "a\n",
        .named .endHeredoc "A"]
    let tokens : List RawToken :=
      [.named .openTag "<?php ", .named .kwEnum "enum", .named .whitespace " ",
        .named .identifier "A", .named .doubleColon "::", .named .kwClass "clasS"] ++ rest
    List.Forall₂ Recased (tokenize "<?php Enum a::CLASS;<<<A\na\nA") tokens ∧
      tokenize "<?php enum A::clasS;<<<A\na\nA" = tokens := by
  intro rest tokens
  have htokens : tokenize "<?php Enum a::CLASS;<<<A\na\nA" =
      [.named .openTag "<?php ", .named .kwEnum "Enum", .named .whitespace " ",
        .named .identifier "a", .named .doubleColon "::", .named .kwClass "CLASS"] ++ rest := by
    decide +kernel
  have hrecased : List.Forall₂ Recased (tokenize "<?php Enum a::CLASS;<<<A\na\nA") tokens := by
    rw [htokens]
    exact .cons (.same _) (.cons (.name (by decide) (by decide)) (.cons (.same _)
      (.cons (.name (by decide) (by decide)) (.cons (.same _)
        (.cons (.name (by decide) (by decide)) (List.forall₂_same.2 fun t _ => .same t))))))
  have hsource : RawToken.concat tokens = "<?php enum A::clasS;<<<A\na\nA" := by decide +kernel
  exact ⟨hrecased, hsource ▸ tokenize_recased hrecased⟩

end PhpOutline.Lexer
