import PhpOutline.Proofs.Lexer.FencedReaders
import PhpOutline.Proofs.Lexer.WordContext

/-!
# Heredocs are read as they were written

A heredoc is written as an opening line with a label, a body of whole lines and a closing line that
starts with the label, perhaps indented (`Heredoc`).  No line of the body may look like the closing
one: starting, after blanks, with the label and no longer word (`StartsWithLabel`).

Whatever the body holds otherwise, the lexer reads the opening line as one token, the body with the
indentation as another one, unless both are empty, and the label as the last (`reads_heredoc`).  The
search for the closing line goes line by line: a line that does not start with the label is passed
over up to its end (`heredocBody_line`).  Behind the label the lexer is where it would be behind any
other literal (`tokenize_heredoc`).
-/

namespace PhpOutline.Lexer

variable {p : Char → Bool} {front back label line more body rest : List Char}

/-- A cut behind the longest front part whose characters satisfy a condition, found where the first
other character stands. -/
lemma span_append (hfront : ∀ c ∈ front, p c = true) (hback : nextIs p back = false) :
    Cut.span p (front ++ back) = ⟨front, back⟩ := by
  rw [Cut.span, List.takeWhile_append_of_pos hfront, List.dropWhile_append_of_pos hfront]
  cases back with
  | nil => rw [List.takeWhile_nil, List.dropWhile_nil, List.append_nil]
  | cons c cs =>
    have hc : ¬p c = true := by simpa [nextIs] using hback
    rw [List.takeWhile_cons_of_neg hc, List.dropWhile_cons_of_neg hc, List.append_nil]

/-- A run whose first step is known. -/
lemma reads_of_step {mode mode' : Mode} {c : Char} {cs rest : List Char} {ts : List RawToken}
    {s : Step} (hstep : step mode c cs = s) (next : Reads s.mode s.rest ts mode' rest) :
    Reads mode (c :: cs) (s.token :: ts) mode' rest := by
  subst hstep
  exact .step next

/-! ### Lines that start with the label -/

/-- The line starts, after blanks, with the label and no longer word. -/
def StartsWithLabel (label line : List Char) : Prop :=
  ∃ blanks tail, (∀ c ∈ blanks, isBlank c = true) ∧ line = blanks ++ (label ++ tail) ∧
    nextIs isNameChar tail = false

lemma exists_eq_cons_of_nextIs (h : nextIs p front = true) : ∃ c cs, front = c :: cs := by
  cases front with
  | nil => cases h
  | cons c cs => exact ⟨c, cs, rfl⟩

/-- A name does not start with a blank. -/
lemma nextIs_isBlank_of_isNameStart (h : nextIs isNameStart label = true) (tail : List Char) :
    nextIs isBlank (label ++ tail) = false := by
  cases label with
  | nil => cases h
  | cons c cs =>
    have hc : isNameStart c = true := by simpa [nextIs] using h
    rw [List.cons_append, nextIs, List.head?_cons, Option.any_some, Bool.eq_false_iff]
    intro hblank
    have hspace : isSpace c = true := by simp [isSpace, hblank]
    rw [isNameStart_of_isSpace hspace] at hc
    cases hc

/-- A line closes a heredoc if it starts with the label. -/
lemma closesHeredoc_iff (hlabel : nextIs isNameStart label = true) :
    closesHeredoc label line = true ↔ StartsWithLabel label line := by
  constructor
  · intro h
    obtain ⟨hstarts, hends⟩ := Bool.and_eq_true_iff.1 h
    obtain ⟨tail, htail⟩ := List.isPrefixOf_iff_prefix.1 hstarts
    refine ⟨line.takeWhile isBlank, tail, ?_, ?_, ?_⟩
    · intro c hc
      exact List.mem_takeWhile_imp hc
    · rw [htail, List.takeWhile_append_dropWhile]
    · rw [← htail, List.drop_left] at hends
      simpa using hends
  · rintro ⟨blanks, tail, hblanks, rfl, htail⟩
    have hspan := span_append hblanks (nextIs_isBlank_of_isNameStart hlabel tail)
    have hdrop : (blanks ++ (label ++ tail)).dropWhile isBlank = label ++ tail :=
      congrArg Cut.rest hspan
    have hprefix : label.isPrefixOf (label ++ tail) = true :=
      List.isPrefixOf_iff_prefix.2 (List.prefix_append label tail)
    rw [closesHeredoc, hdrop, hprefix, List.drop_left, htail]
    rfl

lemma not_startsWithLabel_nil (hlabel : nextIs isNameStart label = true) :
    ¬StartsWithLabel label [] := by
  rintro ⟨blanks, tail, -, hline, -⟩
  obtain ⟨c, cs, rfl⟩ := exists_eq_cons_of_nextIs hlabel
  simp at hline

/-- Whether a line starts with the label does not depend on what follows the line. -/
lemma startsWithLabel_of_append (hlabel : '\n' ∉ label)
    (h : StartsWithLabel label (line ++ '\n' :: more)) : StartsWithLabel label line := by
  obtain ⟨blanks, tail, hblanks, hsplit, htail⟩ := h
  have hblank : '\n' ∉ blanks := by
    intro hmem
    exact absurd (hblanks _ hmem) (by decide)
  rw [← List.append_assoc] at hsplit
  rcases List.append_eq_append_iff.1 hsplit with ⟨excess, hfront, hexcess⟩ | ⟨inner, rfl, rfl⟩
  · -- the blanks and the label have no line break, so that they end with the line
    cases excess with
    | nil => exact ⟨blanks, [], hblanks, by simpa using hfront.symm, rfl⟩
    | cons c excess =>
      obtain ⟨rfl, -⟩ := List.cons.inj hexcess
      have hmem : '\n' ∈ blanks ++ label := by
        rw [hfront]
        exact List.mem_append_right _ List.mem_cons_self
      exact absurd hmem (by simp [hblank, hlabel])
  · refine ⟨blanks, inner, hblanks, List.append_assoc _ _ _, ?_⟩
    cases inner with
    | nil => rfl
    | cons c inner => exact htail

/-! ### The search for the closing line -/

/-- Inside a line the search goes on to the end of the line. -/
lemma heredocBody_inside (hline : '\n' ∉ line) :
    heredocBody label false (line ++ '\n' :: more) =
      (heredocBody label true more).prepend (line ++ ['\n']) := by
  induction line with
  | nil => rfl
  | cons c line ih =>
    obtain ⟨hc, hrest⟩ := List.ne_and_not_mem_of_not_mem_cons hline
    have hinside : (c == '\n') = false := beq_eq_false_iff_ne.2 hc.symm
    rw [List.cons_append, heredocBody, if_neg (by simp), hinside, ih hrest]
    rfl

/-- A line that does not close the heredoc is passed over. -/
lemma heredocBody_open_line (hline : '\n' ∉ line)
    (hopen : ¬closesHeredoc label (line ++ '\n' :: more) = true) :
    heredocBody label true (line ++ '\n' :: more) =
      (heredocBody label true more).prepend (line ++ ['\n']) := by
  have hcloses : ¬(true && closesHeredoc label (line ++ '\n' :: more)) = true := by
    rwa [Bool.true_and]
  cases line with
  | nil =>
    rw [List.nil_append] at hcloses ⊢
    rw [heredocBody, if_neg hcloses]
    rfl
  | cons c line =>
    obtain ⟨hc, hrest⟩ := List.ne_and_not_mem_of_not_mem_cons hline
    have hinside : (c == '\n') = false := beq_eq_false_iff_ne.2 hc.symm
    rw [List.cons_append] at hcloses ⊢
    rw [heredocBody, if_neg hcloses, hinside, heredocBody_inside hrest]
    rfl

/-- A line that does not start with the label is passed over. -/
lemma heredocBody_line (hlabel : nextIs isNameStart label = true) (hbreak : '\n' ∉ label)
    (hline : '\n' ∉ line) (hstarts : ¬StartsWithLabel label line) :
    heredocBody label true (line ++ '\n' :: more) =
      (heredocBody label true more).prepend (line ++ ['\n']) := by
  apply heredocBody_open_line hline
  rw [closesHeredoc_iff hlabel]
  intro hclosing
  exact hstarts (startsWithLabel_of_append hbreak hclosing)

/-- A body of whole lines none of which starts with the label is passed over. -/
lemma heredocBody_lines (hlabel : nextIs isNameStart label = true) (hbreak : '\n' ∉ label)
    (hwhole : body = [] ∨ ['\n'] <:+ body)
    (hlines : ∀ line ∈ body.splitOn '\n', ¬StartsWithLabel label line) :
    heredocBody label true (body ++ more) = (heredocBody label true more).prepend body := by
  induction hn : body.length using Nat.strong_induction_on generalizing body with
  | _ n ih =>
    subst hn
    rcases hwhole with rfl | hends
    · rfl
    · obtain ⟨line, others, rfl, hline⟩ := List.eq_append_cons_of_mem
        (hends.subset (List.mem_singleton_self '\n'))
      have hsplit : (line ++ '\n' :: others).splitOn '\n' = line :: others.splitOn '\n' := by
        rw [List.splitOn_eq_splitOnP, List.splitOn_eq_splitOnP]
        apply List.splitOnP_append_cons_of_forall_mem _ _ (by decide)
        intro c hc
        rw [beq_eq_false_iff_ne]
        rintro rfl
        exact hline hc
      rw [hsplit] at hlines
      obtain ⟨hfirst, hothers⟩ := List.forall_mem_cons.1 hlines
      have hwhole' : others = [] ∨ ['\n'] <:+ others := by
        rcases List.eq_nil_or_concat others with rfl | ⟨init, c, rfl⟩
        · exact .inl rfl
        · right
          apply List.suffix_of_suffix_length_le hends
          · exact (List.suffix_cons _ _).trans (List.suffix_append _ _)
          · simp
      have hshorter : others.length < (line ++ '\n' :: others).length := by
        rw [List.length_append, List.length_cons]
        omega
      rw [List.append_assoc, List.cons_append, heredocBody_line hlabel hbreak hline hfirst,
        ih _ hshorter hwhole' hothers rfl]
      simp [Cut.prepend]

/-- A closing line is cut before its label. -/
lemma heredocBody_closing (hlabel : nextIs isNameStart label = true) {indent : List Char}
    (hindent : ∀ c ∈ indent, isBlank c = true) (hrest : nextIs isNameChar rest = false) :
    heredocBody label true (indent ++ (label ++ rest)) = ⟨indent, label ++ rest⟩ := by
  have hcloses : closesHeredoc label (indent ++ (label ++ rest)) = true :=
    (closesHeredoc_iff hlabel).2 ⟨indent, rest, hindent, rfl, hrest⟩
  have hspan := span_append hindent (nextIs_isBlank_of_isNameStart hlabel rest)
  obtain ⟨c, cs, hline⟩ : ∃ c cs, indent ++ (label ++ rest) = c :: cs := by
    apply List.exists_cons_of_ne_nil
    obtain ⟨c, cs, rfl⟩ := exists_eq_cons_of_nextIs hlabel
    simp
  rw [hline] at hcloses hspan ⊢
  rw [heredocBody, hcloses, Bool.true_and, if_pos rfl, hspan]

/-- At the closing label a step reads the label. -/
lemma step_label (hlabel : nextIs isNameStart label = true)
    (hrest : nextIs isNameChar rest = false) :
    ∃ c cs, label ++ rest = c :: cs ∧
      step (.heredoc label) c cs = .read .endHeredoc ⟨label, rest⟩ (.code .plain) := by
  have hbody : heredocBody label true (label ++ rest) = ⟨[], label ++ rest⟩ :=
    heredocBody_closing hlabel (List.forall_mem_nil _) hrest
  obtain ⟨c, cs, rfl⟩ := exists_eq_cons_of_nextIs hlabel
  rw [List.cons_append] at hbody ⊢
  refine ⟨c, cs ++ rest, rfl, ?_⟩
  rw [step, stepHeredoc, hbody, if_pos rfl]
  simp

/-- In front of the closing label a step reads the content. -/
lemma step_content {c : Char} {cs : List Char}
    (hcontent : (heredocBody label true (c :: cs)).text ≠ []) :
    step (.heredoc label) c cs =
      .read .encapsedAndWhitespace (heredocBody label true (c :: cs)) (.heredoc label) := by
  rw [step, stepHeredoc, if_neg hcontent]

lemma reads_label (hlabel : nextIs isNameStart label = true)
    (hrest : nextIs isNameChar rest = false) :
    Reads (.heredoc label) (label ++ rest) [.named .endHeredoc (String.ofList label)]
      (.code .plain) rest := by
  obtain ⟨c, cs, hsource, hstep⟩ := step_label hlabel hrest
  rw [hsource]
  exact reads_of_step hstep (.stay _ _)

/-! ### Heredocs -/

/-- A heredoc as it is written.  The lines of the body are those between its line breaks. -/
structure Heredoc where
  blanks : List Char
  quote : List Char
  label : List Char
  lineBreak : List Char
  body : List Char
  indent : List Char
  isBlank_blanks : ∀ c ∈ blanks, isBlank c = true
  quote_cases : quote = [] ∨ quote = ['\''] ∨ quote = ['"']
  label_start : nextIs isNameStart label = true
  label_chars : ∀ c ∈ label, isNameChar c = true
  lineBreak_cases : lineBreak = ['\n'] ∨ lineBreak = ['\r', '\n']
  body_whole : body = [] ∨ ['\n'] <:+ body
  body_lines : ∀ line ∈ body.splitOn '\n', ¬StartsWithLabel label line
  isBlank_indent : ∀ c ∈ indent, isBlank c = true

namespace Heredoc

/-- The opening line. -/
def opener (h : Heredoc) : List Char :=
  ['<', '<', '<'] ++ (h.blanks ++ (h.quote ++ (h.label ++ (h.quote ++ h.lineBreak))))

/-- What stands between the opening line and the label. -/
def content (h : Heredoc) : List Char := h.body ++ h.indent

/-- The whole text, up to the label that closes it. -/
def text (h : Heredoc) : List Char := h.opener ++ (h.content ++ h.label)

/-- The tokens of a heredoc. -/
def tokens (h : Heredoc) : List RawToken :=
  .named .startHeredoc (String.ofList h.opener) ::
    ((if h.content = [] then [] else [.named .encapsedAndWhitespace (String.ofList h.content)]) ++
      [.named .endHeredoc (String.ofList h.label)])

variable (h : Heredoc)

lemma newline_notMem_label : '\n' ∉ h.label := by
  intro hmem
  exact absurd (h.label_chars _ hmem) (by decide)

/-- Behind the label of an opening line there is no character of a name. -/
lemma nextIs_isNameChar_lineEnd (rest : List Char) :
    nextIs isNameChar (h.quote ++ (h.lineBreak ++ rest)) = false := by
  rcases h.quote_cases with hquote | hquote | hquote <;>
    rcases h.lineBreak_cases with hbreak | hbreak <;> rw [hquote, hbreak] <;> rfl

lemma lineBreak?_lineBreak (rest : List Char) :
    lineBreak? (h.lineBreak ++ rest) = some ⟨h.lineBreak, rest⟩ := by
  rcases h.lineBreak_cases with hbreak | hbreak <;> rw [hbreak] <;> rfl

/-- The quote before the label is found, or that there is none. -/
lemma labelQuote_quote (rest : List Char) :
    labelQuote (h.quote ++ (h.label ++ rest)) = h.quote := by
  rcases h.quote_cases with hquote | hquote | hquote
  · obtain ⟨c, cs, hlabel⟩ := exists_eq_cons_of_nextIs h.label_start
    have hc : isNameStart c = true := by simpa [hlabel, nextIs] using h.label_start
    rw [hquote, List.nil_append, hlabel, List.cons_append, labelQuote_cons, if_neg]
    intro hquoted
    rcases isQuote_eq_true.1 hquoted with rfl | rfl <;> exact absurd hc (by decide)
  · rw [hquote]
    rfl
  · rw [hquote]
    rfl

lemma nextIs_isBlank_quote (rest : List Char) :
    nextIs isBlank (h.quote ++ (h.label ++ rest)) = false := by
  rcases h.quote_cases with hquote | hquote | hquote
  · rw [hquote]
    exact nextIs_isBlank_of_isNameStart h.label_start rest
  · rw [hquote]
    rfl
  · rw [hquote]
    rfl

/-- The opening line is recognized. -/
lemma heredocOpener?_opener (rest : List Char) :
    heredocOpener? (h.opener ++ rest) = some (h.label, ⟨h.opener, rest⟩) := by
  have hsource : h.opener ++ rest = '<' :: '<' :: '<' ::
      (h.blanks ++ (h.quote ++ (h.label ++ (h.quote ++ (h.lineBreak ++ rest))))) := by
    simp [opener]
  have hblanks := span_append h.isBlank_blanks
    (h.nextIs_isBlank_quote (h.quote ++ (h.lineBreak ++ rest)))
  have hlabel := span_append h.label_chars (h.nextIs_isNameChar_lineEnd rest)
  have hprefix : h.quote.isPrefixOf (h.quote ++ (h.lineBreak ++ rest)) = true :=
    List.isPrefixOf_iff_prefix.2 (List.prefix_append _ _)
  rw [Cut.span, Cut.mk.injEq] at hlabel
  rw [hsource, heredocOpener?_angles, hblanks]
  dsimp only
  rw [h.labelQuote_quote, List.drop_left, labelLine?, hlabel.1, hlabel.2, h.label_start,
    hprefix, Bool.true_and, if_pos rfl, List.drop_left, h.lineBreak?_lineBreak]
  simp [Cut.prepend, opener]

/-- The closing line is found behind the body. -/
lemma heredocBody_content (hrest : nextIs isNameChar rest = false) :
    heredocBody h.label true (h.content ++ (h.label ++ rest)) = ⟨h.content, h.label ++ rest⟩ := by
  rw [content, List.append_assoc, heredocBody_lines h.label_start h.newline_notMem_label
    h.body_whole h.body_lines, heredocBody_closing h.label_start h.isBlank_indent hrest]
  rfl

/-- Behind the opening line, the content is read if there is any, and then the label. -/
lemma reads_content (hrest : nextIs isNameChar rest = false) :
    Reads (.heredoc h.label) (h.content ++ (h.label ++ rest))
      ((if h.content = [] then [] else [.named .encapsedAndWhitespace (String.ofList h.content)]) ++
        [.named .endHeredoc (String.ofList h.label)]) (.code .plain) rest := by
  have hbody := h.heredocBody_content hrest
  cases hcontent : h.content with
  | nil => exact reads_label h.label_start hrest
  | cons c cs =>
    rw [hcontent, List.cons_append] at hbody
    have hstep : step (.heredoc h.label) c (cs ++ (h.label ++ rest)) =
        .read .encapsedAndWhitespace ⟨c :: cs, h.label ++ rest⟩ (.heredoc h.label) := by
      rw [step_content (by simp [hbody]), hbody]
    rw [if_neg (List.cons_ne_nil c cs)]
    exact reads_of_step hstep (reads_label h.label_start hrest)

/-- A heredoc in code is read as its tokens. -/
lemma reads_heredoc (context : Context) (hrest : nextIs isNameChar rest = false) :
    Reads (.code context) (h.text ++ rest) h.tokens (.code .plain) rest := by
  have hsource : h.text ++ rest = h.opener ++ (h.content ++ (h.label ++ rest)) := by simp [text]
  have hopener := h.heredocOpener?_opener (h.content ++ (h.label ++ rest))
  obtain ⟨cs, hcs⟩ : ∃ cs, h.opener = '<' :: cs := ⟨_, rfl⟩
  have hstep : step (.code context) '<' (cs ++ (h.content ++ (h.label ++ rest))) =
      .read .startHeredoc ⟨h.opener, h.content ++ (h.label ++ rest)⟩ (.heredoc h.label) := by
    have hnoTag : ¬('<' = '?' ∧ (cs ++ (h.content ++ (h.label ++ rest))).head? = some '>') := by
      rintro ⟨hfirst, -⟩
      exact absurd hfirst (by decide)
    rw [step, stepCode, if_neg hnoTag, if_neg (by decide), ← List.cons_append, ← hcs, hopener]
  rw [hsource, hcs, List.cons_append]
  exact reads_of_step hstep (h.reads_content hrest)

end Heredoc

lemma text_of_lineBreak? {cs : List Char} {k : Cut} (h : lineBreak? cs = some k) :
    k.text = ['\n'] ∨ k.text = ['\r', '\n'] := by
  unfold lineBreak? at h
  split at h <;> cases h
  · exact .inl rfl
  · exact .inr rfl

/-- An opening line that is recognized is that of a heredoc, one with an empty body at least. -/
lemma exists_heredoc_of_opener {cs : List Char} {k : Cut}
    (h : heredocOpener? cs = some (label, k)) :
    ∃ heredoc : Heredoc, heredoc.label = label ∧ heredoc.opener = k.text := by
  by_cases hangles : ['<', '<', '<'].isPrefixOf cs = true
  · obtain ⟨cs, rfl⟩ := List.isPrefixOf_iff_prefix.1 hangles
    change heredocOpener? ('<' :: '<' :: '<' :: cs) = some (label, k) at h
    rw [heredocOpener?_angles, labelLine?] at h
    split at h
    · next hstarts =>
      obtain ⟨lineEnd, hlineEnd, heq⟩ := Option.map_eq_some_iff.1 h
      obtain ⟨rfl, rfl⟩ := Prod.mk.inj heq
      have hstart := (Bool.and_eq_true_iff.1 hstarts).1
      exact
        ⟨{ blanks := (Cut.span isBlank cs).text
           quote := labelQuote (Cut.span isBlank cs).rest
           label := _
           lineBreak := lineEnd.text
           body := []
           indent := []
           isBlank_blanks := fun c hc => List.mem_takeWhile_imp hc
           quote_cases := labelQuote_cases _
           label_start := hstart
           label_chars := fun c hc => List.mem_takeWhile_imp hc
           lineBreak_cases := text_of_lineBreak? hlineEnd
           body_whole := .inl rfl
           body_lines := List.forall_mem_singleton.2 (not_startsWithLabel_nil hstart)
           isBlank_indent := List.forall_mem_nil _ }, rfl, by simp [Heredoc.opener, Cut.prepend]⟩
    · cases h
  · rw [heredocOpener?_of_not_isPrefixOf hangles] at h
    cases h

/-- An open tag and the blank behind it lead into code. -/
lemma reads_openTag (cs : List Char) :
    Reads .markup ("<?php ".toList ++ cs) [.named .openTag "<?php "] (.code .plain) cs := by
  have hstep : step .markup '<' ("?php ".toList ++ cs) =
      .read .openTag ⟨"<?php ".toList, cs⟩ (.code .plain) := by
    rfl
  exact reads_of_step hstep (.stay _ _)

/-- An empty string leads on in code. -/
lemma reads_emptyString (context : Context) (cs : List Char) :
    Reads (.code context) ("''".toList ++ cs) [.named .constantEncapsedString "''"]
      (.code .plain) cs := by
  have hstep : step (.code context) '\'' ('\'' :: cs) =
      .read .constantEncapsedString ⟨"''".toList, cs⟩ (.code .plain) := by
    rfl
  exact reads_of_step hstep (.stay _ _)

/-- **Heredocs are read as they were written.**  A heredoc behind an open tag, with a text behind it
that does not go on with its label, is read as its opening line, its content, unless that is empty,
and its label.  The tokens behind it are those that stand behind an empty string in its place. -/
theorem tokenize_heredoc (h : Heredoc) (rest : String)
    (hrest : nextIs isNameChar rest.toList = false) :
    ∃ tail,
      tokenize ("<?php ''" ++ rest) =
        [.named .openTag "<?php ", .named .constantEncapsedString "''"] ++ tail ∧
      tokenize ("<?php " ++ String.ofList h.text ++ rest) =
        [.named .openTag "<?php "] ++ h.tokens ++ tail := by
  refine ⟨tokensFrom (.code .plain) rest.toList, ?_, ?_⟩
  · have hsource : ("<?php ''" ++ rest).toList =
        "<?php ".toList ++ ("''".toList ++ rest.toList) := by simp
    rw [tokenize, hsource, (reads_openTag _).tokensFrom_eq,
      (reads_emptyString .plain _).tokensFrom_eq]
    rfl
  · have hsource : ("<?php " ++ String.ofList h.text ++ rest).toList =
        "<?php ".toList ++ (h.text ++ rest.toList) := by simp
    rw [tokenize, hsource, (reads_openTag _).tokensFrom_eq,
      (h.reads_heredoc .plain hrest).tokensFrom_eq, List.append_assoc]

/-- A heredoc in quotes whose body has an empty line and a line with a longer word than its label,
which is not an ASCII word. -/
def quotedHeredoc : Heredoc where
  blanks := [' ', '\t']
  quote := ['\'']
  label := ['Ä', '1']
  lineBreak := ['\r', '\n']
  body := [' ', 'Ä', '1', '2', '\n', '\n']
  indent := ['\t']
  isBlank_blanks := by simp [isBlank]
  quote_cases := .inr (.inl rfl)
  label_start := by decide
  label_chars := List.all_eq_true.1 (by decide)
  lineBreak_cases := .inr rfl
  body_whole := .inr ⟨[' ', 'Ä', '1', '2', '\n'], rfl⟩
  body_lines := by
    have hsplit : [' ', 'Ä', '1', '2', '\n', '\n'].splitOn '\n' =
        [[' ', 'Ä', '1', '2'], [], []] := by decide
    rw [hsplit]
    intro line hline
    rw [← closesHeredoc_iff (by decide)]
    revert line
    decide
  isBlank_indent := by simp [isBlank]

theorem tokenize_quotedHeredoc :
    nextIs isNameChar ";".toList = false ∧
      tokenize "<?php <<< \t'Ä1'\r\n Ä12\n\n\tÄ1;" =
        [.named .openTag "<?php ", .named .startHeredoc "<<< \t'Ä1'\r\n",
          .named .encapsedAndWhitespace " Ä12\n\n\t", .named .endHeredoc "Ä1",
          .punctuation ';'] := by
  have hrest : nextIs isNameChar ";".toList = false := by decide
  obtain ⟨tail, hliteral, hheredoc⟩ := tokenize_heredoc quotedHeredoc ";" hrest
  have htail : tail = [.punctuation ';'] := by
    have hknown : tokenize ("<?php ''" ++ ";") =
        [.named .openTag "<?php ", .named .constantEncapsedString "''"] ++ [.punctuation ';'] := by
      decide +kernel
    rw [hknown] at hliteral
    exact (List.append_cancel_left hliteral).symm
  rw [htail] at hheredoc
  exact ⟨hrest, hheredoc⟩

end PhpOutline.Lexer
