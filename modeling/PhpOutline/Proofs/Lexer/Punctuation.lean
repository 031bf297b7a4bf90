import Mathlib.Data.List.Basic
import PhpOutline.Proofs.Layout.Stream
import PhpOutline.Proofs.Lexer.Lossless
import PhpOutline.Proofs.Token.Prepare

/-!
# Characters that the grammar does not have

The lexer never fails: a character that none of its rules takes becomes a punctuation token
(`standsAlone`), and only the preparation of the stream looks it up in the table of the grammar.
The two agree on every character but the control characters of ASCII.  A character beyond ASCII
belongs to a name, and every printable one that is left over by the rules is in the table
(`isSome_ofPunctuation?`).

So a source fails exactly at the first control character that the lexer meets outside of comments,
literals and markup (`prepare_tokenize_error_iff`).
-/

namespace PhpOutline.Lexer

/-- The control characters of ASCII. -/
def isControl (c : Char) : Bool := decide (c.toNat < 0x20) || c.toNat == 0x7f

/-- A character that none of the lexer's rules for white space, names, numbers, comments, strings
and separators starts with, whatever follows it. -/
def standsAlone (c : Char) : Bool :=
  !isSpace c && !isNameChar c && !(['#', '\'', '"', '\\'].contains c)

/-! ### The table of the grammar -/

lemma lt_of_standsAlone {c : Char} (h : standsAlone c = true) : c.toNat < 0x80 := by
  simp only [standsAlone, isNameChar, isNameStart, Bool.and_eq_true, Bool.not_eq_true',
    Bool.or_eq_false_iff, decide_eq_false_iff_not, not_le] at h
  exact h.1.2.1.2

/-- Of the characters that stand alone, the grammar has all but the control characters. -/
lemma isSome_ofPunctuation? {c : Char} (h : standsAlone c = true) :
    (Kind.ofPunctuation? c).isSome = !isControl c := by
  have htable : ∀ n < 0x80, standsAlone (Char.ofNat n) = true →
      (Kind.ofPunctuation? (Char.ofNat n)).isSome = !isControl (Char.ofNat n) := by
    decide +kernel
  have hc := htable c.toNat (lt_of_standsAlone h)
  rw [Char.ofNat_toNat] at hc
  exact hc h

/-! ### What the lexer leaves over -/

variable {mode : Mode} {context : Context} {c d : Char} {cs : List Char}

/-- A character that becomes a token of its own in code is one that no rule takes. -/
lemma standsAlone_of_stepToken (hspace : isSpace c = false)
    (h : (stepToken context c cs).token = .punctuation d) : d = c ∧ standsAlone c = true := by
  unfold stepToken at h
  split at h
  · cases h
  split at h
  · cases h
  next hcomment =>
  split at h
  · cases h
  split at h
  · cases h
  split at h
  · cases h
  next hquote =>
  split at h
  · next hshell =>
    cases h
    subst hshell
    exact ⟨rfl, by decide⟩
  split at h
  · cases h
  next hnumber =>
  split at h
  · cases h
  next hname =>
  split at h
  · cases h
  next hseparator =>
  have hd : d = c := by
    unfold stepOperator at h
    split at h
    · cases h
    · cases h
      rfl
  refine ⟨hd, ?_⟩
  simp only [startsNumber, startsName, Bool.or_eq_true, not_or, Bool.not_eq_true] at hnumber hname
  simp only [not_or] at hcomment hquote
  simp [standsAlone, isNameChar, hspace, hnumber.1, hname.1, hcomment.1, hquote, hseparator]

/-- A character that becomes a token of its own is one that no rule takes. -/
lemma standsAlone_of_step (h : (step mode c cs).token = .punctuation d) :
    d = c ∧ standsAlone c = true := by
  cases mode with
  | markup =>
    simp only [step, stepMarkup] at h
    split at h <;> cases h
  | code context =>
    simp only [step, stepCode] at h
    split at h
    · cases h
    split at h
    · cases h
    next hspace =>
    split at h
    · cases h
    · exact standsAlone_of_stepToken (by simpa using hspace) h
  | shell =>
    simp only [step, stepShell] at h
    split at h
    · next hshell =>
      cases h
      subst hshell
      exact ⟨rfl, by decide⟩
    · cases h
  | heredoc label =>
    simp only [step, stepHeredoc] at h
    split at h <;> cases h
  | data => cases h

/-- The punctuation tokens of a source are characters that no rule takes. -/
lemma standsAlone_of_mem_tokensFrom (h : .punctuation c ∈ tokensFrom mode cs) :
    standsAlone c = true := by
  fun_induction tokensFrom mode cs with
  | case1 => cases h
  | case2 mode c' cs ih =>
    rcases List.mem_cons.1 h with hfirst | hrest
    · obtain ⟨rfl, halone⟩ := standsAlone_of_step hfirst.symm
      exact halone
    · exact ih hrest

/-- A punctuation token of a source is a character of the source. -/
lemma mem_of_mem_tokenize {source : String} (h : .punctuation c ∈ tokenize source) :
    c ∈ source.toList := by
  rw [← flatMap_text_tokensFrom .markup source.toList, List.mem_flatMap]
  exact ⟨.punctuation c, h, by simp [RawToken.text, Char.toString]⟩

/-- A token of a source has a kind unless it is a control character. -/
lemma isSome_kind?_iff {source : String} {r : RawToken} (h : r ∈ tokenize source) :
    r.kind?.isSome = true ↔ ∀ c, r = .punctuation c → isControl c = false := by
  cases r with
  | named category text => simp [RawToken.kind?]
  | punctuation c =>
    simp [RawToken.kind?, isSome_ofPunctuation? (standsAlone_of_mem_tokensFrom h)]

/-! ### Sources that fail -/

variable {source : String}

/-- A source can be prepared if no control character stands alone in it. -/
lemma exists_prepare_tokenize_iff :
    (∃ tokens, Token.prepare (tokenize source) = .ok tokens) ↔
      ∀ c, .punctuation c ∈ tokenize source → isControl c = false := by
  constructor
  · rintro ⟨tokens, htokens⟩ c hc
    exact (isSome_kind?_iff hc).1 ((spells_of_prepareFrom htokens).isSome_kind? hc) c rfl
  · intro hplain
    have hknown : ∀ r ∈ tokenize source, r.kind?.isSome = true := by
      intro r hr
      refine (isSome_kind?_iff hr).2 ?_
      rintro c rfl
      exact hplain c hr
    obtain ⟨tokens, htokens, -⟩ := Token.exists_prepareFrom (tokenize source) hknown 0 1
    exact ⟨tokens, htokens⟩

/-- A source fails at the first control character that stands alone in it. -/
lemma prepare_tokenize_eq_error {e : UnknownPunctuation} :
    Token.prepare (tokenize source) = .error e ↔
      ∃ front back, tokenize source = front ++ .punctuation e.char :: back ∧
        (∀ c, .punctuation c ∈ front → isControl c = false) ∧ isControl e.char = true ∧
        e.index = front.length ∧
        e.line = 1 + Text.newlines (RawToken.concat front).toList := by
  rw [Token.prepare, Token.prepareFrom_eq_error]
  refine exists_congr fun front => exists_congr fun back => and_congr_right fun hsplit => ?_
  have hfront : ∀ r ∈ front, r ∈ tokenize source := by
    intro r hr
    rw [hsplit]
    exact List.mem_append_left _ hr
  have hchar : .punctuation e.char ∈ tokenize source := by
    rw [hsplit]
    exact List.mem_append_right _ List.mem_cons_self
  have hknown : (∀ r ∈ front, r.kind?.isSome = true) ↔
      ∀ c, .punctuation c ∈ front → isControl c = false := by
    constructor
    · intro h c hc
      exact (isSome_kind?_iff (hfront _ hc)).1 (h _ hc) c rfl
    · intro h r hr
      refine (isSome_kind?_iff (hfront r hr)).2 ?_
      rintro c rfl
      exact h c hr
  have hunknown : Kind.ofPunctuation? e.char = none ↔ isControl e.char = true := by
    rw [← Option.not_isSome_iff_eq_none,
      isSome_ofPunctuation? (standsAlone_of_mem_tokensFrom hchar)]
    simp
  rw [hknown, hunknown, Nat.zero_add]

/-- **The lexer and the grammar agree on the characters.**  The punctuation tokens of a source are
ASCII characters and neither tabs nor line breaks.  The source can be prepared unless one of them is
a control character, and then the error names the first of these, by the place of its token and the
line that the source leads to in front of it.  Control characters in comments, literals and markup
do no harm, and neither does any character beyond ASCII. -/
theorem prepare_tokenize_error_iff (source : String) :
    (∀ c, .punctuation c ∈ tokenize source → c.toNat < 0x80 ∧ c ∉ ['\t', '\n', '\r']) ∧
    ((∃ e, Token.prepare (tokenize source) = .error e) ↔
      ∃ c, .punctuation c ∈ tokenize source ∧ isControl c = true) ∧
    ((∀ c ∈ source.toList, isControl c = true → c ∈ ['\t', '\n', '\r']) →
      ∃ tokens, Token.prepare (tokenize source) = .ok tokens) ∧
    ∀ e, Token.prepare (tokenize source) = .error e ↔
      ∃ front back, tokenize source = front ++ .punctuation e.char :: back ∧
        (∀ c, .punctuation c ∈ front → isControl c = false) ∧ isControl e.char = true ∧
        e.index = front.length ∧
        RawToken.concat front ++ e.char.toString ++ RawToken.concat back = source ∧
        e.line = 1 + Text.newlines (RawToken.concat front).toList := by
  have halone : ∀ c, .punctuation c ∈ tokenize source →
      c.toNat < 0x80 ∧ c ∉ ['\t', '\n', '\r'] := by
    intro c hc
    have hc := standsAlone_of_mem_tokensFrom hc
    refine ⟨lt_of_standsAlone hc, fun hmem => ?_⟩
    have hspace : standsAlone c = false := by
      rw [List.mem_cons, List.mem_cons, List.mem_singleton] at hmem
      rcases hmem with rfl | rfl | rfl <;> decide
    rw [hspace] at hc
    cases hc
  refine ⟨halone, ?_, ?_, fun e => ?_⟩
  · constructor
    · rintro ⟨e, he⟩
      obtain ⟨front, back, hsplit, -, hcontrol, -⟩ := prepare_tokenize_eq_error.1 he
      exact ⟨e.char, by simp [hsplit], hcontrol⟩
    · rintro ⟨c, hc, hcontrol⟩
      cases hprepare : Token.prepare (tokenize source) with
      | error e => exact ⟨e, rfl⟩
      | ok tokens =>
        have hplain := exists_prepare_tokenize_iff.1 ⟨tokens, hprepare⟩ c hc
        rw [hcontrol] at hplain
        cases hplain
  · intro hsource
    refine exists_prepare_tokenize_iff.2 fun c hc => ?_
    by_contra hcontrol
    exact (halone c hc).2 (hsource c (mem_of_mem_tokenize hc) (by simpa using hcontrol))
  · rw [prepare_tokenize_eq_error]
    refine exists_congr fun front => exists_congr fun back => and_congr_right fun hsplit => ?_
    have hsource := concat_split hsplit
    tauto

/-- Tabs, line breaks and text beyond ASCII can stand anywhere. -/
theorem prepare_text_beyond_ascii :
    ∃ tokens, Token.prepare (tokenize "é\r\n<?php\t/*\t✓*/ $ü = 'ß'; function 名() {}") =
      .ok tokens := by
  have hspaces {cs : List Char}
      (h : (cs.all fun c => !isControl c || ['\t', '\n', '\r'].contains c) = true) :
      ∀ c ∈ cs, isControl c = true → c ∈ ['\t', '\n', '\r'] := by
    intro c hc hcontrol
    simpa [hcontrol] using List.all_eq_true.1 h c hc
  exact (prepare_tokenize_error_iff _).2.2.1 (hspaces (by decide +kernel))

-- The vertical tab in the comment is passed over, the one in code is reported.
example : Token.prepare (tokenize "é\n<?php /*\x0b*/\n$ü = \x0b1;") = .error ⟨'\x0b', 8, 3⟩ := by
  decide +kernel

end PhpOutline.Lexer
