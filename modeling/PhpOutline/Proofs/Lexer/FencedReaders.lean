import Mathlib.Data.List.Basic
import Mathlib.Data.List.TakeWhile
import PhpOutline.Proofs.Lexer.Fence

/-!
# Readers and the fence

No reader of a lexeme sees what stands behind a fence unless the fence is part of its lexeme.  Most
lexemes end at a quote or a close tag at the latest; only comments, strings, shell commands and the
bodies of heredocs can have one inside.  Most readers tell both fences by their first character
alone.  Line comments, operators and open tags look at the angle bracket of a close tag as well.

The opening line of a heredoc is the one exception.  A quote may open or close its label, and then
what follows decides whether the line opens a heredoc; `heredocOpener?_fenced` names these two
cases.
-/

namespace PhpOutline.Lexer

section Readers

variable {q : Char} {x y cs ds : List Char}

/-! ### Comments -/

lemma endsLineComment_cons (c : Char) (cs : List Char) :
    endsLineComment (c :: cs) =
      (c == '\n' || c == '\r' || (c == '?' && cs.head? == some '>')) := by
  unfold endsLineComment
  split
  · next heq => simp [(List.cons.inj heq).1]
  · next heq => simp [(List.cons.inj heq).1]
  · next heq =>
    obtain ⟨rfl, rfl⟩ := List.cons.inj heq
    rfl
  · next hnl hcr htag =>
    have hfeed : c ≠ '\n' := fun hc => hnl cs (by rw [hc])
    have hreturn : c ≠ '\r' := fun hc => hcr cs (by rw [hc])
    have hclose : ¬(c = '?' ∧ cs.head? = some '>') := by
      rintro ⟨rfl, hhead⟩
      obtain ⟨cs', rfl⟩ := List.head?_eq_some_iff.1 hhead
      exact htag cs' rfl
    simpa [hfeed, hreturn] using hclose

/-- A line comment ends at a close tag, and a quote does not end it. -/
lemma endsLineComment_fenced (hf : IsFence q x y) (h : Fenced q x y cs ds) :
    endsLineComment cs = endsLineComment ds := by
  cases h with
  | fence =>
    rw [endsLineComment_cons, endsLineComment_cons]
    cases hf with
    | quote hq => rcases isQuote_eq_true.1 hq with rfl | rfl <;> rfl
    | closeTag => rfl
  | cons c rest => rw [endsLineComment_cons, endsLineComment_cons, rest.head?_eq]

lemma lineComment_fenced (hf : IsFence q x y) (h : Fenced q x y cs ds) :
    SameUnlessPassed q x y (lineComment cs) (lineComment ds) :=
  sameUnlessPassed_before h fun h => endsLineComment_fenced hf h

lemma isDocComment_eq (cs : List Char) :
    isDocComment cs = (['/', '*', '*'].isPrefixOf cs && nextIs isSpace (cs.drop 3)) := by
  unfold isDocComment
  split
  · rfl
  · next hno =>
    rw [eq_comm, Bool.and_eq_false_imp]
    intro hstarts
    obtain ⟨rest, rfl⟩ := List.isPrefixOf_iff_prefix.1 hstarts
    cases rest with
    | nil => rfl
    | cons c rest => exact absurd rfl (hno c rest)

lemma isDocComment_fenced (hq : isMark q = true) (h : Fenced q x y cs ds) :
    isDocComment cs = isDocComment ds := by
  have hfree : q ∉ ['/', '*', '*'] := not_mem_of_isMark hq rfl
  rw [isDocComment_eq, isDocComment_eq, ← h.isPrefixOf_eq hfree]
  by_cases hstarts : ['/', '*', '*'].isPrefixOf cs = true
  · have hnext : nextIs isSpace (cs.drop 3) = nextIs isSpace (ds.drop 3) :=
      (h.drop_of_isPrefixOf hfree hstarts).nextIs_eq isSpace
    rw [hnext]
  · simp [hstarts]

lemma throughStarSlash_cons {c : Char} (hno : ¬(c = '*' ∧ cs.head? = some '/')) :
    throughStarSlash (c :: cs) = (throughStarSlash cs).push c := by
  rw [throughStarSlash.eq_def]
  split
  · next heq =>
    obtain ⟨rfl, rfl⟩ := List.cons.inj heq
    exact absurd ⟨rfl, rfl⟩ hno
  · next heq =>
    obtain ⟨rfl, rfl⟩ := List.cons.inj heq
    rfl
  · next heq => cases heq

lemma throughStarSlash_fenced (hq : isMark q = true) (h : Fenced q x y cs ds) :
    SameUnlessPassed q x y (throughStarSlash cs) (throughStarSlash ds) := by
  induction h with
  | fence =>
    have hstar : '*' ≠ q := ne_of_isMark hq rfl
    rw [throughStarSlash_cons fun h => hstar h.1.symm,
      throughStarSlash_cons fun h => hstar h.1.symm]
    exact (sameUnlessPassed_of_whole (whole_throughStarSlash x)).push q
  | @cons c cs ds rest ih =>
    by_cases hend : c = '*' ∧ cs.head? = some '/'
    · obtain ⟨rfl, hhead⟩ := hend
      obtain ⟨cs', rfl⟩ := List.head?_eq_some_iff.1 hhead
      obtain ⟨ds', rfl, hrest⟩ := rest.exists_cons (ne_of_isMark hq rfl)
      exact SameCut.unlessPassed ⟨rfl, hrest⟩
    · rw [throughStarSlash_cons hend, throughStarSlash_cons (by rwa [← rest.head?_eq])]
      exact ih.push c

/-! ### Strings -/

/-- A character that starts no escape is the quote or is passed over. -/
lemma throughQuote_cons {quote c : Char} (hc : c ≠ '\\') :
    throughQuote quote (c :: cs) =
      if c = quote then ⟨[c], cs⟩ else (throughQuote quote cs).push c := by
  rw [throughQuote.eq_def]
  split
  · next heq => exact absurd (List.cons.inj heq).1 hc
  · next heq =>
    obtain ⟨rfl, rfl⟩ := List.cons.inj heq
    rfl
  · next heq => cases heq

/-- A character that starts no escape is a backtick or is passed over. -/
lemma shellCommand_cons {c : Char} (hc : c ≠ '\\') :
    shellCommand (c :: cs) =
      if c = '\x60' then ⟨[], c :: cs⟩ else (shellCommand cs).push c := by
  rw [shellCommand.eq_def]
  split
  · next heq => exact absurd (List.cons.inj heq).1 hc
  · next heq =>
    obtain ⟨rfl, rfl⟩ := List.cons.inj heq
    rfl
  · next heq => cases heq

/-- Two characters are taken at an escape, so that the induction is on the length. -/
lemma throughQuote_fenced (hq : isMark q = true) (quote : Char) (h : Fenced q x y cs ds) :
    SameUnlessPassed q x y (throughQuote quote cs) (throughQuote quote ds) := by
  induction hn : cs.length using Nat.strong_induction_on generalizing cs ds with
  | _ n ih =>
    subst hn
    have hescape : '\\' ≠ q := ne_of_isMark hq rfl
    cases h with
    | fence =>
      rw [throughQuote_cons hescape.symm, throughQuote_cons hescape.symm]
      split
      · exact sameUnlessPassed_of_le le_rfl
      · exact (sameUnlessPassed_of_whole (whole_throughQuote quote x)).push q
    | @cons c cs ds rest =>
      by_cases hc : c = '\\'
      · subst hc
        cases rest with
        | fence => exact (sameUnlessPassed_of_whole (whole_throughQuote quote x)).prepend ['\\', q]
        | @cons d cs ds rest =>
          rw [throughQuote, throughQuote]
          exact (ih _ (by simp only [List.length_cons]; omega) rest rfl).prepend ['\\', d]
      · rw [throughQuote_cons hc, throughQuote_cons hc]
        split
        · exact SameCut.unlessPassed ⟨rfl, rest⟩
        · exact (ih _ (by simp) rest rfl).push c

lemma shellCommand_fenced (hq : isMark q = true) (h : Fenced q x y cs ds) :
    SameUnlessPassed q x y (shellCommand cs) (shellCommand ds) := by
  induction hn : cs.length using Nat.strong_induction_on generalizing cs ds with
  | _ n ih =>
    subst hn
    have hescape : '\\' ≠ q := ne_of_isMark hq rfl
    have hbacktick : '\x60' ≠ q := ne_of_isMark hq rfl
    cases h with
    | fence =>
      rw [shellCommand_cons hescape.symm, shellCommand_cons hescape.symm, if_neg hbacktick.symm,
        if_neg hbacktick.symm]
      exact (sameUnlessPassed_of_whole (whole_shellCommand x)).push q
    | @cons c cs ds rest =>
      by_cases hc : c = '\\'
      · subst hc
        cases rest with
        | fence => exact (sameUnlessPassed_of_whole (whole_shellCommand x)).prepend ['\\', q]
        | @cons d cs ds rest =>
          rw [shellCommand, shellCommand]
          exact (ih _ (by simp only [List.length_cons]; omega) rest rfl).prepend ['\\', d]
      · rw [shellCommand_cons hc, shellCommand_cons hc]
        split
        · exact SameCut.unlessPassed ⟨rfl, .cons c rest⟩
        · exact (ih _ (by simp) rest rfl).push c

/-! ### Numbers -/

lemma isDigit_of_isMark (hq : isMark q = true) : q.isDigit = false :=
  eq_false_of_isMark hq rfl rfl rfl

lemma isDigitOrMark_of_isMark (hq : isMark q = true) : isDigitOrMark q = false :=
  eq_false_of_isMark hq rfl rfl rfl

/-- Without a zero in front there is no such number. -/
lemma radixNumber?_of_ne {c : Char} (hc : c ≠ '0') : radixNumber? (c :: cs) = none := by
  unfold radixNumber?
  split
  · next heq => exact absurd (List.cons.inj heq).1 hc
  · rfl

lemma fraction?_of_ne {c : Char} (hc : c ≠ '.') : fraction? (c :: cs) = none := by
  unfold fraction?
  split
  · next heq => exact absurd (List.cons.inj heq).1 hc
  · next heq => exact absurd (List.cons.inj heq).1 hc
  · rfl

lemma exponent?_of_ne {c : Char} (hc : ¬(c = 'e' ∨ c = 'E')) : exponent? (c :: cs) = none := by
  unfold exponent?
  split
  · next heq =>
    obtain ⟨rfl, -⟩ := List.cons.inj heq
    rw [if_neg hc]
  · rfl

lemma radixNumber?_fenced (hq : isMark q = true) (h : Fenced q x y cs ds) :
    Option.Rel (SameCut q x y) (radixNumber? cs) (radixNumber? ds) := by
  have hhex : isHexDigitOrMark q = false := eq_false_of_isMark hq rfl rfl rfl
  cases h with
  | fence =>
    have hzero : '0' ≠ q := ne_of_isMark hq rfl
    rw [radixNumber?_of_ne hzero.symm, radixNumber?_of_ne hzero.symm]
    exact .none
  | cons c rest =>
    by_cases hc : c = '0'
    · subst hc
      cases rest with
      | fence =>
        have hletter : q ∉ ['x', 'X', 'b', 'B', 'o', 'O'] := not_mem_of_isMark hq rfl
        rw [radixNumber?, radixNumber?, if_neg hletter, if_neg hletter]
        exact .none
      | cons d rest =>
        rw [radixNumber?, radixNumber?]
        split
        · exact .some ((sameCut_span rest hhex).prepend ['0', d])
        · exact .none
    · rw [radixNumber?_of_ne hc, radixNumber?_of_ne hc]
      exact .none

lemma fraction?_fenced (hq : isMark q = true) (h : Fenced q x y cs ds) :
    Option.Rel (SameCut q x y) (fraction? cs) (fraction? ds) := by
  cases h with
  | fence =>
    have hpoint : '.' ≠ q := ne_of_isMark hq rfl
    rw [fraction?_of_ne hpoint.symm, fraction?_of_ne hpoint.symm]
    exact .none
  | cons c rest =>
    by_cases hc : c = '.'
    · subst hc
      cases rest with
      | fence =>
        have hother : ¬(q = '.' ∨ q = '=') := by
          rcases isMark_eq_true.1 hq with (rfl | rfl) | rfl <;> decide
        have hdigit : ¬q.isDigit = true := by simp [isDigit_of_isMark hq]
        rw [fraction?, fraction?, if_neg hdigit, if_neg hdigit, if_neg hother, if_neg hother]
        exact .some ⟨rfl, .fence⟩
      | cons d rest =>
        rw [fraction?, fraction?]
        split
        · exact .some ((sameCut_span (.cons d rest) (isDigitOrMark_of_isMark hq)).push '.')
        · split
          · exact .none
          · exact .some ⟨rfl, .cons d rest⟩
    · rw [fraction?_of_ne hc, fraction?_of_ne hc]
      exact .none

lemma exponent?_fenced (hq : isMark q = true) (h : Fenced q x y cs ds) :
    Option.Rel (SameCut q x y) (exponent? cs) (exponent? ds) := by
  have hdigit := isDigit_of_isMark hq
  cases h with
  | fence =>
    have hletter : ¬(q = 'e' ∨ q = 'E') := by
      rcases isMark_eq_true.1 hq with (rfl | rfl) | rfl <;> decide
    rw [exponent?_of_ne hletter, exponent?_of_ne hletter]
    exact .none
  | cons c rest =>
    by_cases hc : c = 'e' ∨ c = 'E'
    · cases rest with
      | fence =>
        have hsign : ¬(q = '+' ∨ q = '-') := by
          rcases isMark_eq_true.1 hq with (rfl | rfl) | rfl <;> decide
        have hno : ¬q.isDigit = true := by simp [hdigit]
        rw [exponent?, exponent?, if_pos hc, if_pos hc, if_neg hsign, if_neg hsign, if_neg hno,
          if_neg hno]
        exact .none
      | cons d rest =>
        rw [exponent?, exponent?, if_pos hc, if_pos hc, ← rest.nextIs_eq]
        split
        · split
          · exact .some ((sameCut_span rest hdigit).prepend [c, d])
          · exact .none
        · split
          · exact .some ((sameCut_span (.cons d rest) hdigit).push c)
          · exact .none
    · rw [exponent?_of_ne hc, exponent?_of_ne hc]
      exact .none

/-- A part of a number that may be missing. -/
lemma optional_fenced {part? : List Char → Option Cut} (h : Fenced q x y cs ds)
    (hpart : Option.Rel (SameCut q x y) (part? cs) (part? ds)) :
    (optional part? cs).1 = (optional part? ds).1 ∧
      SameCut q x y (optional part? cs).2 (optional part? ds).2 := by
  rw [optional, optional]
  generalize part? cs = k, part? ds = k' at hpart
  cases hpart with
  | none => exact ⟨rfl, rfl, h⟩
  | some same => exact ⟨rfl, same⟩

lemma decimalNumber_eq (cs : List Char) :
    decimalNumber cs =
      let whole := Cut.span isDigitOrMark cs
      let fraction := optional fraction? whole.rest
      let exponent := optional exponent? fraction.2.rest
      (fraction.1 || exponent.1, exponent.2.prepend (whole.text ++ fraction.2.text)) := rfl

lemma decimalNumber_fenced (hq : isMark q = true) (h : Fenced q x y cs ds) :
    (decimalNumber cs).1 = (decimalNumber ds).1 ∧
      SameCut q x y (decimalNumber cs).2 (decimalNumber ds).2 := by
  have hwhole := sameCut_span h (isDigitOrMark_of_isMark hq)
  have hfraction := optional_fenced hwhole.rest (fraction?_fenced hq hwhole.rest)
  have hexponent := optional_fenced hfraction.2.rest (exponent?_fenced hq hfraction.2.rest)
  rw [decimalNumber_eq, decimalNumber_eq]
  dsimp only
  rw [hfraction.1, hexponent.1, ← hwhole.text, ← hfraction.2.text]
  exact ⟨rfl, hexponent.2.prepend _⟩

lemma number_fenced (hq : isMark q = true) (h : Fenced q x y cs ds) :
    (number cs).1 = (number ds).1 ∧ SameCut q x y (number cs).2 (number ds).2 := by
  have hradix := radixNumber?_fenced hq h
  rw [number, number]
  generalize radixNumber? cs = k, radixNumber? ds = k' at hradix
  cases hradix with
  | none => exact decimalNumber_fenced hq h
  | some same => exact ⟨rfl, same⟩

/-! ### Names and operators -/

lemma continuesName_fenced (hq : isMark q = true) (h : Fenced q x y cs ds) :
    continuesName cs = continuesName ds := by
  cases h with
  | fence =>
    have hescape : (q == '\\') = false := beq_false_of_ne (Ne.symm (ne_of_isMark hq rfl))
    rw [continuesName, continuesName, hescape, Bool.false_and, Bool.false_and]
  | cons c rest => rw [continuesName, continuesName, rest.nextIs_eq]

lemma name_fenced (hq : isMark q = true) (h : Fenced q x y cs ds) :
    SameCut q x y (name cs) (name ds) := by
  refine sameCut_before h (fun h => by rw [continuesName_fenced hq h]) ?_
  rw [continuesName, isNameChar_of_isMark hq]
  rcases isMark_eq_true.1 hq with (rfl | rfl) | rfl <;> rfl

lemma declaredNameFollows_fenced (hq : isMark q = true) (h : Fenced q x y cs ds) :
    declaredNameFollows cs = declaredNameFollows ds := by
  have hname := h.dropWhile (isSpace_of_isMark hq)
  rw [declaredNameFollows, declaredNameFollows, h.nextIs_eq, hname.nextIs_eq,
    hname.takeWhile_eq (isNameChar_of_isMark hq)]

lemma nameCategory_fenced (hq : isMark q = true) (h : Fenced q x y cs ds) (context : Context)
    (text : List Char) : nameCategory context text cs = nameCategory context text ds := by
  rw [nameCategory, nameCategory, wordCategory, wordCategory, declaredNameFollows_fenced hq h]

/-- No operator has a quote in it, and none is longer than three characters. -/
lemma operator_bounds {op : String × Category} (hop : op ∈ operators) :
    (op.1.toList.all (!isQuote ·)) = true ∧ op.1.toList.length ≤ 3 := by
  have hall : ∀ op ∈ operators, (op.1.toList.all (!isQuote ·)) = true ∧ op.1.toList.length ≤ 3 := by
    decide
  exact hall op hop

/-- Texts that agree in their first characters start with the same operator. -/
lemma isPrefixOf_eq_of_take {n : Nat} {w : List Char} (h : cs.take n = ds.take n)
    (hw : w.length ≤ n) : w.isPrefixOf cs = w.isPrefixOf ds := by
  rw [Bool.eq_iff_iff, List.isPrefixOf_iff_prefix, List.isPrefixOf_iff_prefix,
    ← List.prefix_take_iff.trans (and_iff_left hw), h,
    List.prefix_take_iff.trans (and_iff_left hw)]

/-- In front of a fence the same operator is read.  A close tag is too long for an operator to go
beyond it. -/
lemma operator?_fenced (hf : IsFence q x y) (h : Fenced q x y cs ds) (c : Char) :
    operator? (c :: cs) = operator? (c :: ds) := by
  have hfilter : (operators.filter fun op => op.1.toList.isPrefixOf (c :: cs)) =
      operators.filter fun op => op.1.toList.isPrefixOf (c :: ds) := by
    apply List.filter_congr
    intro op hop
    obtain ⟨hquotes, hlength⟩ := operator_bounds hop
    cases hf with
    | quote hq =>
      refine (Fenced.cons c h).isPrefixOf_eq fun hmem => ?_
      have hno := List.all_eq_true.1 hquotes q hmem
      rw [hq] at hno
      cases hno
    | closeTag x y =>
      have htake : (c :: cs).take 3 = (c :: ds).take 3 := by
        cases h with
        | fence => rfl
        | cons d rest =>
          cases rest with
          | fence => rfl
          | cons e rest => rfl
      exact isPrefixOf_eq_of_take htake hlength
  rw [operator?, operator?, ← List.head?_filter, hfilter, List.head?_filter]

/-! ### Tags -/

lemma lineBreak?_cons (c : Char) (cs : List Char) :
    lineBreak? (c :: cs) =
      if c = '\n' then some ⟨['\n'], cs⟩
      else if c = '\r' ∧ cs.head? = some '\n' then some ⟨['\r', '\n'], cs.tail⟩
      else none := by
  unfold lineBreak?
  split
  · next heq =>
    obtain ⟨rfl, rfl⟩ := List.cons.inj heq
    rfl
  · next heq =>
    obtain ⟨rfl, rfl⟩ := List.cons.inj heq
    rfl
  · next hfeed hreturn =>
    rw [if_neg fun hc => hfeed cs (by rw [hc]), if_neg]
    rintro ⟨rfl, hhead⟩
    obtain ⟨cs', rfl⟩ := List.head?_eq_some_iff.1 hhead
    exact hreturn cs' rfl

lemma lineBreak?_fenced (hq : isMark q = true) (h : Fenced q x y cs ds) :
    Option.Rel (SameCut q x y) (lineBreak? cs) (lineBreak? ds) := by
  cases h with
  | fence =>
    have hfeed : ¬q = '\n' := Ne.symm (ne_of_isMark hq rfl)
    have hreturn : '\r' ≠ q := ne_of_isMark hq rfl
    rw [lineBreak?_cons, lineBreak?_cons, if_neg hfeed, if_neg hfeed,
      if_neg fun h => hreturn h.1.symm, if_neg fun h => hreturn h.1.symm]
    exact .none
  | cons c rest =>
    rw [lineBreak?_cons, lineBreak?_cons, ← rest.head?_eq]
    split
    · exact .some ⟨rfl, rest⟩
    · split
      · next hbreak => exact .some ⟨rfl, rest.tail hbreak.2 (ne_of_isMark hq rfl)⟩
      · exact .none

lemma closeTagEnd_eq (cs : List Char) : closeTagEnd cs = (lineBreak? cs).getD ⟨[], cs⟩ := by
  unfold closeTagEnd
  split
  · rfl
  · rfl
  · next hreturn hfeed =>
    cases cs with
    | nil => rfl
    | cons c cs =>
      rw [lineBreak?_cons, if_neg fun hc => hfeed cs (by rw [hc]), if_neg]
      · rfl
      · rintro ⟨rfl, hhead⟩
        obtain ⟨cs', rfl⟩ := List.head?_eq_some_iff.1 hhead
        exact hreturn cs' rfl

lemma closeTagEnd_fenced (hq : isMark q = true) (h : Fenced q x y cs ds) :
    SameCut q x y (closeTagEnd cs) (closeTagEnd ds) := by
  have hbreak := lineBreak?_fenced hq h
  rw [closeTagEnd_eq, closeTagEnd_eq]
  generalize lineBreak? cs = k, lineBreak? ds = k' at hbreak
  cases hbreak with
  | none => exact ⟨rfl, h⟩
  | some same => exact same

lemma openTagEnd?_cons (c : Char) (cs : List Char) :
    openTagEnd? (c :: cs) =
      if c = '\r' ∧ cs.head? = some '\n' then some ⟨['\r', '\n'], cs.tail⟩
      else if isSpace c then some ⟨[c], cs⟩ else none := by
  unfold openTagEnd?
  split
  · next heq => cases heq
  · next heq =>
    obtain ⟨rfl, rfl⟩ := List.cons.inj heq
    rfl
  · next hreturn heq =>
    obtain ⟨rfl, rfl⟩ := List.cons.inj heq
    have hno : ¬(c = '\r' ∧ cs.head? = some '\n') := by
      rintro ⟨hc, hhead⟩
      obtain ⟨cs', hcs⟩ := List.head?_eq_some_iff.1 hhead
      exact hreturn cs' hc hcs
    rw [if_neg hno]

lemma openTagEnd?_fenced (hq : isMark q = true) (h : Fenced q x y cs ds) :
    Option.Rel (SameCut q x y) (openTagEnd? cs) (openTagEnd? ds) := by
  cases h with
  | fence =>
    have hreturn : ∀ o : Option Char, ¬(q = '\r' ∧ o = some '\n') :=
      fun o h => ne_of_isMark (c := '\r') hq rfl h.1.symm
    have hspace : ¬isSpace q = true := by simp [isSpace_of_isMark hq]
    rw [openTagEnd?_cons, openTagEnd?_cons, if_neg (hreturn _), if_neg (hreturn _), if_neg hspace,
      if_neg hspace]
    exact .none
  | cons c rest =>
    rw [openTagEnd?_cons, openTagEnd?_cons, ← rest.head?_eq]
    split
    · next hbreak => exact .some ⟨rfl, rest.tail hbreak.2 (ne_of_isMark hq rfl)⟩
    · split
      · exact .some ⟨rfl, rest⟩
      · exact .none

/-- The category and the cut of a tag are the same. -/
def SameTag (q : Char) (x y : List Char) (tag tag' : Category × Cut) : Prop :=
  tag.1 = tag'.1 ∧ SameCut q x y tag.2 tag'.2

/-- A word with the start of a fence in it is not the word of the open tag. -/
lemma isWord_php_of_isMark (hq : isMark q = true) {word : List Char} (hmem : q ∈ word) :
    isWord "php" word = false := by
  rw [isWord, beq_eq_false_iff_ne]
  intro heq
  have hlower : q.toLower ∈ Text.lower word := List.mem_map_of_mem hmem
  rw [heq] at hlower
  rcases isMark_eq_true.1 hq with (rfl | rfl) | rfl <;> revert hlower <;> decide

/-- Without an angle bracket and a question mark there is no open tag. -/
lemma openTag?_of_not_isPrefixOf (h : ¬['<', '?'].isPrefixOf cs = true) : openTag? cs = none := by
  unfold openTag?
  split
  · exact absurd rfl h
  · exact absurd rfl h
  · rfl

/-- The open tag told by what stands behind its first two characters. -/
lemma openTag?_angle (cs : List Char) :
    openTag? ('<' :: '?' :: cs) =
      if cs.head? = some '=' then some (.openTagWithEcho, ⟨['<', '?', '='], cs.tail⟩)
      else if isWord "php" (cs.take 3) then
        (openTagEnd? (cs.drop 3)).map fun k => (.openTag, k.prepend ('<' :: '?' :: cs.take 3))
      else none := by
  by_cases hecho : cs.head? = some '='
  · obtain ⟨cs, rfl⟩ := List.head?_eq_some_iff.1 hecho
    rfl
  · rw [if_neg hecho]
    unfold openTag?
    split
    · next heq =>
      cases heq
      exact absurd rfl hecho
    · next heq =>
      cases heq
      rfl
    · next hphp =>
      rw [if_neg]
      intro hword
      have hlength : (cs.take 3).length = 3 := by
        have hlower := congrArg List.length (beq_iff_eq.1 hword)
        rwa [Text.lower, List.length_map] at hlower
      match cs, hlength with
      | p :: h :: q :: cs, _ => exact hphp p h q cs rfl

lemma openTag?_fenced (hf : IsFence q x y) (h : Fenced q x y cs ds) :
    Option.Rel (SameTag q x y) (openTag? cs) (openTag? ds) := by
  have hq := hf.isMark
  have hnone : ∀ {c : Char} {cs : List Char}, ¬(c = '<' ∧ cs.head? = some '?') →
      openTag? (c :: cs) = none := by
    intro c cs hno
    apply openTag?_of_not_isPrefixOf
    intro hstarts
    obtain ⟨rest, hrest⟩ := List.isPrefixOf_iff_prefix.1 hstarts
    cases hrest
    exact hno ⟨rfl, rfl⟩
  cases h with
  | fence =>
    have hangle : '<' ≠ q := ne_of_isMark hq rfl
    rw [hnone fun h => hangle h.1.symm, hnone fun h => hangle h.1.symm]
    exact .none
  | @cons c cs ds rest =>
    by_cases hstarts : c = '<' ∧ cs.head? = some '?'
    · obtain ⟨rfl, hhead⟩ := hstarts
      cases rest with
      | fence =>
        cases hf with
        | quote hq =>
          cases hhead
          cases hq
        | closeTag x y =>
          -- a question mark in front of an angle bracket opens nothing
          have hno : ∀ x, openTag? ('<' :: '?' :: '>' :: x) = none := by
            intro x
            rw [openTag?_angle, if_neg (by simp), if_neg (by simp [isWord, Text.lower])]
          rw [hno, hno]
          exact .none
      | @cons d cs ds rest =>
        cases hhead
        rw [openTag?_angle, openTag?_angle, ← rest.head?_eq]
        split
        · next hecho => exact .some ⟨rfl, rfl, rest.tail hecho (ne_of_isMark hq rfl)⟩
        · rcases rest.take_drop 3 with ⟨hmem, hmem'⟩ | ⟨htake, hdrop⟩
          · -- the fence starts among the three letters: there is no tag
            rw [isWord_php_of_isMark hq hmem, isWord_php_of_isMark hq hmem']
            exact .none
          · have hend := openTagEnd?_fenced hq hdrop
            rw [htake]
            split
            · generalize openTagEnd? (cs.drop 3) = k, openTagEnd? (ds.drop 3) = k' at hend
              cases hend with
              | none => exact .none
              | some same => exact .some ⟨rfl, same.prepend _⟩
            · exact .none
    · rw [hnone hstarts, hnone (by rwa [← rest.head?_eq])]
      exact .none

/-! ### Heredocs -/

lemma closesHeredoc_fenced {label : List Char} (hq : isMark q = true) (hlabel : q ∉ label)
    (h : Fenced q x y cs ds) : closesHeredoc label cs = closesHeredoc label ds := by
  have htext := h.dropWhile (isBlank_of_isMark hq)
  rw [closesHeredoc, closesHeredoc, ← htext.isPrefixOf_eq hlabel]
  by_cases hstarts : label.isPrefixOf (cs.dropWhile isBlank) = true
  · rw [(htext.drop_of_isPrefixOf hlabel hstarts).nextIs_eq]
  · simp [hstarts]

lemma heredocBody_fenced {label : List Char} (hq : isMark q = true) (hlabel : q ∉ label)
    (h : Fenced q x y cs ds) (lineStarts : Bool) :
    SameUnlessPassed q x y (heredocBody label lineStarts cs) (heredocBody label lineStarts ds) := by
  induction h generalizing lineStarts with
  | fence =>
    have hcloses := closesHeredoc_fenced hq hlabel (.fence (x := x) (y := y))
    rw [heredocBody, heredocBody, ← hcloses]
    split
    · exact (sameCut_span .fence (isBlank_of_isMark hq)).unlessPassed
    · exact (sameUnlessPassed_of_whole (whole_heredocBody label _ x)).push q
  | cons c rest ih =>
    rw [heredocBody, heredocBody, ← closesHeredoc_fenced hq hlabel (.cons c rest)]
    split
    · exact (sameCut_span (.cons c rest) (isBlank_of_isMark hq)).unlessPassed
    · exact (ih _).push c

/-- What the opening line of a heredoc has behind its blanks and its first quote. -/
def labelLine? (blanks quote cs : List Char) : Option (List Char × Cut) :=
  let label := cs.takeWhile isNameChar
  let rest := cs.dropWhile isNameChar
  if nextIs isNameStart label && quote.isPrefixOf rest then
    (lineBreak? (rest.drop quote.length)).map fun lineEnd =>
      (label, lineEnd.prepend (['<', '<', '<'] ++ blanks ++ quote ++ label ++ quote))
  else none

lemma heredocOpener?_angles (cs : List Char) :
    heredocOpener? ('<' :: '<' :: '<' :: cs) =
      labelLine? (Cut.span isBlank cs).text (labelQuote (Cut.span isBlank cs).rest)
        ((Cut.span isBlank cs).rest.drop (labelQuote (Cut.span isBlank cs).rest).length) := rfl

lemma heredocOpener?_of_not_isPrefixOf (h : ¬['<', '<', '<'].isPrefixOf cs = true) :
    heredocOpener? cs = none := by
  unfold heredocOpener?
  split
  · exact absurd rfl h
  · rfl

/-- The quote around a label is a quote or is missing. -/
lemma labelQuote_cases (cs : List Char) :
    labelQuote cs = [] ∨ labelQuote cs = ['\''] ∨ labelQuote cs = ['"'] := by
  unfold labelQuote
  split <;> simp

lemma labelQuote_cons (c : Char) (cs : List Char) :
    labelQuote (c :: cs) = if isQuote c then [c] else [] := by
  unfold labelQuote
  split
  · next heq => rw [(List.cons.inj heq).1]; rfl
  · next heq => rw [(List.cons.inj heq).1]; rfl
  · next hsingle hdouble =>
    have hno : ¬isQuote c = true := by
      rw [isQuote_eq_true]
      rintro (rfl | rfl)
      · exact hsingle cs rfl
      · exact hdouble cs rfl
    rw [if_neg hno]

/-- The label and the cut of an opening line are the same. -/
def SameOpener (q : Char) (x y : List Char) (opener opener' : List Char × Cut) : Prop :=
  opener.1 = opener'.1 ∧ SameCut q x y opener.2 opener'.2

/-- The label is read in the same way if the quote behind it is. -/
lemma labelLine?_fenced (hq : isMark q = true) (h : Fenced q x y cs ds)
    (blanks quote : List Char)
    (hstarts : quote.isPrefixOf (cs.dropWhile isNameChar) =
      quote.isPrefixOf (ds.dropWhile isNameChar))
    (hdrop : quote.isPrefixOf (cs.dropWhile isNameChar) = true →
      Fenced q x y ((cs.dropWhile isNameChar).drop quote.length)
        ((ds.dropWhile isNameChar).drop quote.length)) :
    Option.Rel (SameOpener q x y) (labelLine? blanks quote cs) (labelLine? blanks quote ds) := by
  rw [labelLine?, labelLine?, ← h.takeWhile_eq (isNameChar_of_isMark hq), ← hstarts]
  split
  · next hlabel =>
    have hbreak := lineBreak?_fenced hq (hdrop (Bool.and_eq_true_iff.1 hlabel).2)
    generalize lineBreak? ((cs.dropWhile isNameChar).drop quote.length) = k,
      lineBreak? ((ds.dropWhile isNameChar).drop quote.length) = k' at hbreak
    cases hbreak with
    | none => exact .none
    | some same => exact .some ⟨rfl, same.prepend _⟩
  · exact .none

/-- A label is read in the same way, unless the quote at the fence closes it. -/
lemma labelLine?_fenced_or (hq : isMark q = true) (h : Fenced q x y cs ds) (blanks : List Char)
    (c : Char) :
    Option.Rel (SameOpener q x y) (labelLine? blanks [c] cs) (labelLine? blanks [c] ds) ∨
      c = q ∧ ∃ label, (∀ a ∈ label, isNameChar a = true) ∧ cs = label ++ q :: x := by
  have hrest := h.dropWhile (isNameChar_of_isMark hq)
  by_cases hc : c = q
  · generalize hcs : cs.dropWhile isNameChar = r, hds : ds.dropWhile isNameChar = r' at hrest
    cases hrest with
    | fence =>
      refine .inr ⟨hc, cs.takeWhile isNameChar, fun a ha => List.mem_takeWhile_imp ha, ?_⟩
      rw [← hcs, List.takeWhile_append_dropWhile]
    | cons e rest =>
      refine .inl (labelLine?_fenced hq h blanks [c] ?_ ?_)
      · rw [hcs, hds]
        simp [List.isPrefixOf]
      · rw [hcs, hds]
        exact fun _ => rest
  · have hfree : q ∉ [c] := fun hmem => hc (List.mem_singleton.1 hmem).symm
    exact .inl (labelLine?_fenced hq h blanks [c] (hrest.isPrefixOf_eq hfree)
      (hrest.drop_of_isPrefixOf hfree))

/-- The quote stands behind three angle brackets, so that it may open the label of a heredoc. -/
def OpensLabel (q : Char) (x cs : List Char) : Prop :=
  ∃ blanks, (∀ a ∈ blanks, isBlank a = true) ∧ cs = '<' :: '<' :: '<' :: (blanks ++ q :: x)

/-- The quote stands behind three angle brackets and a quoted word, so that it may close the label
of a heredoc. -/
def ClosesLabel (q : Char) (x cs : List Char) : Prop :=
  ∃ blanks label, (∀ a ∈ blanks, isBlank a = true) ∧ (∀ a ∈ label, isNameChar a = true) ∧
    cs = '<' :: '<' :: '<' :: (blanks ++ q :: (label ++ q :: x))

/-- The opening line of a heredoc is read in the same way, unless the quote opens or closes its
label. -/
lemma heredocOpener?_fenced (hf : IsFence q x y) (h : Fenced q x y cs ds) :
    Option.Rel (SameOpener q x y) (heredocOpener? cs) (heredocOpener? ds) ∨
      isQuote q = true ∧ (OpensLabel q x cs ∨ ClosesLabel q x cs) := by
  have hq := hf.isMark
  have hangles : q ∉ ['<', '<', '<'] := not_mem_of_isMark hq rfl
  by_cases hstarts : ['<', '<', '<'].isPrefixOf cs = true
  · obtain ⟨cs, rfl⟩ := List.isPrefixOf_iff_prefix.1 hstarts
    obtain ⟨ds, rfl, hbehind⟩ := h.exists_append hangles
    have hblanks := sameCut_span hbehind (isBlank_of_isMark hq)
    have hrest := hblanks.rest
    have hwhole : (Cut.span isBlank cs).text ++ (Cut.span isBlank cs).rest = cs :=
      Cut.whole_span isBlank cs
    have hblank : ∀ a ∈ (Cut.span isBlank cs).text, isBlank a = true :=
      fun a ha => List.mem_takeWhile_imp ha
    simp only [List.cons_append, List.nil_append, heredocOpener?_angles]
    rw [← hblanks.text]
    generalize (Cut.span isBlank cs).text = blanks at hwhole hblank ⊢
    generalize (Cut.span isBlank cs).rest = r, (Cut.span isBlank ds).rest = r'
      at hrest hwhole ⊢
    subst hwhole
    -- the fence stands where the label starts, or behind a first character of the label
    cases hrest with
    | fence =>
      cases hf with
      | quote hquote => exact .inr ⟨hquote, .inl ⟨blanks, hblank, rfl⟩⟩
      | closeTag => exact .inl .none
    | cons c rest =>
      rw [labelQuote_cons, labelQuote_cons]
      split
      · next hquote =>
        rcases labelLine?_fenced_or hq rest blanks c with hsame | ⟨rfl, label, hlabel, rfl⟩
        · exact .inl hsame
        · exact .inr ⟨hquote, .inr ⟨blanks, label, hblank, hlabel, rfl⟩⟩
      · exact .inl (labelLine?_fenced hq (.cons c rest) blanks [] rfl
          fun _ => (Fenced.cons c rest).dropWhile (isNameChar_of_isMark hq))
  · rw [heredocOpener?_of_not_isPrefixOf hstarts,
      heredocOpener?_of_not_isPrefixOf (by rwa [← h.isPrefixOf_eq hangles])]
    exact .inl .none

end Readers

end PhpOutline.Lexer
