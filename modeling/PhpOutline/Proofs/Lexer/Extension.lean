import Mathlib.Data.List.Basic
import Mathlib.Data.List.TakeWhile
import PhpOutline.Proofs.Lexer.FencedRun

/-!
# Sources that go on with a bracket

A source goes on behind its end, with an opening bracket first.  The bracket ends words, numbers and
operators just as the end of the source does, and no reader looks beyond it for one of these.  Only
markup, comments, strings, shell commands and the bodies of heredocs can take it in, and those that
end before the end of the source do not.

So a step that leaves enough of its source reads the same token from the longer one (`step_extend`).
Enough is more than the five characters of `<?php`: that text is an open tag at the end of a source,
and no tag in front of a bracket.
-/

namespace PhpOutline.Lexer

/-- The cut of a source that goes on. -/
def Cut.extend (tail : List Char) (k : Cut) : Cut := ⟨k.text, k.rest ++ tail⟩

/-- The step on a source that goes on. -/
def Step.extend (tail : List Char) (s : Step) : Step := ⟨s.token, s.mode, s.rest ++ tail⟩

section Extension

variable {c : Char} {cs x label : List Char} {p : Char → Bool}

lemma Cut.extend_push (tail : List Char) (k : Cut) (c : Char) :
    (k.push c).extend tail = (k.extend tail).push c := rfl

lemma Cut.extend_prepend (tail : List Char) (k : Cut) (cs : List Char) :
    (k.prepend cs).extend tail = (k.extend tail).prepend cs := rfl

lemma Step.extend_read (tail : List Char) (category : Category) (k : Cut) (mode : Mode) :
    (Step.read category k mode).extend tail = .read category (k.extend tail) mode := rfl

/-! ### The front of a source -/

lemma head?_extend (hc : c ≠ '(') : (cs ++ '(' :: x).head? = some c ↔ cs.head? = some c := by
  cases cs with
  | nil => simp [Ne.symm hc]
  | cons => rfl

lemma nextIs_extend (hp : p '(' = false) : nextIs p (cs ++ '(' :: x) = nextIs p cs := by
  cases cs with
  | nil => exact hp
  | cons => rfl

lemma takeWhile_extend (hp : p '(' = false) : (cs ++ '(' :: x).takeWhile p = cs.takeWhile p := by
  induction cs with
  | nil => simp [hp]
  | cons c cs ih => rw [List.cons_append, List.takeWhile_cons, List.takeWhile_cons, ih]

lemma dropWhile_extend (hp : p '(' = false) :
    (cs ++ '(' :: x).dropWhile p = cs.dropWhile p ++ '(' :: x := by
  induction cs with
  | nil => simp [hp]
  | cons c cs ih =>
    rw [List.cons_append, List.dropWhile_cons, List.dropWhile_cons, ih]
    split <;> rfl

lemma span_extend (hp : p '(' = false) :
    Cut.span p (cs ++ '(' :: x) = (Cut.span p cs).extend ('(' :: x) := by
  rw [Cut.span, takeWhile_extend hp, dropWhile_extend hp]
  rfl

lemma span_cons_extend (hp : p '(' = false) :
    Cut.span p (c :: (cs ++ '(' :: x)) = (Cut.span p (c :: cs)).extend ('(' :: x) := by
  rw [← List.cons_append, span_extend hp]

/-- A text without the bracket starts the longer source only if it starts the shorter one. -/
lemma isPrefixOf_extend {w : List Char} (hw : '(' ∉ w) :
    w.isPrefixOf (cs ++ '(' :: x) = w.isPrefixOf cs := by
  induction w generalizing cs with
  | nil => rfl
  | cons a w ih =>
    obtain ⟨ha, hw⟩ := not_or.1 (fun hmem => hw (List.mem_cons.2 hmem))
    cases cs with
    | nil => simp [List.isPrefixOf, Ne.symm ha]
    | cons c cs => rw [List.cons_append, List.isPrefixOf, List.isPrefixOf, ih hw]

/-- A cut at a condition that sees at most `n` characters behind the next one.  If it leaves more
than these, it stays where it is. -/
lemma before_extend {stop : List Char → Bool} {n : Nat}
    (hstop : ∀ c cs, n ≤ cs.length → stop (c :: (cs ++ '(' :: x)) = stop (c :: cs))
    (h : n < (Cut.before stop cs).rest.length) :
    Cut.before stop (cs ++ '(' :: x) = (Cut.before stop cs).extend ('(' :: x) := by
  induction cs with
  | nil => exact absurd h (Nat.not_lt_zero n)
  | cons c cs ih =>
    rw [Cut.before] at h
    rw [List.cons_append, Cut.before, Cut.before]
    split at h
    · next hhere =>
      rw [hstop c cs (Nat.le_of_lt_succ h), if_pos hhere, if_pos hhere]
      rfl
    · next hlater =>
      have hle : (Cut.before stop cs).rest.length ≤ cs.length := by
        have hwhole := congrArg List.length (Cut.whole_before stop cs)
        rw [Cut.whole, List.length_append] at hwhole
        omega
      have hn : n ≤ cs.length := (Nat.lt_of_lt_of_le h hle).le
      rw [hstop c cs hn, if_neg hlater, if_neg hlater, ih h]
      rfl

/-! ### Comments and strings -/

lemma lineComment_extend (h : (lineComment cs).rest ≠ []) :
    lineComment (cs ++ '(' :: x) = (lineComment cs).extend ('(' :: x) := by
  refine before_extend ?_ (List.length_pos_iff.2 h)
  intro c cs _
  rw [endsLineComment_cons, endsLineComment_cons]
  cases cs <;> simp

lemma isDocComment_extend : isDocComment (cs ++ '(' :: x) = isDocComment cs := by
  rw [isDocComment_eq, isDocComment_eq, isPrefixOf_extend (by decide)]
  by_cases hstars : ['/', '*', '*'].isPrefixOf cs = true
  · obtain ⟨cs, rfl⟩ := List.isPrefixOf_iff_prefix.1 hstars
    have hnext : nextIs isSpace (cs ++ '(' :: x) = nextIs isSpace cs := nextIs_extend rfl
    exact congrArg _ hnext
  · simp [hstars]

lemma throughStarSlash_extend (h : (throughStarSlash cs).rest ≠ []) :
    throughStarSlash (cs ++ '(' :: x) = (throughStarSlash cs).extend ('(' :: x) := by
  induction cs with
  | nil => exact absurd rfl h
  | cons c cs ih =>
    by_cases hend : c = '*' ∧ cs.head? = some '/'
    · obtain ⟨rfl, hhead⟩ := hend
      obtain ⟨cs, rfl⟩ := List.head?_eq_some_iff.1 hhead
      rfl
    · have hend' : ¬(c = '*' ∧ (cs ++ '(' :: x).head? = some '/') := by
        rwa [head?_extend (by decide)]
      rw [throughStarSlash_cons hend] at h
      rw [List.cons_append, throughStarSlash_cons hend, throughStarSlash_cons hend', ih h]
      rfl

/-- A backslash that escapes nothing is the last character. -/
lemma ne_backslash (hescape : ∀ d ds, c = '\\' → cs = d :: ds → False) (hcs : cs ≠ []) :
    c ≠ '\\' := by
  intro hc
  obtain ⟨d, ds, rfl⟩ := List.exists_cons_of_ne_nil hcs
  exact hescape d ds hc rfl

lemma throughQuote_extend {quote : Char} (h : (throughQuote quote cs).rest ≠ []) :
    throughQuote quote (cs ++ '(' :: x) = (throughQuote quote cs).extend ('(' :: x) := by
  fun_induction throughQuote quote cs with
  | case1 c cs ih =>
    rw [List.cons_append, List.cons_append, throughQuote, ih h]
    rfl
  | case2 cs hescape =>
    rw [List.cons_append, throughQuote_cons (ne_backslash hescape h), if_pos rfl]
    rfl
  | case3 c cs hescape hc ih =>
    have hcs : cs ≠ [] := by
      rintro rfl
      exact h rfl
    rw [List.cons_append, throughQuote_cons (ne_backslash hescape hcs), if_neg hc, ih h]
    rfl
  | case4 => exact absurd rfl h

lemma shellCommand_extend (h : (shellCommand cs).rest ≠ []) :
    shellCommand (cs ++ '(' :: x) = (shellCommand cs).extend ('(' :: x) := by
  fun_induction shellCommand cs with
  | case1 c cs ih =>
    rw [List.cons_append, List.cons_append, shellCommand, ih h]
    rfl
  | case2 cs =>
    rw [List.cons_append, shellCommand_cons (by decide), if_pos rfl]
    rfl
  | case3 c cs hescape hc ih =>
    have hcs : cs ≠ [] := by
      rintro rfl
      exact h rfl
    rw [List.cons_append, shellCommand_cons (ne_backslash hescape hcs), if_neg hc, ih h]
    rfl
  | case4 => exact absurd rfl h

/-! ### Numbers -/

lemma radixNumber?_extend :
    radixNumber? (cs ++ '(' :: x) = (radixNumber? cs).map (Cut.extend ('(' :: x)) := by
  rcases cs with _ | ⟨c, cs⟩
  · rfl
  by_cases hc : c = '0'
  · subst hc
    rcases cs with _ | ⟨d, cs⟩
    · rfl
    · rw [List.cons_append, List.cons_append, radixNumber?, radixNumber?, span_extend rfl]
      split <;> rfl
  · rw [List.cons_append, radixNumber?_of_ne hc, radixNumber?_of_ne hc]
    rfl

lemma fraction?_extend :
    fraction? (cs ++ '(' :: x) = (fraction? cs).map (Cut.extend ('(' :: x)) := by
  rcases cs with _ | ⟨c, cs⟩
  · rfl
  by_cases hc : c = '.'
  · subst hc
    rcases cs with _ | ⟨d, cs⟩
    · rfl
    · rw [List.cons_append, List.cons_append, fraction?, fraction?, span_cons_extend rfl]
      split
      · rfl
      · split <;> rfl
  · rw [List.cons_append, fraction?_of_ne hc, fraction?_of_ne hc]
    rfl

lemma exponent?_extend :
    exponent? (cs ++ '(' :: x) = (exponent? cs).map (Cut.extend ('(' :: x)) := by
  rcases cs with _ | ⟨e, _ | ⟨s, cs⟩⟩
  · cases x <;> rfl
  · rw [List.singleton_append, exponent?]
    split <;> rfl
  · rw [List.cons_append, List.cons_append, exponent?, exponent?, nextIs_extend rfl,
      span_extend rfl, span_cons_extend rfl]
    split
    · split
      · split <;> rfl
      · split <;> rfl
    · rfl

/-- A part of a number that may be missing. -/
lemma optional_extend {part? : List Char → Option Cut}
    (hpart : part? (cs ++ '(' :: x) = (part? cs).map (Cut.extend ('(' :: x))) :
    optional part? (cs ++ '(' :: x) =
      ((optional part? cs).1, (optional part? cs).2.extend ('(' :: x)) := by
  rw [optional, optional, hpart]
  cases part? cs <;> rfl

lemma number_extend :
    number (cs ++ '(' :: x) = ((number cs).1, (number cs).2.extend ('(' :: x)) := by
  have hdecimal : decimalNumber (cs ++ '(' :: x) =
      ((decimalNumber cs).1, (decimalNumber cs).2.extend ('(' :: x)) := by
    rw [decimalNumber_eq, decimalNumber_eq]
    dsimp only
    rw [span_extend rfl]
    dsimp only [Cut.extend]
    rw [optional_extend fraction?_extend]
    dsimp only [Cut.extend]
    rw [optional_extend exponent?_extend]
    rfl
  rw [number, number, radixNumber?_extend, hdecimal]
  cases radixNumber? cs <;> rfl

/-! ### Names and operators -/

lemma name_extend : name (cs ++ '(' :: x) = (name cs).extend ('(' :: x) := by
  rw [name, name]
  induction cs with
  | nil => rfl
  | cons c cs ih =>
    have hgoes : continuesName (c :: (cs ++ '(' :: x)) = continuesName (c :: cs) := by
      rw [continuesName, continuesName, nextIs_extend (by decide)]
    rw [List.cons_append, Cut.before, Cut.before, hgoes, ih]
    split <;> rfl

lemma nameCategory_extend (context : Context) (text : List Char) :
    nameCategory context text (cs ++ '(' :: x) = nameCategory context text cs := by
  have hfollows : declaredNameFollows (cs ++ '(' :: x) = declaredNameFollows cs := by
    rw [declaredNameFollows, declaredNameFollows, nextIs_extend rfl, dropWhile_extend rfl,
      nextIs_extend (by decide), takeWhile_extend (by decide)]
  rw [nameCategory, nameCategory, wordCategory, wordCategory, hfollows]

/-- No operator has a bracket in it. -/
lemma operator?_extend : operator? (cs ++ '(' :: x) = operator? cs := by
  have hfree : ∀ op ∈ operators, '(' ∉ op.1.toList := by decide
  have hfilter : (operators.filter fun op => op.1.toList.isPrefixOf (cs ++ '(' :: x)) =
      operators.filter fun op => op.1.toList.isPrefixOf cs :=
    List.filter_congr fun op hop => isPrefixOf_extend (hfree op hop)
  rw [operator?, operator?, ← List.head?_filter, hfilter, List.head?_filter]

/-! ### Tags -/

lemma lineBreak?_extend :
    lineBreak? (cs ++ '(' :: x) = (lineBreak? cs).map (Cut.extend ('(' :: x)) := by
  rcases cs with _ | ⟨c, cs⟩
  · rfl
  · simp only [List.cons_append, lineBreak?_cons, head?_extend (show '\n' ≠ '(' by decide)]
    split
    · rfl
    · split
      · next hbreak =>
        obtain ⟨cs, rfl⟩ := List.head?_eq_some_iff.1 hbreak.2
        rfl
      · rfl

lemma closeTagEnd_extend : closeTagEnd (cs ++ '(' :: x) = (closeTagEnd cs).extend ('(' :: x) := by
  rw [closeTagEnd_eq, closeTagEnd_eq, lineBreak?_extend]
  cases lineBreak? cs <;> rfl

lemma openTagEnd?_extend (h : cs ≠ []) :
    openTagEnd? (cs ++ '(' :: x) = (openTagEnd? cs).map (Cut.extend ('(' :: x)) := by
  obtain ⟨c, cs, rfl⟩ := List.exists_cons_of_ne_nil h
  simp only [List.cons_append, openTagEnd?_cons, head?_extend (show '\n' ≠ '(' by decide)]
  split
  · next hbreak =>
    obtain ⟨cs, rfl⟩ := List.head?_eq_some_iff.1 hbreak.2
    rfl
  · split <;> rfl

/-- An open tag with something behind its five characters is read as before. -/
lemma openTag?_extend (h : 5 < cs.length) :
    openTag? (cs ++ '(' :: x) =
      (openTag? cs).map fun tag => (tag.1, tag.2.extend ('(' :: x)) := by
  by_cases hangle : ['<', '?'].isPrefixOf cs = true
  · obtain ⟨cs, rfl⟩ := List.isPrefixOf_iff_prefix.1 hangle
    have hlength : 3 < cs.length := by
      rw [List.length_append] at h
      exact Nat.lt_of_add_lt_add_left h
    have hbehind : cs.drop 3 ≠ [] := List.length_pos_iff.1 (by rw [List.length_drop]; omega)
    simp only [List.cons_append, List.nil_append, openTag?_angle,
      head?_extend (show '=' ≠ '(' by decide), List.take_append_of_le_length hlength.le,
      List.drop_append_of_le_length hlength.le, openTagEnd?_extend hbehind]
    split
    · next hecho =>
      obtain ⟨cs, rfl⟩ := List.head?_eq_some_iff.1 hecho
      rfl
    · split
      · cases openTagEnd? (cs.drop 3) <;> rfl
      · rfl
  · rw [openTag?_of_not_isPrefixOf hangle, openTag?_of_not_isPrefixOf]
    · rfl
    · rwa [isPrefixOf_extend (by decide)]

/-! ### Heredocs -/

lemma labelQuote_extend : labelQuote (cs ++ '(' :: x) = labelQuote cs := by
  rcases cs with _ | ⟨c, cs⟩
  · rfl
  · rw [List.cons_append, labelQuote_cons, labelQuote_cons]

lemma labelLine?_extend {quote : List Char} (hquote : '(' ∉ quote) (blanks : List Char) :
    labelLine? blanks quote (cs ++ '(' :: x) =
      (labelLine? blanks quote cs).map fun line => (line.1, line.2.extend ('(' :: x)) := by
  rw [labelLine?, labelLine?, takeWhile_extend (by decide), dropWhile_extend (by decide),
    isPrefixOf_extend hquote]
  split
  · next hlabel =>
    have hclosed := (Bool.and_eq_true_iff.1 hlabel).2
    have hle := (List.isPrefixOf_iff_prefix.1 hclosed).length_le
    rw [List.drop_append_of_le_length hle, lineBreak?_extend]
    cases lineBreak? ((cs.dropWhile isNameChar).drop quote.length) <;> rfl
  · rfl

lemma heredocOpener?_extend :
    heredocOpener? (cs ++ '(' :: x) =
      (heredocOpener? cs).map fun line => (line.1, line.2.extend ('(' :: x)) := by
  by_cases hangles : ['<', '<', '<'].isPrefixOf cs = true
  · obtain ⟨cs, rfl⟩ := List.isPrefixOf_iff_prefix.1 hangles
    have hquote : ∀ cs, '(' ∉ labelQuote cs := by
      intro cs
      unfold labelQuote
      split <;> decide
    have hle : ∀ cs, (labelQuote cs).length ≤ cs.length := by
      intro cs
      have hlength := congrArg List.length (labelQuote_append_drop cs)
      rw [List.length_append] at hlength
      omega
    simp only [List.cons_append, List.nil_append, heredocOpener?_angles]
    rw [span_extend rfl]
    dsimp only [Cut.extend]
    rw [labelQuote_extend, List.drop_append_of_le_length (hle _), labelLine?_extend (hquote _)]
    rfl
  · rw [heredocOpener?_of_not_isPrefixOf hangles, heredocOpener?_of_not_isPrefixOf]
    · rfl
    · rwa [isPrefixOf_extend (by decide)]

lemma closesHeredoc_extend (hlabel : '(' ∉ label) :
    closesHeredoc label (cs ++ '(' :: x) = closesHeredoc label cs := by
  rw [closesHeredoc, closesHeredoc, dropWhile_extend rfl, isPrefixOf_extend hlabel]
  by_cases hstarts : label.isPrefixOf (cs.dropWhile isBlank) = true
  · have hle := (List.isPrefixOf_iff_prefix.1 hstarts).length_le
    rw [List.drop_append_of_le_length hle, nextIs_extend (by decide)]
  · simp [hstarts]

lemma heredocBody_extend {lineStarts : Bool} (hlabel : '(' ∉ label)
    (h : (heredocBody label lineStarts cs).rest ≠ []) :
    heredocBody label lineStarts (cs ++ '(' :: x) =
      (heredocBody label lineStarts cs).extend ('(' :: x) := by
  induction cs generalizing lineStarts with
  | nil => exact absurd rfl h
  | cons c cs ih =>
    rw [heredocBody] at h
    rw [List.cons_append, heredocBody, heredocBody, span_cons_extend rfl, ← List.cons_append,
      closesHeredoc_extend hlabel]
    split at h
    · next hhere => rw [if_pos hhere, if_pos hhere]
    · next hlater =>
      rw [if_neg hlater, if_neg hlater, ih h]
      rfl

/-! ### Steps -/

variable {s s' t t' : Step} {k k' : Cut}

/-- The second step reads the longer source as the first one reads the shorter one, if that one
leaves enough. -/
def StepExtends (x : List Char) (s s' : Step) : Prop :=
  5 < s.rest.length → s' = s.extend ('(' :: x)

lemma stepExtends_read (h : k.rest ≠ [] → k' = k.extend ('(' :: x)) (category : Category)
    (mode : Mode) : StepExtends x (.read category k mode) (.read category k' mode) := by
  intro hlong
  rw [h (List.length_pos_iff.1 (Nat.zero_lt_of_lt hlong)), Step.extend_read]

lemma stepExtends_push (h : k.rest ≠ [] → k' = k.extend ('(' :: x)) (category : Category)
    (mode : Mode) (c : Char) :
    StepExtends x (.read category (k.push c) mode) (.read category (k'.push c) mode) := by
  refine stepExtends_read ?_ category mode
  intro hrest
  rw [h hrest, Cut.extend_push]

lemma stepExtends_prepend (h : k.rest ≠ [] → k' = k.extend ('(' :: x)) (category : Category)
    (mode : Mode) (text : List Char) :
    StepExtends x (.read category (k.prepend text) mode)
      (.read category (k'.prepend text) mode) := by
  refine stepExtends_read ?_ category mode
  intro hrest
  rw [h hrest, Cut.extend_prepend]

lemma StepExtends.ite {q : Prop} [Decidable q] (hpos : q → StepExtends x s s')
    (hneg : ¬q → StepExtends x t t') :
    StepExtends x (if q then s else t) (if q then s' else t') := by
  by_cases hq : q
  · rw [if_pos hq, if_pos hq]
    exact hpos hq
  · rw [if_neg hq, if_neg hq]
    exact hneg hq

lemma stepMarkup_extend (c : Char) (cs : List Char) :
    StepExtends x (stepMarkup (c :: cs)) (stepMarkup (c :: (cs ++ '(' :: x))) := by
  intro hlong
  have hle : (stepMarkup (c :: cs)).rest.length ≤ cs.length := step_rest_length_le .markup c cs
  have hlength : 5 < (c :: cs).length := Nat.lt_succ_of_lt (Nat.lt_of_lt_of_le hlong hle)
  have htag := openTag?_extend (x := x) hlength
  rw [List.cons_append] at htag
  rw [stepMarkup] at hlong ⊢
  rw [stepMarkup, htag]
  cases hcase : openTag? (c :: cs) with
  | some tag => rfl
  | none =>
    rw [hcase] at hlong
    have hstop : ∀ d ds, 5 ≤ ds.length →
        (openTag? (d :: (ds ++ '(' :: x))).isSome = (openTag? (d :: ds)).isSome := by
      intro d ds hds
      have hlength : 5 < (d :: ds).length := Nat.lt_succ_of_le hds
      rw [← List.cons_append, openTag?_extend hlength, Option.isSome_map]
    have hcut := before_extend hstop hlong
    rw [List.cons_append] at hcut
    exact congrArg (Step.read .inlineHtml · .markup) hcut

lemma stepName_extend (context : Context) :
    stepName context (cs ++ '(' :: x) = (stepName context cs).extend ('(' :: x) := by
  rw [stepName, stepName, name_extend, Step.extend_read]
  dsimp only [Cut.extend]
  rw [nameCategory_extend]

lemma stepNumber_extend :
    stepNumber (cs ++ '(' :: x) = (stepNumber cs).extend ('(' :: x) := by
  rw [stepNumber, number_extend]
  rfl

lemma stepBlockComment_extend (context : Context) (hstar : cs.head? = some '*') :
    StepExtends x (stepBlockComment context (c :: cs))
      (stepBlockComment context (c :: (cs ++ '(' :: x))) := by
  obtain ⟨cs, rfl⟩ := List.head?_eq_some_iff.1 hstar
  rw [stepBlockComment, stepBlockComment, ← List.cons_append, isDocComment_extend]
  exact stepExtends_prepend throughStarSlash_extend _ _ [c, '*']

lemma stepOperator_extend (context : Context) (c : Char) (cs : List Char) :
    StepExtends x (stepOperator context c cs) (stepOperator context c (cs ++ '(' :: x)) := by
  rw [stepOperator, stepOperator, ← List.cons_append, operator?_extend]
  cases operator? (c :: cs) with
  | none => exact fun _ => rfl
  | some op =>
    refine stepExtends_read ?_ _ _
    intro hrest
    have hlt := List.length_pos_iff.2 hrest
    rw [List.length_drop] at hlt
    rw [List.drop_append_of_le_length (Nat.le_of_lt (Nat.lt_of_sub_pos hlt))]
    rfl

lemma stepToken_extend (context : Context) (c : Char) (cs : List Char) :
    StepExtends x (stepToken context c cs) (stepToken context c (cs ++ '(' :: x)) := by
  have hnumber : startsNumber c (cs ++ '(' :: x) = startsNumber c cs := by
    rw [startsNumber, startsNumber, nextIs_extend rfl]
  have hname : startsName c (cs ++ '(' :: x) = startsName c cs := by
    rw [startsName, startsName, nextIs_extend (by decide)]
  rw [stepToken, stepToken, hnumber, hname, nextIs_extend (by decide)]
  simp only [head?_extend (show '[' ≠ '(' by decide), head?_extend (show '/' ≠ '(' by decide),
    head?_extend (show '*' ≠ '(' by decide)]
  refine .ite (fun hattribute => ?_) fun _ => ?_
  · obtain ⟨cs, rfl⟩ := List.head?_eq_some_iff.1 hattribute.2
    exact fun _ => rfl
  refine .ite (fun _ => stepExtends_push lineComment_extend _ _ c) fun _ => ?_
  refine .ite (fun hblock => stepBlockComment_extend context hblock.2) fun _ => ?_
  refine .ite (fun _ => ?_) fun _ => ?_
  · exact stepExtends_push (fun _ => span_extend (by decide)) _ _ c
  refine .ite (fun _ => stepExtends_push throughQuote_extend _ _ c) fun _ => ?_
  refine .ite (fun _ _ => rfl) fun _ => ?_
  refine .ite (fun _ _ => ?_) fun _ => ?_
  · rw [← List.cons_append, stepNumber_extend]
  refine .ite (fun _ _ => ?_) fun _ => ?_
  · rw [← List.cons_append, stepName_extend]
  exact .ite (fun _ _ => rfl) fun _ => stepOperator_extend context c cs

lemma stepCode_extend (context : Context) (c : Char) (cs : List Char) :
    StepExtends x (stepCode context c cs) (stepCode context c (cs ++ '(' :: x)) := by
  rw [stepCode, stepCode, ← List.cons_append, heredocOpener?_extend]
  simp only [head?_extend (show '>' ≠ '(' by decide)]
  refine .ite (fun hclose => ?_) fun _ => ?_
  · obtain ⟨cs, rfl⟩ := List.head?_eq_some_iff.1 hclose.2
    exact stepExtends_prepend (fun _ => closeTagEnd_extend) _ _ [c, '>']
  refine .ite (fun _ => stepExtends_read (fun _ => span_cons_extend rfl) _ _) fun _ => ?_
  cases heredocOpener? (c :: cs) with
  | none => exact stepToken_extend context c cs
  | some opener => exact fun _ => rfl

lemma stepShell_extend (c : Char) (cs : List Char) :
    StepExtends x (stepShell c cs) (stepShell c (cs ++ '(' :: x)) := by
  rw [stepShell, stepShell]
  refine .ite (fun _ _ => rfl) fun _ => stepExtends_read (fun h => ?_) _ _
  rw [← List.cons_append, shellCommand_extend h]

lemma stepHeredoc_extend (hlabel : '(' ∉ label) (c : Char) (cs : List Char) :
    StepExtends x (stepHeredoc label c cs) (stepHeredoc label c (cs ++ '(' :: x)) := by
  have hbody : (heredocBody label true (c :: cs)).rest ≠ [] →
      heredocBody label true (c :: (cs ++ '(' :: x)) =
        (heredocBody label true (c :: cs)).extend ('(' :: x) := by
    intro hrest
    rw [← List.cons_append, heredocBody_extend hlabel hrest]
  rw [stepHeredoc, stepHeredoc]
  by_cases hempty : (heredocBody label true (c :: cs)).text = []
  · -- the body is empty, and the label is all that is read
    have hrest : (heredocBody label true (c :: cs)).rest ≠ [] := by
      intro hnil
      have hwhole := whole_heredocBody label true (c :: cs)
      rw [Cut.whole, hempty, hnil] at hwhole
      cases hwhole
    rw [hbody hrest]
    refine .ite (fun _ => stepExtends_read (fun hleft => ?_) _ _) fun hne => absurd hempty hne
    have hlt := List.length_pos_iff.2 hleft
    rw [List.length_drop] at hlt
    have hle := Nat.le_of_lt (Nat.lt_of_sub_pos hlt)
    rw [List.take_append_of_le_length hle, List.drop_append_of_le_length hle]
    rfl
  · intro hlong
    rw [if_neg hempty] at hlong ⊢
    have hrest := List.length_pos_iff.1 (Nat.zero_lt_of_lt hlong)
    have hempty' : ¬((heredocBody label true (c :: cs)).extend ('(' :: x)).text = [] := hempty
    rw [hbody hrest, if_neg hempty']
    rfl

/-- A step that leaves enough of its source reads the same token if the source goes on. -/
lemma step_extend {mode : Mode} (hmode : LabelFree '(' mode) (c : Char) (cs : List Char) :
    StepExtends x (step mode c cs) (step mode c (cs ++ '(' :: x)) := by
  cases mode with
  | markup => exact stepMarkup_extend c cs
  | code context => exact stepCode_extend context c cs
  | shell => exact stepShell_extend c cs
  | heredoc label => exact stepHeredoc_extend (hmode label rfl) c cs
  | data => exact fun hlong => absurd hlong (Nat.not_lt_zero 5)

/-! ### Runs -/

/-- A run that leaves enough of its source reads the same tokens if the source goes on. -/
lemma Reads.extend {mode mode' : Mode} {rest : List Char} {front : List RawToken}
    (h : Reads mode cs front mode' rest) (hmode : LabelFree '(' mode) (hlong : 5 < rest.length) :
    Reads mode (cs ++ '(' :: x) front mode' (rest ++ '(' :: x) := by
  induction h with
  | stay => exact .stay _ _
  | @step mode mode' c cs rest front next ih =>
    have hstep : Lexer.step mode c (cs ++ '(' :: x) = (Lexer.step mode c cs).extend ('(' :: x) :=
      step_extend hmode c cs (Nat.lt_of_lt_of_le hlong next.length_rest_le)
    have hnext := ih (labelFree_step (by decide) hmode) hlong
    have hgoes : Reads mode (c :: (cs ++ '(' :: x))
        ((Lexer.step mode c (cs ++ '(' :: x)).token :: front) mode' (rest ++ '(' :: x) := by
      apply Reads.step
      rw [hstep]
      exact hnext
    rwa [hstep] at hgoes

end Extension

/-! ### Data behind the word that halts the compiler -/

section Halt

variable {c : Char} {rest x : List Char} {context : Context} {word : String}

/-- The word that halts the compiler is longer than an open tag. -/
lemma length_of_wordCategory {word : List Char}
    (h : wordCategory context word rest = .kwHaltCompiler) : 5 < word.length := by
  have hall : ∀ p ∈ reservedWords, p.2 = .kwHaltCompiler → 5 < p.1.toList.length := by decide
  unfold wordCategory at h
  split at h
  · cases h
  split at h
  · cases h
  cases hreserved : reserved? word with
  | none =>
    rw [hreserved] at h
    cases h
  | some category =>
    rw [hreserved, Option.getD_some] at h
    subst h
    obtain ⟨before, after, hsplit, -⟩ := List.lookup_eq_some_iff.1 hreserved
    have hlength := hall (String.ofList (Text.lower word), .kwHaltCompiler) (by simp [hsplit]) rfl
    rwa [String.toList_ofList, Text.lower, List.length_map] at hlength

/-- The word at the end of a source is followed by the data, which are one token. -/
lemma tokensFrom_halt (hstart : isNameStart c = true)
    (htoken : (stepCode context c rest).token = .named .kwHaltCompiler word)
    (hmode : (stepCode context c rest).mode = .data) (hend : (stepCode context c rest).rest = []) :
    tokensFrom (.code context) (c :: (rest ++ '(' :: x)) =
      [.named .kwHaltCompiler word, .named .inlineHtml (String.ofList ('(' :: x))] := by
  have hstep : step (.code context) c (rest ++ '(' :: x) =
      (stepCode context c rest).extend ('(' :: x) := by
    rw [step, stepCode_of_isNameStart context _ hstart, stepCode_of_isNameStart context _ hstart,
      ← List.cons_append, stepName_extend]
  rw [tokensFrom_cons, hstep, Step.extend, htoken, hmode, hend, List.nil_append, tokensFrom_cons,
    step, Step.read, tokensFrom_nil]

/-- Let the last token of a source be the word that halts the compiler.  Then the tokens of the
source with data behind it are those of the source and the data. -/
lemma tokenize_append_of_halt {source data : String}
    (hhalt : (tokenize source).getLast? = some (.named .kwHaltCompiler word))
    (hdata : data.toList.head? = some '(') :
    tokenize (source ++ data) = tokenize source ++ [.named .inlineHtml data] := by
  obtain ⟨front, hfront⟩ := List.getLast?_eq_some_iff.1 hhalt
  obtain ⟨x, hx⟩ := List.head?_eq_some_iff.1 hdata
  obtain ⟨mode, c, rest, hreads, htoken, hback⟩ := exists_step hfront
  have hword : isWordCategory .kwHaltCompiler = true := by decide
  obtain ⟨context, rfl, hcategory, hmode⟩ := wordCategory_of_step htoken hword
  have hend := eq_nil_of_tokensFrom hback
  -- the word is all that the run before it leaves
  have hwhole := (step_lossless (.code context) c rest).1
  rw [Step.whole, htoken, hend, List.append_nil] at hwhole
  have hlong : 5 < (c :: rest).length := by
    rw [← hwhole]
    exact length_of_wordCategory hcategory.symm
  have hlonger : Reads .markup (source.toList ++ '(' :: x) front (.code context)
      (c :: (rest ++ '(' :: x)) := by
    refine hreads.extend ?_ hlong
    intro label hlabel
    cases hlabel
  have hstart := isNameStart_of_isWordCategory htoken hword
  rw [tokenize, String.toList_append, hx, hlonger.tokensFrom_eq,
    tokensFrom_halt hstart htoken hmode hend, ← hx, String.ofList_toList, hfront, List.append_assoc]
  rfl

end Halt

end PhpOutline.Lexer
