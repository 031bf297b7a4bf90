import PhpOutline.Lexer.Charset
import PhpOutline.Lexer.Cut

/-!
# Comments, strings, numbers and heredocs

Where the lexemes end that are not words or operators.  A lexeme that is not closed runs to the
end of the source.
-/

namespace PhpOutline.Lexer

/-! ### Comments -/

/-- A line comment ends before a line break or a close tag. -/
def endsLineComment : List Char → Bool
  | '\n' :: _ | '\r' :: _ | '?' :: '>' :: _ => true
  | _ => false

/-- Cuts behind a line comment. -/
def lineComment (cs : List Char) : Cut := Cut.before endsLineComment cs

/-- Cuts behind the first star and slash. -/
def throughStarSlash : List Char → Cut
  | '*' :: '/' :: cs => ⟨['*', '/'], cs⟩
  | c :: cs => (throughStarSlash cs).push c
  | [] => ⟨[], []⟩

/-- A block comment documents a declaration if white space follows its two stars. -/
def isDocComment : List Char → Bool
  | '/' :: '*' :: '*' :: c :: _ => isSpace c
  | _ => false

@[simp] theorem whole_throughStarSlash (cs : List Char) : (throughStarSlash cs).whole = cs := by
  fun_induction throughStarSlash cs with
  | case1 => rfl
  | case2 c cs _ ih => simp [ih]
  | case3 => rfl

/-! ### Strings -/

/-- Cuts behind the first quote that no backslash escapes. -/
def throughQuote (quote : Char) : List Char → Cut
  | '\\' :: c :: cs => (throughQuote quote cs).prepend ['\\', c]
  | c :: cs => if c = quote then ⟨[c], cs⟩ else (throughQuote quote cs).push c
  | [] => ⟨[], []⟩

/-- Cuts before the first backtick that no backslash escapes. -/
def shellCommand : List Char → Cut
  | '\\' :: c :: cs => (shellCommand cs).prepend ['\\', c]
  | c :: cs => if c = '\x60' then ⟨[], c :: cs⟩ else (shellCommand cs).push c
  | [] => ⟨[], []⟩

@[simp] theorem whole_throughQuote (quote : Char) (cs : List Char) :
    (throughQuote quote cs).whole = cs := by
  fun_induction throughQuote quote cs with
  | case1 c cs ih => simp [ih]
  | case2 cs => rfl
  | case3 c cs _ _ ih => simp [ih]
  | case4 => rfl

@[simp] theorem whole_shellCommand (cs : List Char) : (shellCommand cs).whole = cs := by
  fun_induction shellCommand cs with
  | case1 c cs ih => simp [ih]
  | case2 cs => rfl
  | case3 c cs _ _ ih => simp [ih]
  | case4 => rfl

theorem text_shellCommand_ne_nil {c : Char} (cs : List Char) (h : c ≠ '\x60') :
    (shellCommand (c :: cs)).text ≠ [] := by
  rw [shellCommand.eq_def]
  split
  · simp [Cut.prepend]
  · next heq => cases heq; simp [h, Cut.push]
  · next heq => cases heq

/-! ### Numbers -/

/-- Hexadecimal, binary and octal numbers start with a zero and a letter. -/
def radixNumber? : List Char → Option Cut
  | '0' :: x :: cs =>
    if x ∈ ['x', 'X', 'b', 'B', 'o', 'O'] then
      some ((Cut.span isHexDigitOrMark cs).prepend ['0', x])
    else none
  | _ => none

/-- The fraction of a decimal number.  A point with no digit behind it counts, unless it starts
another point or a concatenating assignment. -/
def fraction? : List Char → Option Cut
  | '.' :: d :: cs =>
    if d.isDigit then some ((Cut.span isDigitOrMark (d :: cs)).push '.')
    else if d = '.' ∨ d = '=' then none
    else some ⟨['.'], d :: cs⟩
  | ['.'] => some ⟨['.'], []⟩
  | _ => none

/-- The exponent of a decimal number: a letter, perhaps a sign, and at least one digit. -/
def exponent? : List Char → Option Cut
  | e :: s :: cs =>
    if e = 'e' ∨ e = 'E' then
      if s = '+' ∨ s = '-' then
        if nextIs Char.isDigit cs then some ((Cut.span Char.isDigit cs).prepend [e, s]) else none
      else if s.isDigit then some ((Cut.span Char.isDigit (s :: cs)).push e)
      else none
    else none
  | _ => none

theorem whole_of_radixNumber? {cs : List Char} {k : Cut} (h : radixNumber? cs = some k) :
    k.whole = cs := by
  unfold radixNumber? at h
  split at h
  · split at h
    · cases h; simp
    · cases h
  · cases h

theorem whole_of_fraction? {cs : List Char} {k : Cut} (h : fraction? cs = some k) :
    k.whole = cs := by
  unfold fraction? at h
  split at h
  · split at h
    · cases h; simp
    · split at h
      · cases h
      · cases h; rfl
  · cases h; rfl
  · cases h

theorem whole_of_exponent? {cs : List Char} {k : Cut} (h : exponent? cs = some k) :
    k.whole = cs := by
  unfold exponent? at h
  split at h
  · split at h
    · split at h
      · split at h
        · cases h; simp
        · cases h
      · split at h
        · cases h; simp
        · cases h
    · cases h
  · cases h

/-- A part of a number that may be missing, with the note whether it is there. -/
def optional (part? : List Char → Option Cut) (cs : List Char) : Bool × Cut :=
  match part? cs with
  | some k => (true, k)
  | none => (false, ⟨[], cs⟩)

theorem whole_optional {part? : List Char → Option Cut}
    (hpart : ∀ cs k, part? cs = some k → k.whole = cs) (cs : List Char) :
    (optional part? cs).2.whole = cs := by
  unfold optional
  split
  · next k h => exact hpart cs k h
  · rfl

/-- Cuts behind a decimal number and says whether it is a floating point number: one with a
fraction or an exponent. -/
def decimalNumber (cs : List Char) : Bool × Cut :=
  let whole := Cut.span isDigitOrMark cs
  let (hasFraction, fraction) := optional fraction? whole.rest
  let (hasExponent, exponent) := optional exponent? fraction.rest
  (hasFraction || hasExponent, exponent.prepend (whole.text ++ fraction.text))

/-- Cuts behind a number and says whether it is a floating point number. -/
def number (cs : List Char) : Bool × Cut :=
  match radixNumber? cs with
  | some k => (false, k)
  | none => decimalNumber cs

theorem whole_decimalNumber (cs : List Char) : (decimalNumber cs).2.whole = cs := by
  have hfraction : ∀ ds, (optional fraction? ds).2.whole = ds :=
    whole_optional fun _ _ => whole_of_fraction?
  have hexponent : ∀ ds, (optional exponent? ds).2.whole = ds :=
    whole_optional fun _ _ => whole_of_exponent?
  calc (decimalNumber cs).2.whole
      = (Cut.span isDigitOrMark cs).text ++
          (optional fraction? (Cut.span isDigitOrMark cs).rest).2.whole := by
        rw [decimalNumber, Cut.whole_prepend, hexponent, List.append_assoc]; rfl
    _ = cs := by rw [hfraction]; exact Cut.whole_span _ _

@[simp] theorem whole_number (cs : List Char) : (number cs).2.whole = cs := by
  unfold number
  split
  · next k h => exact whole_of_radixNumber? h
  · exact whole_decimalNumber cs

/-- A number starts with a digit, or with a point and a digit. -/
def startsNumber (c : Char) (cs : List Char) : Bool :=
  c.isDigit || (c == '.' && nextIs Char.isDigit cs)

theorem text_number_ne_nil {c : Char} {cs : List Char} (h : startsNumber c cs = true) :
    (number (c :: cs)).2.text ≠ [] := by
  unfold number
  split
  · next k hk =>
    unfold radixNumber? at hk
    split at hk
    · split at hk <;> cases hk; simp
    · cases hk
  · simp only [startsNumber, Bool.or_eq_true, Bool.and_eq_true, beq_iff_eq] at h
    rcases h with hdigit | ⟨rfl, hnext⟩
    · simp [decimalNumber, Cut.span, isDigitOrMark, hdigit]
    · cases cs with
      | nil => simp [nextIs] at hnext
      | cons d ds =>
        have hd : d.isDigit = true := by simpa [nextIs] using hnext
        have hpoint : isDigitOrMark '.' = false := by decide
        simp [decimalNumber, Cut.span, optional, fraction?, hd, hpoint]

/-! ### Heredocs -/

/-- The line break that ends the opening line of a heredoc. -/
def lineBreak? : List Char → Option Cut
  | '\n' :: cs => some ⟨['\n'], cs⟩
  | '\r' :: '\n' :: cs => some ⟨['\r', '\n'], cs⟩
  | _ => none

theorem whole_of_lineBreak? {cs : List Char} {k : Cut} (h : lineBreak? cs = some k) :
    k.whole = cs := by
  unfold lineBreak? at h
  split at h <;> cases h <;> rfl

/-- The quote around the label of a heredoc, if there is one. -/
def labelQuote : List Char → List Char
  | '\'' :: _ => ['\'']
  | '"' :: _ => ['"']
  | _ => []

theorem labelQuote_append_drop (cs : List Char) :
    labelQuote cs ++ cs.drop (labelQuote cs).length = cs := by
  unfold labelQuote
  split <;> rfl

/-- The label of a heredoc and the cut behind its opening line: three angle brackets, blanks, the
label, perhaps between quotes, and a line break. -/
def heredocOpener? : List Char → Option (List Char × Cut)
  | '<' :: '<' :: '<' :: cs =>
    let blanks := Cut.span isBlank cs
    let quote := labelQuote blanks.rest
    let label := Cut.span isNameChar (blanks.rest.drop quote.length)
    if nextIs isNameStart label.text && quote.isPrefixOf label.rest then
      (lineBreak? (label.rest.drop quote.length)).map fun lineEnd =>
        (label.text,
          lineEnd.prepend (['<', '<', '<'] ++ blanks.text ++ quote ++ label.text ++ quote))
    else none
  | _ => none

theorem whole_of_heredocOpener? {cs label : List Char} {k : Cut}
    (h : heredocOpener? cs = some (label, k)) : k.whole = cs := by
  unfold heredocOpener? at h
  split at h
  · next ds =>
    simp only at h
    split at h
    · next hlabel =>
      obtain ⟨lineEnd, hline, heq⟩ := Option.map_eq_some_iff.1 h
      obtain ⟨tail, htail⟩ := List.isPrefixOf_iff_prefix.1 (Bool.and_eq_true_iff.1 hlabel).2
      simp only [Prod.mk.injEq] at heq
      obtain ⟨_, rfl⟩ := heq
      rw [← htail, List.drop_left] at hline
      rw [Cut.whole_prepend, whole_of_lineBreak? hline]
      have hrest := Cut.whole_span isNameChar
        ((Cut.span isBlank ds).rest.drop (labelQuote (Cut.span isBlank ds).rest).length)
      rw [Cut.whole, ← htail] at hrest
      have hds := Cut.whole_span isBlank ds
      rw [Cut.whole, ← labelQuote_append_drop (Cut.span isBlank ds).rest] at hds
      simp only [List.append_assoc, List.cons_append, List.nil_append]
      rw [hrest, hds]
    · cases h
  · cases h

theorem text_of_heredocOpener?_ne_nil {cs label : List Char} {k : Cut}
    (h : heredocOpener? cs = some (label, k)) : k.text ≠ [] := by
  unfold heredocOpener? at h
  split at h
  · simp only at h
    split at h
    · obtain ⟨lineEnd, _, heq⟩ := Option.map_eq_some_iff.1 h
      cases heq
      simp
    · cases h
  · cases h

/-- A line closes a heredoc if it starts, after blanks, with the label and no longer word. -/
def closesHeredoc (label line : List Char) : Bool :=
  let text := line.dropWhile isBlank
  label.isPrefixOf text && !nextIs isNameChar (text.drop label.length)

/-- Cuts before the label that closes a heredoc.  The flag says that a line starts here. -/
def heredocBody (label : List Char) : Bool → List Char → Cut
  | _, [] => ⟨[], []⟩
  | lineStarts, c :: cs =>
    if lineStarts && closesHeredoc label (c :: cs) then Cut.span isBlank (c :: cs)
    else (heredocBody label (c == '\n') cs).push c

@[simp] theorem whole_heredocBody (label : List Char) (lineStarts : Bool) (cs : List Char) :
    (heredocBody label lineStarts cs).whole = cs := by
  fun_induction heredocBody label lineStarts cs with
  | case1 => rfl
  | case2 => simp
  | case3 lineStarts c cs _ ih => simp [ih]

end PhpOutline.Lexer
