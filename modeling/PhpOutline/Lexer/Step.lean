import PhpOutline.Lexer.Literal
import PhpOutline.Lexer.Operator
import PhpOutline.Lexer.Word
import PhpOutline.Token.Basic

/-!
# One step of the lexer

The lexer is a machine that reads one token at a time.  Its `Mode` says what the source is at this
place: markup, code, or the inside of a literal that is split into several tokens.  `step` reads
the next token of a source that is not empty.  The main fact is that the text of the token and the
rest make up the source and that the text is not empty (`step_lossless`), so that the source gets
shorter with every step.
-/

namespace PhpOutline.Lexer

/-- What the source is at the place that the lexer has reached. -/
inductive Mode
  /-- Text outside the tags. -/
  | markup
  /-- Code between an open tag and a close tag. -/
  | code (context : Context)
  /-- The inside of a shell command, between backticks. -/
  | shell
  /-- The inside of a heredoc, up to its label. -/
  | heredoc (label : List Char)
  /-- Data behind the word that halts the compiler. -/
  | data
deriving DecidableEq, Inhabited

/-- A token, the mode behind it and the rest of the source. -/
structure Step where
  token : RawToken
  mode : Mode
  rest : List Char

/-- The step that reads the text of a cut under a category. -/
def Step.read (category : Category) (k : Cut) (mode : Mode) : Step :=
  ⟨.named category (String.ofList k.text), mode, k.rest⟩

/-- The step that reads one punctuation character. -/
def Step.punctuation (c : Char) (rest : List Char) (mode : Mode) : Step :=
  ⟨.punctuation c, mode, rest⟩

/-- The source that a step reads. -/
def Step.whole (s : Step) : List Char := s.token.text.toList ++ s.rest

@[simp] theorem Step.whole_read (category : Category) (k : Cut) (mode : Mode) :
    (Step.read category k mode).whole = k.whole := by
  simp [Step.read, Step.whole, RawToken.text, Cut.whole]

@[simp] theorem Step.whole_punctuation (c : Char) (rest : List Char) (mode : Mode) :
    (Step.punctuation c rest mode).whole = c :: rest := by
  simp [Step.punctuation, Step.whole, RawToken.text, Char.toString]

/-- The text of the token is not empty. -/
def Step.Advances (s : Step) : Prop := s.token.text.toList ≠ []

@[simp] theorem Step.advances_read (category : Category) (k : Cut) (mode : Mode) :
    (Step.read category k mode).Advances ↔ k.text ≠ [] := by
  simp [Step.read, Step.Advances, RawToken.text]

@[simp] theorem Step.advances_punctuation (c : Char) (rest : List Char) (mode : Mode) :
    (Step.punctuation c rest mode).Advances := by
  simp [Step.punctuation, Step.Advances, RawToken.text, Char.toString]

/-! ### Markup -/

/-- What an open tag takes with it: nothing at the end of the source, else one line break or
one character of white space. -/
def openTagEnd? : List Char → Option Cut
  | [] => some ⟨[], []⟩
  | '\r' :: '\n' :: cs => some ⟨['\r', '\n'], cs⟩
  | c :: cs => if isSpace c then some ⟨[c], cs⟩ else none

/-- The open tag that starts the source, if there is one. -/
def openTag? : List Char → Option (Category × Cut)
  | '<' :: '?' :: '=' :: cs => some (.openTagWithEcho, ⟨['<', '?', '='], cs⟩)
  | '<' :: '?' :: p :: h :: q :: cs =>
    if isWord "php" [p, h, q] then
      (openTagEnd? cs).map fun k => (.openTag, k.prepend ['<', '?', p, h, q])
    else none
  | _ => none

/-- Reads an open tag, or the text before the next one. -/
def stepMarkup (cs : List Char) : Step :=
  match openTag? cs with
  | some (category, k) => .read category k (.code .plain)
  | none => .read .inlineHtml (Cut.before (fun rest => (openTag? rest).isSome) cs) .markup

theorem whole_of_openTagEnd? {cs : List Char} {k : Cut} (h : openTagEnd? cs = some k) :
    k.whole = cs := by
  unfold openTagEnd? at h
  split at h
  · cases h; rfl
  · cases h; rfl
  · split at h <;> cases h; rfl

theorem whole_of_openTag? {cs : List Char} {category : Category} {k : Cut}
    (h : openTag? cs = some (category, k)) : k.whole = cs ∧ k.text ≠ [] := by
  unfold openTag? at h
  split at h
  · cases h; exact ⟨rfl, by simp⟩
  · split at h
    · obtain ⟨e, he, heq⟩ := Option.map_eq_some_iff.1 h
      cases heq
      simp [whole_of_openTagEnd? he]
    · cases h
  · cases h

theorem stepMarkup_lossless (c : Char) (cs : List Char) :
    (stepMarkup (c :: cs)).whole = c :: cs ∧ (stepMarkup (c :: cs)).Advances := by
  unfold stepMarkup
  split
  · next h => simpa using whole_of_openTag? h
  · next h => simp [Cut.text_before_ne_nil, h]

/-! ### Code -/

/-- A close tag takes one line break with it. -/
def closeTagEnd : List Char → Cut
  | '\r' :: '\n' :: cs => ⟨['\r', '\n'], cs⟩
  | '\n' :: cs => ⟨['\n'], cs⟩
  | cs => ⟨[], cs⟩

/-- The mode behind a word or a name. -/
def modeAfterName : Category → Mode
  | .kwFunction => .code .functionName
  | .kwHaltCompiler => .data
  | _ => .code .plain

/-- Reads a word or a name. -/
def stepName (context : Context) (cs : List Char) : Step :=
  let k := name cs
  let category := nameCategory context k.text k.rest
  .read category k (modeAfterName category)

/-- The context behind an operator. -/
def contextAfterOperator : Category → Context
  | .objectOperator | .nullsafeObjectOperator => .member
  | .doubleColon => .staticMember
  | _ => .plain

/-- The context behind a punctuation character: the `&` of a reference leaves the name of a
function to come. -/
def contextAfterPunctuation (context : Context) (c : Char) : Context :=
  if c = '&' ∧ context = .functionName then .functionName else .plain

/-- Reads an operator or a single punctuation character. -/
def stepOperator (context : Context) (c : Char) (cs : List Char) : Step :=
  match operator? (c :: cs) with
  | some (op, category) =>
    .read category ⟨op.toList, (c :: cs).drop op.toList.length⟩
      (.code (contextAfterOperator category))
  | none => .punctuation c cs (.code (contextAfterPunctuation context c))

/-- Reads a comment that starts with a slash and a star. -/
def stepBlockComment (context : Context) (cs : List Char) : Step :=
  .read (if isDocComment cs then .docComment else .comment)
    ((throughStarSlash (cs.drop 2)).prepend (cs.take 2)) (.code context)

/-- Reads a number. -/
def stepNumber (cs : List Char) : Step :=
  let (isFloat, k) := number cs
  .read (if isFloat then .dnumber else .lnumber) k (.code .plain)

/-- Reads the next token of code that is not a heredoc, a close tag or white space. -/
def stepToken (context : Context) (c : Char) (cs : List Char) : Step :=
  if c = '#' ∧ cs.head? = some '[' then
    .read .attributeOpen ⟨[c, '['], cs.tail⟩ (.code .plain)
  else if c = '#' ∨ (c = '/' ∧ cs.head? = some '/') then
    .read .comment ((lineComment cs).push c) (.code context)
  else if c = '/' ∧ cs.head? = some '*' then
    stepBlockComment context (c :: cs)
  else if c = '$' ∧ nextIs isNameStart cs then
    .read .variableName ((Cut.span isNameChar cs).push c) (.code .plain)
  else if c = '\'' ∨ c = '"' then
    .read .constantEncapsedString ((throughQuote c cs).push c) (.code .plain)
  else if c = '\x60' then
    .punctuation c cs .shell
  else if startsNumber c cs then
    stepNumber (c :: cs)
  else if startsName c cs then
    stepName context (c :: cs)
  else if c = '\\' then
    .read .nsSeparator ⟨[c], cs⟩ (.code .plain)
  else
    stepOperator context c cs

/-- Reads the next token of code. -/
def stepCode (context : Context) (c : Char) (cs : List Char) : Step :=
  if c = '?' ∧ cs.head? = some '>' then
    .read .closeTag ((closeTagEnd cs.tail).prepend [c, '>']) .markup
  else if isSpace c then
    .read .whitespace (Cut.span isSpace (c :: cs)) (.code context)
  else
    match heredocOpener? (c :: cs) with
    | some (label, k) => .read .startHeredoc k (.heredoc label)
    | none => stepToken context c cs

@[simp] theorem whole_closeTagEnd (cs : List Char) : (closeTagEnd cs).whole = cs := by
  unfold closeTagEnd
  split <;> rfl

theorem stepOperator_lossless (context : Context) (c : Char) (cs : List Char) :
    (stepOperator context c cs).whole = c :: cs ∧ (stepOperator context c cs).Advances := by
  unfold stepOperator
  split
  · next op category h =>
    have hprefix := List.find?_some h
    obtain ⟨tail, htail⟩ := List.isPrefixOf_iff_prefix.1 hprefix
    have hmem : ∀ p ∈ operators, p.1.toList ≠ [] := by decide
    rw [← htail, Step.whole_read, Step.advances_read, List.drop_left]
    exact ⟨rfl, hmem _ (List.mem_of_find?_eq_some h)⟩
  · simp

theorem stepToken_lossless (context : Context) (c : Char) (cs : List Char) :
    (stepToken context c cs).whole = c :: cs ∧ (stepToken context c cs).Advances := by
  unfold stepToken
  split
  · next h =>
    obtain ⟨ds, rfl⟩ : ∃ ds, cs = '[' :: ds := List.head?_eq_some_iff.1 h.2
    simp [Cut.whole]
  split
  · simp [lineComment]
  split
  · next h =>
    obtain ⟨ds, rfl⟩ : ∃ ds, cs = '*' :: ds := List.head?_eq_some_iff.1 h.2
    simp [stepBlockComment]
  split
  · simp
  split
  · simp
  split
  · simp
  split
  · next h => simp [stepNumber, text_number_ne_nil h]
  split
  · next h => simpa [stepName] using name_lossless h
  split
  · simp [Cut.whole]
  · exact stepOperator_lossless context c cs

theorem stepCode_lossless (context : Context) (c : Char) (cs : List Char) :
    (stepCode context c cs).whole = c :: cs ∧ (stepCode context c cs).Advances := by
  unfold stepCode
  split
  · next h =>
    obtain ⟨ds, rfl⟩ : ∃ ds, cs = '>' :: ds := List.head?_eq_some_iff.1 h.2
    simp
  split
  · next h => exact ⟨by simp, by simp [Cut.span, h]⟩
  split
  · next label k h =>
    simp [whole_of_heredocOpener? h, text_of_heredocOpener?_ne_nil h]
  · exact stepToken_lossless context c cs

/-! ### Literals of several tokens -/

/-- Reads a shell command or the backtick that ends it. -/
def stepShell (c : Char) (cs : List Char) : Step :=
  if c = '\x60' then .punctuation c cs (.code .plain)
  else .read .encapsedAndWhitespace (shellCommand (c :: cs)) .shell

/-- Reads the body of a heredoc or the label that ends it.  A label has at least one
character. -/
def stepHeredoc (label : List Char) (c : Char) (cs : List Char) : Step :=
  let k := heredocBody label true (c :: cs)
  let tail := label.length - 1
  if k.text = [] then .read .endHeredoc ⟨c :: cs.take tail, cs.drop tail⟩ (.code .plain)
  else .read .encapsedAndWhitespace k (.heredoc label)

theorem stepShell_lossless (c : Char) (cs : List Char) :
    (stepShell c cs).whole = c :: cs ∧ (stepShell c cs).Advances := by
  unfold stepShell
  split
  · simp
  · next h => simp [text_shellCommand_ne_nil cs h]

theorem stepHeredoc_lossless (label : List Char) (c : Char) (cs : List Char) :
    (stepHeredoc label c cs).whole = c :: cs ∧ (stepHeredoc label c cs).Advances := by
  simp only [stepHeredoc]
  split
  · simp [Cut.whole]
  · next h => simp [h]

/-- Reads the next token of a source that starts with `c`. -/
def step (mode : Mode) (c : Char) (cs : List Char) : Step :=
  match mode with
  | .markup => stepMarkup (c :: cs)
  | .code context => stepCode context c cs
  | .shell => stepShell c cs
  | .heredoc label => stepHeredoc label c cs
  | .data => .read .inlineHtml ⟨c :: cs, []⟩ .data

/-- The text of the token and the rest make up the source, and the text is not empty. -/
theorem step_lossless (mode : Mode) (c : Char) (cs : List Char) :
    (step mode c cs).whole = c :: cs ∧ (step mode c cs).Advances := by
  cases mode with
  | markup => exact stepMarkup_lossless c cs
  | code context => exact stepCode_lossless context c cs
  | shell => exact stepShell_lossless c cs
  | heredoc label => exact stepHeredoc_lossless label c cs
  | data => simp [step, Cut.whole]

theorem step_rest_length_le (mode : Mode) (c : Char) (cs : List Char) :
    (step mode c cs).rest.length ≤ cs.length := by
  obtain ⟨hwhole, hadvances⟩ := step_lossless mode c cs
  have htext := List.length_pos_iff.2 hadvances
  have hlength := congrArg List.length hwhole
  simp only [Step.whole, List.length_append, List.length_cons] at hlength
  omega

end PhpOutline.Lexer
