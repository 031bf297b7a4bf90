import Mathlib.Data.List.Basic
import PhpOutline.Lexer.Tokenize

/-!
# Runs of the lexer

A run of the lexer reads some tokens off a source and comes to a mode and to what is left of the
source (`Reads`).  Cutting the tokens of a source in two cuts its run in two (`exists_reads`), so
that what holds of a token by its place in the source can be shown along the run that leads to it.

In code a step has one of fourteen outcomes (`CodeStep`), each with the conditions under which it is
taken.
-/

namespace PhpOutline.Lexer

/-! ### Runs -/

/-- The lexer, started in a mode on a source, reads the given tokens and comes to another mode and
to what is left of the source. -/
inductive Reads : Mode → List Char → List RawToken → Mode → List Char → Prop
  | stay (mode : Mode) (cs : List Char) : Reads mode cs [] mode cs
  | step {mode mode' : Mode} {c : Char} {cs rest : List Char} {ts : List RawToken}
      (next : Reads (step mode c cs).mode (step mode c cs).rest ts mode' rest) :
      Reads mode (c :: cs) ((step mode c cs).token :: ts) mode' rest

variable {mode mode' : Mode} {cs rest : List Char} {front back : List RawToken} {t : RawToken}

/-- The tokens of a source are those of a run and those of what it leaves. -/
lemma Reads.tokensFrom_eq (h : Reads mode cs front mode' rest) :
    tokensFrom mode cs = front ++ tokensFrom mode' rest := by
  induction h with
  | stay => rfl
  | step _ ih => rw [tokensFrom_cons, ih, List.cons_append]

/-- The texts of the tokens that a run reads, and what it leaves, make up the source. -/
lemma Reads.append_rest (h : Reads mode cs front mode' rest) :
    front.flatMap (fun t => t.text.toList) ++ rest = cs := by
  induction h with
  | stay => rfl
  | @step mode mode' c cs rest ts next ih =>
    rw [List.flatMap_cons, List.append_assoc, ih]
    exact (step_lossless mode c cs).1

/-- A run leaves no more than it was given. -/
lemma Reads.length_rest_le (h : Reads mode cs front mode' rest) : rest.length ≤ cs.length := by
  rw [← h.append_rest, List.length_append]
  exact Nat.le_add_left _ _

/-- Front tokens of a source are read by a run, and the others are the tokens of what it leaves. -/
lemma exists_reads (h : tokensFrom mode cs = front ++ back) :
    ∃ mode' rest, Reads mode cs front mode' rest ∧ tokensFrom mode' rest = back := by
  induction front generalizing mode cs with
  | nil => exact ⟨mode, cs, .stay mode cs, h⟩
  | cons t front ih =>
    cases cs with
    | nil =>
      rw [tokensFrom_nil] at h
      cases h
    | cons c cs =>
      rw [tokensFrom_cons, List.cons_append, List.cons.injEq] at h
      obtain ⟨rfl, htail⟩ := h
      obtain ⟨mode', rest, hreads, hback⟩ := ih htail
      exact ⟨mode', rest, .step hreads, hback⟩

/-- Every token of a source is read by one step behind the run that reads the tokens before it. -/
lemma exists_step (h : tokensFrom mode cs = front ++ t :: back) :
    ∃ mode' c rest, Reads mode cs front mode' (c :: rest) ∧ (step mode' c rest).token = t ∧
      tokensFrom (step mode' c rest).mode (step mode' c rest).rest = back := by
  obtain ⟨mode', rest, hreads, hback⟩ := exists_reads h
  cases rest with
  | nil =>
    rw [tokensFrom_nil] at hback
    cases hback
  | cons c rest =>
    rw [tokensFrom_cons, List.cons.injEq] at hback
    exact ⟨mode', c, rest, hreads, hback.1, hback.2⟩

/-- A source without tokens is empty. -/
lemma eq_nil_of_tokensFrom (h : tokensFrom mode cs = []) : cs = [] := by
  cases cs with
  | nil => rfl
  | cons c cs =>
    rw [tokensFrom_cons] at h
    cases h

/-! ### Steps in code -/

/-- What a step in code can be, at a source that starts with `c`. -/
inductive CodeStep (context : Context) (c : Char) (cs : List Char) : Step → Prop
  | closeTag (first : c = '?') (second : cs.head? = some '>') :
      CodeStep context c cs (.read .closeTag ((closeTagEnd cs.tail).prepend [c, '>']) .markup)
  | space (first : isSpace c = true) :
      CodeStep context c cs (.read .whitespace (Cut.span isSpace (c :: cs)) (.code context))
  | heredoc {label : List Char} {k : Cut} (opener : heredocOpener? (c :: cs) = some (label, k)) :
      CodeStep context c cs (.read .startHeredoc k (.heredoc label))
  | attributeOpen (first : c = '#') (second : cs.head? = some '[') :
      CodeStep context c cs (.read .attributeOpen ⟨[c, '['], cs.tail⟩ (.code .plain))
  | lineComment (first : c = '#' ∨ c = '/' ∧ cs.head? = some '/') :
      CodeStep context c cs (.read .comment ((lineComment cs).push c) (.code context))
  | blockComment (first : c = '/') (second : cs.head? = some '*') :
      CodeStep context c cs (stepBlockComment context (c :: cs))
  | variableName (first : c = '$') (second : nextIs isNameStart cs = true) :
      CodeStep context c cs (.read .variableName ((Cut.span isNameChar cs).push c) (.code .plain))
  | quoted (first : c = '\'' ∨ c = '"') :
      CodeStep context c cs
        (.read .constantEncapsedString ((throughQuote c cs).push c) (.code .plain))
  | shell (first : c = '\x60') : CodeStep context c cs (.punctuation c cs .shell)
  | number (first : startsNumber c cs = true) : CodeStep context c cs (stepNumber (c :: cs))
  | name (first : startsName c cs = true) : CodeStep context c cs (stepName context (c :: cs))
  | separator (first : c = '\\') :
      CodeStep context c cs (.read .nsSeparator ⟨[c], cs⟩ (.code .plain))
  | operator {op : String} {category : Category}
      (found : operator? (c :: cs) = some (op, category)) :
      CodeStep context c cs
        (.read category ⟨op.toList, (c :: cs).drop op.toList.length⟩
          (.code (contextAfterOperator category)))
  | punctuation (first : startsName c cs = false) :
      CodeStep context c cs (.punctuation c cs (.code (contextAfterPunctuation context c)))

lemma codeStep_stepToken (context : Context) (c : Char) (cs : List Char) :
    CodeStep context c cs (stepToken context c cs) := by
  unfold stepToken
  split
  · next h => exact .attributeOpen h.1 h.2
  split
  · next h => exact .lineComment h
  split
  · next h => exact .blockComment h.1 h.2
  split
  · next h => exact .variableName h.1 h.2
  split
  · next h => exact .quoted h
  split
  · next h => exact .shell h
  split
  · next h => exact .number h
  split
  · next h => exact .name h
  next hname =>
  split
  · next h => exact .separator h
  unfold stepOperator
  split
  · next op category h => exact .operator h
  · exact .punctuation (by simpa using hname)

/-- A step in code has one of the outcomes. -/
lemma codeStep_stepCode (context : Context) (c : Char) (cs : List Char) :
    CodeStep context c cs (stepCode context c cs) := by
  unfold stepCode
  split
  · next h => exact .closeTag h.1 h.2
  split
  · next h => exact .space h
  split
  · next label k h => exact .heredoc h
  · exact codeStep_stepToken context c cs

/-! ### Steps in markup -/

/-- An open tag is one of two. -/
lemma category_of_openTag? {category : Category} {k : Cut} (h : openTag? cs = some (category, k)) :
    category = .openTag ∨ category = .openTagWithEcho := by
  unfold openTag? at h
  split at h
  · cases h
    exact Or.inr rfl
  · split at h
    · obtain ⟨e, -, heq⟩ := Option.map_eq_some_iff.1 h
      cases heq
      exact Or.inl rfl
    · cases h
  · cases h

end PhpOutline.Lexer
