import PhpOutline.Outline.Pass
import PhpOutline.Proofs.Declaration.Complexity
import PhpOutline.Proofs.Declaration.DocComment

/-!
# Ternary operators

A question mark is the ternary operator if an operand ends before it.  Whether one does is told by
the nearest token that is not white space: a variable, a number, a string, a name or a closing
bracket ends an operand, and so does the word `static` where it stands for a class, behind
`instanceof` or `new` (`endsOperand`).

The count of decisions takes a question mark for the mark of a nullable type by the token before it,
and the word `static` is on both sides: it is a modifier of properties too.  So a ternary operator
adds one to the complexity unless it stands behind `static`, and there it adds nothing
(`complexity_counts_ternaries`, `ternary_behind_static_lost`).
-/

namespace PhpOutline.Declaration

variable {tokens behind ts : List Token} {t : Token} {q start last : Nat}

/-! ### Operands -/

/-- The kinds of token that end an operand wherever they stand. -/
def endsOperandAlone : Kind → Bool
  | .variableName | .lnumber | .dnumber | .constantEncapsedString | .endHeredoc => true
  | .identifier | .nameQualified | .nameFullyQualified | .nameRelative => true
  | .closeBracket | .closeCurly => true
  | _ => false

/-- A closing square bracket behind the given tokens, the nearest first, ends an attribute group. -/
def ClosesAttribute (behind : List Token) : Prop :=
  ∃ body first rest, SquaresBalance body ∧ first.kind = .attributeOpen ∧
    behind = body.reverse ++ first :: rest

lemma isSome_beforeAttribute?_iff (ht : t.kind = .closeSquare) :
    (beforeAttribute? (t :: ts)).isSome = true ↔ ClosesAttribute ts := by
  rw [Option.isSome_iff_exists]
  simp only [beforeAttribute?_eq_some_iff ht]
  constructor
  · rintro ⟨rest, body, first, hgroup⟩
    exact ⟨body, first, rest, hgroup⟩
  · rintro ⟨body, first, rest, hgroup⟩
    exact ⟨rest, body, first, hgroup⟩

instance (behind : List Token) : Decidable (ClosesAttribute behind) :=
  decidable_of_iff ((beforeAttribute? (⟨.closeSquare, "]", 0⟩ :: behind)).isSome = true)
    (isSome_beforeAttribute?_iff rfl)

/-- The words behind which `static` stands for a class: `new`, and `instanceof`, which has no kind
of its own. -/
def bindsClass (t : Token) : Bool :=
  t.kind == .kwNew || t.kind == .other && Lexer.isWord "instanceof" t.text.toList

/-- The given tokens, the nearest first, end with an operand. -/
def endsOperand : List Token → Bool
  | [] => false
  | t :: ts =>
    endsOperandAlone t.kind || t.kind == .closeSquare && !decide (ClosesAttribute ts) ||
      t.kind == .kwStatic && (skipSpace ts).head?.any bindsClass

/-- The token with the given index is a question mark behind an operand. -/
def isTernary (tokens : List Token) (q : Nat) : Bool :=
  tokens[q]?.any (·.kind == .questionMark) && endsOperand (skipSpace (tokens.take q).reverse)

/-- The token with the given index is a decision by its kind. -/
def isDecisionAt (tokens : List Token) (i : Nat) : Bool := tokens[i]?.any (·.kind.isDecision)

/-! ### What a ternary operator adds -/

/-- Behind an operand, a question mark is taken for the mark of a type by the word `static` only. -/
lemma marksNullable_of_endsOperand (h : endsOperand (skipSpace behind) = true) :
    marksNullable behind = (skipSpace behind).head?.any (·.kind = .kwStatic) := by
  rw [marksNullable, ← skipSpace]
  cases hbehind : skipSpace behind with
  | nil =>
    rw [hbehind] at h
    cases h
  | cons t ts =>
    rw [hbehind, endsOperand, Bool.or_eq_true, Bool.or_eq_true] at h
    rcases h with (halone | hsquare) | hstatic
    · revert halone
      cases hkind : t.kind <;> simp [endsOperandAlone, Kind.isVisibility, hkind]
    · obtain ⟨hkind, hopen⟩ := Bool.and_eq_true_iff.1 hsquare
      have hclose : t.kind = .closeSquare := by simpa using hkind
      have hnone : (beforeAttribute? (t :: ts)).isSome = false := by
        rw [Bool.eq_false_iff, ne_eq, isSome_beforeAttribute?_iff hclose]
        simpa using hopen
      simp [hclose, hnone]
    · obtain ⟨hkind, -⟩ := Bool.and_eq_true_iff.1 hstatic
      have hword : t.kind = .kwStatic := by simpa using hkind
      simp [hword]

/-- A ternary operator decides unless it follows the word `static`. -/
lemma decidesAt_of_isTernary (h : isTernary tokens q = true) :
    decidesAt tokens q = !follows tokens q .kwStatic := by
  rw [isTernary, Bool.and_eq_true, Option.any_eq_true] at h
  obtain ⟨⟨t, ht, hmark⟩, hoperand⟩ := h
  have hkind : t.kind = .questionMark := by simpa using hmark
  have hnullable := marksNullable_of_endsOperand hoperand
  rw [decidesAt, ht, Option.any_some, decides, hkind, hnullable, follows_eq,
    Cursor.ofIndex_of_getElem? ht]
  rfl

/-- The complexity of a single token is two if it decides, and one otherwise. -/
lemma complexity_self (tokens : List Token) (q : Nat) :
    complexity tokens q q - 1 = if decidesAt tokens q then 1 else 0 := by
  rw [complexity_eq_card, decisionsIn, Finset.Icc_self, Finset.filter_singleton]
  cases decidesAt tokens q <;> rfl

/-- The complexity of a range is one more than what its tokens add. -/
lemma complexity_eq_sum (tokens : List Token) (start last : Nat) :
    complexity tokens start last =
      1 + ∑ q ∈ Finset.Icc start last, (complexity tokens q q - 1) := by
  rw [complexity_eq_card, decisionsIn, Finset.card_filter]
  simp only [complexity_self]

/-- A decision by its kind decides, and it is no question mark. -/
lemma decidesAt_of_isDecisionAt (h : isDecisionAt tokens q = true) :
    decidesAt tokens q = true ∧ isTernary tokens q = false := by
  rw [isDecisionAt, Option.any_eq_true] at h
  obtain ⟨t, ht, hdecision⟩ := h
  have hmark : (t.kind == .questionMark) = false := by
    rw [beq_eq_false_iff_ne]
    intro hkind
    rw [hkind] at hdecision
    cases hdecision
  constructor
  · rw [decidesAt, ht, Option.any_some, decides, hdecision, Bool.true_or]
  · rw [isTernary, ht, Option.any_some, hmark, Bool.false_and]

/-! ### Counting -/

/-- The decisions of a range by their kind. -/
def decisionPoints (tokens : List Token) (start last : Nat) : Finset ℕ :=
  (Finset.Icc start last).filter fun i => isDecisionAt tokens i = true

/-- The ternary operators of a range. -/
def ternaries (tokens : List Token) (start last : Nat) : Finset ℕ :=
  (Finset.Icc start last).filter fun q => isTernary tokens q = true

/-- The ternary operators of a range that follow the word `static`. -/
def staticTernaries (tokens : List Token) (start last : Nat) : Finset ℕ :=
  (ternaries tokens start last).filter fun q => follows tokens q .kwStatic = true

/-- The decisions of a range by their kind and its ternary operators that do not follow `static` are
apart from each other, and all of them count. -/
lemma card_decisionPoints_add_le (tokens : List Token) (start last : Nat) :
    (decisionPoints tokens start last).card + (ternaries tokens start last).card ≤
      (decisionsIn tokens start last).card + (staticTernaries tokens start last).card := by
  set others := (ternaries tokens start last).filter fun q => ¬follows tokens q .kwStatic = true
  have hsplit : (staticTernaries tokens start last).card + others.card =
      (ternaries tokens start last).card := Finset.card_filter_add_card_filter_not _
  have hdisjoint : Disjoint (decisionPoints tokens start last) others := by
    rw [Finset.disjoint_left]
    intro q hdecision hother
    have hno := (decidesAt_of_isDecisionAt (Finset.mem_filter.1 hdecision).2).2
    rw [(Finset.mem_filter.1 (Finset.mem_filter.1 hother).1).2] at hno
    cases hno
  have hsubset : decisionPoints tokens start last ∪ others ⊆ decisionsIn tokens start last := by
    apply Finset.union_subset
    · intro q hq
      obtain ⟨hrange, hdecision⟩ := Finset.mem_filter.1 hq
      exact Finset.mem_filter.2 ⟨hrange, (decidesAt_of_isDecisionAt hdecision).1⟩
    · intro q hq
      obtain ⟨hmem, hstatic⟩ := Finset.mem_filter.1 hq
      obtain ⟨hrange, hternary⟩ := Finset.mem_filter.1 hmem
      refine Finset.mem_filter.2 ⟨hrange, ?_⟩
      rw [decidesAt_of_isTernary hternary, Bool.eq_false_iff.2 hstatic]
      rfl
  have hcard := Finset.card_le_card hsubset
  rw [Finset.card_union_of_disjoint hdisjoint] at hcard
  omega

/-- **Ternary operators count, except behind `static`.**  The complexity of a range, such as that of
a function from its keyword to its end, is one more than what its tokens add.  A question mark
behind an operand adds exactly one, unless the operand ends with the word `static`; then it adds
nothing.  So the complexity is at least one more than the number of decisions by their kind and of
ternary operators, those behind `static` left out. -/
theorem complexity_counts_ternaries (tokens : List Token) (start last : Nat) :
    complexity tokens start last =
        1 + ∑ q ∈ Finset.Icc start last, (complexity tokens q q - 1) ∧
      (∀ q, isTernary tokens q = true →
        complexity tokens q q - 1 = if follows tokens q .kwStatic then 0 else 1) ∧
      1 + (decisionPoints tokens start last).card + (ternaries tokens start last).card ≤
        complexity tokens start last + (staticTernaries tokens start last).card := by
  refine ⟨complexity_eq_sum tokens start last, ?_, ?_⟩
  · intro q hq
    rw [complexity_self, decidesAt_of_isTernary hq]
    cases follows tokens q .kwStatic <;> rfl
  · have hcard := card_decisionPoints_add_le tokens start last
    rw [complexity_eq_card]
    omega

/-- A function with a nullable parameter, a conjunction, and a ternary operator behind a call. -/
def choice : List RawToken :=
  [.named .openTag "<?php ", .named .kwFunction "function", .named .whitespace " ",
    .named .identifier "f", .punctuation '(', .punctuation '?', .named .identifier "int",
    .named .whitespace " ", .named .variableName "$a", .punctuation ')', .punctuation '{',
    .named .kwReturn "return", .named .whitespace " ", .named .variableName "$a",
    .named .booleanAnd "&&", .named .identifier "g", .punctuation '(', .punctuation ')',
    .named .whitespace " ", .punctuation '?', .named .lnumber "1", .punctuation ':',
    .named .lnumber "2", .punctuation ';', .punctuation '}']

/-- The conjunction and the ternary operator count, and the mark of the nullable parameter does
not. -/
theorem ternary_behind_call_counted :
    Lexer.tokenize "<?php function f(?int $a)\x7breturn $a&&g() ?1:2;\x7d" = choice ∧
      ∃ tokens, Token.prepare choice = .ok tokens ∧
        isFunction tokens 1 = true ∧ lastIndex tokens 1 = 24 ∧
        isTernary tokens 5 = false ∧ isTernary tokens 19 = true ∧
        complexity tokens 19 19 - 1 = 1 ∧ complexity tokens 1 24 = 3 ∧
        1 + (decisionPoints tokens 1 24).card + (ternaries tokens 1 24).card ≤
          complexity tokens 1 24 + (staticTernaries tokens 1 24).card := by
  refine ⟨by decide +kernel, _, rfl, by decide +kernel, by decide +kernel, by decide +kernel,
    by decide +kernel, ?_, by decide +kernel, (complexity_counts_ternaries _ 1 24).2.2⟩
  rw [(complexity_counts_ternaries _ 1 24).2.1 19 (by decide +kernel), if_neg (by decide +kernel)]

/-- A method that tells by a ternary operator whether a value is of the class itself. -/
def classTest : List RawToken :=
  [.named .openTag "<?php\n", .named .kwClass "class", .named .whitespace " ",
    .named .identifier "A", .named .whitespace " ", .punctuation '{', .named .whitespace "\n    ",
    .named .kwFunction "function", .named .whitespace " ", .named .identifier "is",
    .punctuation '(', .named .variableName "$a", .punctuation ')', .named .whitespace " ",
    .punctuation '{', .named .whitespace "\n        ", .named .kwReturn "return",
    .named .whitespace " ", .named .variableName "$a", .named .whitespace " ",
    .named .kwInstanceof "instanceof", .named .whitespace " ", .named .kwStatic "static",
    .named .whitespace " ", .punctuation '?', .named .whitespace " ", .named .lnumber "1",
    .named .whitespace " ", .punctuation ':', .named .whitespace " ", .named .lnumber "2",
    .punctuation ';', .named .whitespace "\n    ", .punctuation '}', .named .whitespace "\n",
    .punctuation '}', .named .whitespace "\n"]

/-- The ternary operator of the method follows an operand, and still the method has the complexity
of one without decisions. -/
theorem ternary_behind_static_lost :
    Lexer.tokenize ("<?php\nclass A \x7b\n    function is($a) \x7b\n" ++
        "        return $a instanceof static ? 1 : 2;\n    \x7d\n\x7d\n") = classTest ∧
      ∃ tokens, Token.prepare classTest = .ok tokens ∧
        isFunction tokens 7 = true ∧ lastIndex tokens 7 = 33 ∧
        isTernary tokens 24 = true ∧ complexity tokens 24 24 = 1 ∧ complexity tokens 7 33 = 1 ∧
        1 + (decisionPoints tokens 7 33).card + (ternaries tokens 7 33).card = 2 := by
  refine ⟨by decide +kernel, _, rfl, ?_⟩
  decide +kernel

end PhpOutline.Declaration
