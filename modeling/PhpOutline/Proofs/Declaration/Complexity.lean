import Mathlib.Algebra.BigOperators.Group.Finset.Piecewise
import Mathlib.Algebra.BigOperators.Group.Finset.Sigma
import Mathlib.Order.Interval.Finset.Nat
import PhpOutline.Proofs.Layout.Lookbehind

/-!
# The complexity of nested declarations

Whether a token decides is told by the token and by those before it, however far back they stand;
the range in which it is counted plays no part (`decidesAt`).  So the complexity of a range is one
more than the number of its places that decide (`complexity_eq_card`), and ranges that are apart
share none of them.

Declarations inside another one end inside it.  With the decisions of each of them counted once,
those of the outer declaration are at least as many as those of all that stand in it, as long as
these are apart from each other (`complexity_superadditive`).
-/

namespace PhpOutline.Declaration

variable {tokens : List Token} {i j start last : Nat}

/-! ### Decisions by their places -/

/-- The token with the given index decides. -/
def decidesAt (tokens : List Token) (i : Nat) : Bool :=
  tokens[i]?.any (decides (tokens.take i).reverse)

/-- The places of a range that decide. -/
def decisionsIn (tokens : List Token) (start last : Nat) : Finset ℕ :=
  (Finset.Icc start last).filter fun i => decidesAt tokens i = true

lemma getElem?_decisions (tokens : List Token) (i : Nat) :
    (decisions tokens)[i]? = tokens[i]?.map (decides (tokens.take i).reverse) := by
  have hdrop := drop_decisionsAfter [] tokens i
  rw [List.append_nil] at hdrop
  rw [decisions, ← List.head?_drop, hdrop, ← List.head?_drop]
  cases tokens.drop i <;> rfl

lemma getElem?_decisions_eq_some_true :
    (decisions tokens)[i]? = some true ↔ decidesAt tokens i = true := by
  rw [getElem?_decisions, decidesAt, Option.any_eq_true, Option.map_eq_some_iff]

/-- The marks that are set in a stretch of a list are as many as their places. -/
lemma count_take_drop_eq_card (marks : List Bool) (start n : Nat) :
    ((marks.drop start).take n).count true =
      ((Finset.Ico start (start + n)).filter fun i => marks[i]? = some true).card := by
  induction n with
  | zero => simp
  | succ n ih =>
    have hfresh : start + n ∉ (Finset.Ico start (start + n)).filter
        fun i => marks[i]? = some true := by simp
    rw [List.take_add_one, List.count_append, ih, List.getElem?_drop, ← Nat.add_assoc,
      Nat.Ico_succ_right_eq_insert_Ico (Nat.le_add_right start n), Finset.filter_insert]
    cases hmark : marks[start + n]? with
    | none => simp
    | some mark =>
      cases mark with
      | true => rw [if_pos rfl, Finset.card_insert_of_notMem hfresh]; rfl
      | false => simp

/-- The complexity of a range is one more than the number of its places that decide. -/
lemma complexity_eq_card (tokens : List Token) (start last : Nat) :
    complexity tokens start last = 1 + (decisionsIn tokens start last).card := by
  have hrange : Finset.Ico start (start + (last + 1 - start)) = Finset.Icc start last := by
    ext i
    rw [Finset.mem_Ico, Finset.mem_Icc]
    omega
  rw [complexity, count_take_drop_eq_card, hrange, decisionsIn]
  simp only [getElem?_decisions_eq_some_true]

lemma decisionsIn_subset {start' last' : Nat} (hstart : start ≤ start') (hlast : last' ≤ last) :
    decisionsIn tokens start' last' ⊆ decisionsIn tokens start last :=
  Finset.filter_subset_filter _ (Finset.Icc_subset_Icc hstart hlast)

/-! ### Declarations inside another one -/

/-- A declaration has the decisions of those that start inside it. -/
lemma decisionsIn_lastIndex_subset (hij : i < j) (hj : j < lastIndex tokens i) :
    decisionsIn tokens j (lastIndex tokens j) ⊆ decisionsIn tokens i (lastIndex tokens i) :=
  decisionsIn_subset hij.le (lastIndex_le_of_lt_lastIndex hij hj)

/-- Declarations that are apart have no decision in common. -/
lemma disjoint_decisionsIn (h : Disjoint (span tokens i) (span tokens j)) :
    Disjoint (decisionsIn tokens i (lastIndex tokens i))
      (decisionsIn tokens j (lastIndex tokens j)) := by
  rw [Finset.disjoint_left]
  intro k hki hkj
  have hspan : k ∈ span tokens i := Finset.mem_Icc.1 (Finset.mem_filter.1 hki).1
  have hspan' : k ∈ span tokens j := Finset.mem_Icc.1 (Finset.mem_filter.1 hkj).1
  exact Set.disjoint_left.1 h hspan hspan'

/-- Neither a semicolon nor a closing bracket decides. -/
lemma decidesAt_lastIndex (h : i < lastIndex tokens i) :
    decidesAt tokens (lastIndex tokens i) = false := by
  obtain ⟨t, ht, hkind⟩ := kind_lastIndex h
  rw [decidesAt, ht, Option.any_some, decides]
  rcases hkind with hkind | hkind <;> rw [hkind] <;> rfl

/-- The complexity of a declaration is at most the number of tokens, or two if that is more. -/
lemma complexity_lastIndex_le (tokens : List Token) (i : Nat) :
    complexity tokens i (lastIndex tokens i) ≤ max 2 tokens.length := by
  rw [complexity_eq_card]
  rcases Nat.eq_or_lt_of_le (le_lastIndex tokens i) with heq | hlt
  · have hcard : (decisionsIn tokens i (lastIndex tokens i)).card ≤ 1 := by
      rw [← heq]
      exact (Finset.card_filter_le _ _).trans (by simp)
    omega
  · -- the last token of a declaration is never counted
    have hsubset : decisionsIn tokens i (lastIndex tokens i) ⊆
        Finset.Ico i (lastIndex tokens i) := by
      intro k hk
      obtain ⟨hmem, hdecides⟩ := Finset.mem_filter.1 hk
      rw [Finset.mem_Icc] at hmem
      refine Finset.mem_Ico.2 ⟨hmem.1, lt_of_le_of_ne hmem.2 ?_⟩
      rintro rfl
      rw [decidesAt_lastIndex hlt] at hdecides
      cases hdecides
    have hcard := Finset.card_le_card hsubset
    rw [Nat.card_Ico] at hcard
    obtain ⟨t, ht, -⟩ := kind_lastIndex hlt
    have hlast : lastIndex tokens i < tokens.length := (List.getElem?_eq_some_iff.1 ht).1
    omega

/-- **Complexity is superadditive over nesting.**  Take any declarations that start inside another
one and are apart from each other.  What their complexities are above one adds up to no more than
what that of the outer declaration is above one; a single one of them has no higher complexity than
the outer declaration.  In a file of less than `2 ^ 32` tokens all complexities are less than
`2 ^ 32`. -/
theorem complexity_superadditive (tokens : List Token) (i : Nat) :
    (∀ inner : Finset ℕ, (∀ j ∈ inner, i < j ∧ j < lastIndex tokens i) →
      (inner : Set ℕ).PairwiseDisjoint (span tokens) →
      ∑ j ∈ inner, (complexity tokens j (lastIndex tokens j) - 1) ≤
        complexity tokens i (lastIndex tokens i) - 1) ∧
    (∀ j, i < j → j < lastIndex tokens i →
      complexity tokens j (lastIndex tokens j) ≤ complexity tokens i (lastIndex tokens i)) ∧
    (tokens.length < 2 ^ 32 → complexity tokens i (lastIndex tokens i) < 2 ^ 32) := by
  refine ⟨?_, ?_, ?_⟩
  · intro inner hinner hapart
    have hdisjoint : (inner : Set ℕ).PairwiseDisjoint
        fun j => decisionsIn tokens j (lastIndex tokens j) := by
      intro j hj j' hj' hne
      exact disjoint_decisionsIn (hapart hj hj' hne)
    have hsubset : (inner.biUnion fun j => decisionsIn tokens j (lastIndex tokens j)) ⊆
        decisionsIn tokens i (lastIndex tokens i) := by
      rw [Finset.biUnion_subset]
      intro j hj
      exact decisionsIn_lastIndex_subset (hinner j hj).1 (hinner j hj).2
    simp only [complexity_eq_card, Nat.add_sub_cancel_left]
    rw [← Finset.card_biUnion hdisjoint]
    exact Finset.card_le_card hsubset
  · intro j hij hj
    rw [complexity_eq_card, complexity_eq_card]
    exact Nat.add_le_add_left (Finset.card_le_card (decisionsIn_lastIndex_subset hij hj)) 1
  · intro hlength
    have hle := complexity_lastIndex_le tokens i
    omega

/-- A function with two closures, each with a decision, and with a decision of its own. -/
def nestedFunctions : List Token := [
  ⟨.kwFunction, "function", 1⟩, ⟨.identifier, "f", 1⟩, ⟨.openBracket, "(", 1⟩,
  ⟨.closeBracket, ")", 1⟩, ⟨.openCurly, "\x7b", 1⟩,
  ⟨.kwFunction, "function", 2⟩, ⟨.openBracket, "(", 2⟩, ⟨.closeBracket, ")", 2⟩,
  ⟨.openCurly, "\x7b", 2⟩, ⟨.kwIf, "if", 2⟩, ⟨.closeCurly, "\x7d", 2⟩,
  ⟨.kwFunction, "function", 3⟩, ⟨.openBracket, "(", 3⟩, ⟨.closeBracket, ")", 3⟩,
  ⟨.openCurly, "\x7b", 3⟩, ⟨.variableName, "$a", 3⟩, ⟨.questionMark, "?", 3⟩,
  ⟨.closeCurly, "\x7d", 3⟩, ⟨.kwIf, "if", 4⟩, ⟨.closeCurly, "\x7d", 4⟩]

/-- Each of the two closures has one decision, and the function around them one more. -/
theorem complexity_nestedFunctions :
    lastIndex nestedFunctions 0 = 19 ∧ lastIndex nestedFunctions 5 = 10 ∧
      lastIndex nestedFunctions 11 = 17 ∧
      ∑ j ∈ {5, 11}, (complexity nestedFunctions j (lastIndex nestedFunctions j) - 1) = 2 ∧
      complexity nestedFunctions 0 19 = 4 ∧
      ∑ j ∈ {5, 11}, (complexity nestedFunctions j (lastIndex nestedFunctions j) - 1) ≤
        complexity nestedFunctions 0 (lastIndex nestedFunctions 0) - 1 := by
  have houter : lastIndex nestedFunctions 0 = 19 := by decide
  have hfirst : lastIndex nestedFunctions 5 = 10 := by decide
  have hsecond : lastIndex nestedFunctions 11 = 17 := by decide
  refine ⟨houter, hfirst, hsecond, by decide, by decide, ?_⟩
  apply (complexity_superadditive nestedFunctions 0).1
  · intro j hj
    rw [houter]
    rcases Finset.mem_insert.1 hj with rfl | hj
    · decide
    · rw [Finset.mem_singleton.1 hj]
      decide
  · have hapart : Disjoint (span nestedFunctions 5) (span nestedFunctions 11) := by
      rw [span, span, hfirst, hsecond, Set.disjoint_left]
      rintro k ⟨-, hk⟩ ⟨hk', -⟩
      omega
    rw [Finset.coe_pair]
    exact Set.pairwise_pair.2 fun _ => ⟨hapart, hapart.symm⟩

end PhpOutline.Declaration
