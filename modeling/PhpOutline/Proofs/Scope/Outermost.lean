import Mathlib.Data.List.Basic
import Mathlib.Order.Nat
import PhpOutline.Proofs.Outline.Declared

/-!
# The outermost declaration around a token

Of the declarations that a condition picks out, at most one is kept open during a pass: the first
one, until it ends.  This module shows that this is the outermost declaration around each token.
The declaration open before an index is `openBefore?`; it becomes `outermost?` when a declaration
may start at the index (`outermost?_eq_or`), and closing what ends there gives the declaration open
before the next index (`filter_outermost?`).  The second equation is where nesting is needed: what
was passed over because another declaration was open ends no later than that one.
-/

namespace PhpOutline.Declaration

/-- The first of the declarations picked out by `p` that start before the given index and do not
end before it. -/
def openBefore? (tokens : List Token) (p : Nat → Bool) (k : Nat) : Option Nat :=
  (List.range k).find? fun i => p i && decide (k ≤ lastIndex tokens i)

/-- The condition picks out no token at which a declaration can end. -/
def PicksKeywords (tokens : List Token) (p : Nat → Bool) : Prop :=
  ∀ i, p i = true → ∃ t, tokens[i]? = some t ∧ t.kind ≠ .closeCurly ∧ t.kind ≠ .semicolon

variable {tokens : List Token} {p : Nat → Bool} {i j k : Nat}

lemma outermost?_eq_some :
    outermost? tokens p k = some i ↔
      i ≤ k ∧ p i = true ∧ k ≤ lastIndex tokens i ∧
        ∀ j < i, p j = true → lastIndex tokens j < k := by
  rw [outermost?, List.find?_range_eq_some]
  simp only [Bool.and_eq_true, decide_eq_true_eq, List.mem_range, Nat.lt_succ_iff,
    Bool.not_eq_true', Bool.and_eq_false_imp, decide_eq_false_iff_not, not_le]
  tauto

lemma outermost?_eq_none :
    outermost? tokens p k = none ↔ ∀ i ≤ k, p i = true → lastIndex tokens i < k := by
  simp only [outermost?, List.find?_eq_none, List.mem_range, Nat.lt_succ_iff, Bool.and_eq_true,
    decide_eq_true_eq, not_and, not_le]

lemma openBefore?_eq_some :
    openBefore? tokens p k = some i ↔
      i < k ∧ p i = true ∧ k ≤ lastIndex tokens i ∧
        ∀ j < i, p j = true → lastIndex tokens j < k := by
  rw [openBefore?, List.find?_range_eq_some]
  simp only [Bool.and_eq_true, decide_eq_true_eq, List.mem_range, Bool.not_eq_true',
    Bool.and_eq_false_imp, decide_eq_false_iff_not, not_le]
  tauto

lemma openBefore?_eq_none :
    openBefore? tokens p k = none ↔ ∀ i < k, p i = true → lastIndex tokens i < k := by
  simp only [openBefore?, List.find?_eq_none, List.mem_range, Bool.and_eq_true,
    decide_eq_true_eq, not_and, not_le]

@[simp] lemma openBefore?_zero (tokens : List Token) (p : Nat → Bool) :
    openBefore? tokens p 0 = none := rfl

/-- A declaration inside another one ends inside it, and not with its keyword's own token. -/
lemma lastIndex_le_of_picked (hp : PicksKeywords tokens p) (hij : i < j) (hj : p j = true)
    (hle : j ≤ lastIndex tokens i) : lastIndex tokens j ≤ lastIndex tokens i := by
  have hne : j ≠ lastIndex tokens i := by
    intro heq
    obtain ⟨t, ht, hcurly, hsemi⟩ := hp j hj
    obtain ⟨u, hu, hkind⟩ := kind_lastIndex (hij.trans_le hle)
    rw [← heq, ht] at hu
    cases hu
    rcases hkind with h | h
    · exact hcurly h
    · exact hsemi h
  exact lastIndex_le_of_lt_lastIndex hij (lt_of_le_of_ne hle hne)

/-- At an index, the declaration open before it stays open; if there is none, one may start. -/
lemma outermost?_eq_or (tokens : List Token) (p : Nat → Bool) (k : Nat) :
    outermost? tokens p k = (openBefore? tokens p k).or (if p k then some k else none) := by
  rw [outermost?, List.range_succ, List.find?_append, ← openBefore?]
  congr 1
  cases hk : p k <;> simp [hk, le_lastIndex]

/-- The same for a value that is attached to each declaration. -/
lemma map_outermost? {α : Type} (f : Nat → α) (tokens : List Token) (p : Nat → Bool) (k : Nat) :
    (outermost? tokens p k).map f =
      ((openBefore? tokens p k).map f).or (if p k then some (f k) else none) := by
  rw [outermost?_eq_or, Option.map_or]
  congr 1
  cases p k <;> rfl

/-- Closing the declaration that ends at an index leaves the one open before the next index. -/
lemma filter_outermost? (hp : PicksKeywords tokens p) (k : Nat) :
    (outermost? tokens p k).filter (fun i => lastIndex tokens i != k) =
      openBefore? tokens p (k + 1) := by
  cases h : outermost? tokens p k with
  | none =>
    rw [outermost?_eq_none] at h
    rw [Option.filter_none, eq_comm, openBefore?_eq_none]
    intro i hi hpi
    exact (h i (Nat.lt_succ_iff.1 hi) hpi).trans (Nat.lt_succ_self k)
  | some i =>
    obtain ⟨hik, hpi, hki, hfirst⟩ := outermost?_eq_some.1 h
    by_cases hends : lastIndex tokens i = k
    · -- nothing else is open: what starts inside the closed declaration ends inside it
      rw [Option.filter_some, if_neg (by simp [hends]), eq_comm, openBefore?_eq_none]
      intro j hj hpj
      have hle : lastIndex tokens j ≤ k := by
        rcases lt_trichotomy j i with hji | rfl | hij
        · exact (hfirst j hji hpj).le
        · exact hends.le
        · rw [← hends]
          exact lastIndex_le_of_picked hp hij hpj (by omega)
      exact Nat.lt_succ_of_le hle
    · rw [Option.filter_some, if_pos (by simp [hends]), eq_comm, openBefore?_eq_some]
      refine ⟨Nat.lt_succ_of_le hik, hpi, by omega, fun j hj hpj => ?_⟩
      exact (hfirst j hj hpj).trans (Nat.lt_succ_self k)

/-! ### From its start to its end -/

/-- A declaration that is outermost around its own keyword is so up to its end. -/
lemma outermost?_of_outermost?_self (h : outermost? tokens p i = some i) (hik : i ≤ k)
    (hki : k ≤ lastIndex tokens i) : outermost? tokens p k = some i := by
  obtain ⟨-, hpi, -, hfirst⟩ := outermost?_eq_some.1 h
  refine outermost?_eq_some.2 ⟨hik, hpi, hki, fun j hj hpj => ?_⟩
  exact (hfirst j hj hpj).trans_le hik

/-- A declaration that is outermost around a token is outermost around its own keyword. -/
lemma outermost?_self_of_outermost? (hp : PicksKeywords tokens p)
    (h : outermost? tokens p k = some i) : outermost? tokens p i = some i := by
  obtain ⟨hik, hpi, hki, hfirst⟩ := outermost?_eq_some.1 h
  refine outermost?_eq_some.2 ⟨le_rfl, hpi, le_lastIndex tokens i, fun j hj hpj => ?_⟩
  by_contra hle
  have hend := lastIndex_le_of_picked hp hj hpi (not_lt.1 hle)
  have hbefore := hfirst j hj hpj
  omega

end PhpOutline.Declaration
