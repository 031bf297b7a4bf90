import Mathlib.Data.List.Basic
import Mathlib.Data.Set.BooleanAlgebra
import Mathlib.Order.CompletePartialOrder
import Mathlib.Order.Interval.Set.Basic
import Mathlib.Order.Nat
import PhpOutline.Declaration.Scope

/-!
# Scopes are nested or apart

The end of a declaration is found by a scan of its own, which counts the curly brackets from the
keyword on.  Two such scans that have started at different places meet the same tokens, only with
different numbers of brackets open, and the one with fewer open stops no later
(`scopeEndIn_le_of_le_depth`).  So the ranges that declarations resolve to never overlap in part:
a declaration that starts inside another one ends inside it (`lastIndex_le_of_lt_lastIndex`), and
the spans of declarations are a laminar family (`scopes_laminar`).  This holds as well for
declarations that end at a semicolon and for those whose brackets never balance.

What a scan does at a token is said once, kind by kind (`scopeEndIn_open`, `scopeEndIn_close` and so
on).
-/

namespace PhpOutline.Declaration

/-! ### Steps of a scan -/

section Steps

variable {t : Token} {ts rest : List Token} {index depth e : Nat}

/-- The tokens at which a scan counts or stops: curly brackets and semicolons. -/
def delimits (k : Kind) : Bool := k.opensCurly || k == .closeCurly || k == .semicolon

lemma delimits_cases (k : Kind) :
    k.opensCurly = true ∨ k = .closeCurly ∨ k = .semicolon ∨ delimits k = false := by
  by_cases hopen : k.opensCurly = true
  · exact .inl hopen
  by_cases hclose : k = .closeCurly
  · exact .inr (.inl hclose)
  by_cases hsemi : k = .semicolon
  · exact .inr (.inr (.inl hsemi))
  · simp [delimits, hopen, hclose, hsemi]

/-- A bracket that opens does not end anything. -/
lemma ne_of_opensCurly {k : Kind} (h : k.opensCurly = true) : k ≠ .closeCurly ∧ k ≠ .semicolon := by
  constructor
  · rintro rfl
    cases h
  · rintro rfl
    cases h

/-- An opening bracket takes the scan one level down. -/
lemma scopeEndIn_open (ht : t.kind.opensCurly = true) :
    scopeEndIn index depth (t :: ts) = scopeEndIn (index + 1) (depth + 1) ts := by
  conv_lhs => unfold scopeEndIn
  rw [if_pos ht]

/-- A closing bracket that no other opened ends the scan without a result. -/
lemma scopeEndIn_close_unopened (ht : t.kind = .closeCurly) :
    scopeEndIn index 0 (t :: ts) = none := by
  rw [scopeEndIn, if_neg (by rw [ht]; decide), if_pos ht]

/-- The bracket that closes the outermost one ends the scan. -/
lemma scopeEndIn_close (ht : t.kind = .closeCurly) :
    scopeEndIn index 1 (t :: ts) = some index := by
  rw [scopeEndIn, if_neg (by rw [ht]; decide), if_pos ht]

/-- A closing bracket inside others takes the scan one level up. -/
lemma scopeEndIn_close_inner (ht : t.kind = .closeCurly) :
    scopeEndIn index (depth + 2) (t :: ts) = scopeEndIn (index + 1) (depth + 1) ts := by
  rw [scopeEndIn, if_neg (by rw [ht]; decide), if_pos ht]

/-- A semicolon outside all brackets ends the scan. -/
lemma scopeEndIn_semicolon (ht : t.kind = .semicolon) :
    scopeEndIn index 0 (t :: ts) = some index := by
  rw [scopeEndIn, if_neg (by rw [ht]; decide), if_neg (by rw [ht]; decide), if_pos ⟨ht, rfl⟩]

/-- A semicolon inside brackets is passed over. -/
lemma scopeEndIn_semicolon_inner (ht : t.kind = .semicolon) :
    scopeEndIn index (depth + 1) (t :: ts) = scopeEndIn (index + 1) (depth + 1) ts := by
  conv_lhs => unfold scopeEndIn
  rw [if_neg (by rw [ht]; decide), if_neg (by rw [ht]; decide),
    if_neg fun h => Nat.succ_ne_zero depth h.2]

/-- Tokens that are neither curly brackets nor semicolons are passed over. -/
lemma scopeEndIn_pass (hts : ∀ u ∈ ts, delimits u.kind = false) :
    scopeEndIn index depth (ts ++ rest) = scopeEndIn (index + ts.length) depth rest := by
  induction ts generalizing index with
  | nil => rfl
  | cons u us ih =>
    obtain ⟨hu, hus⟩ := List.forall_mem_cons.1 hts
    simp only [delimits, Bool.or_eq_false_iff, beq_eq_false_iff_ne] at hu
    conv_lhs => rw [List.cons_append]; unfold scopeEndIn
    rw [if_neg (by simp [hu.1.1]), if_neg hu.1.2, if_neg fun h => hu.2 h.1, ih hus,
      List.length_cons, Nat.add_assoc, Nat.add_comm 1]

lemma scopeEndIn_cons_of_not_delimits (ht : delimits t.kind = false) :
    scopeEndIn index depth (t :: ts) = scopeEndIn (index + 1) depth ts := by
  have hpass : ∀ u ∈ [t], delimits u.kind = false := by simpa using ht
  exact scopeEndIn_pass hpass

/-- A scan that finds an end finds it at the first token, or goes on with the next one. -/
lemma scopeEndIn_cons_eq_some (h : scopeEndIn index depth (t :: ts) = some e) :
    (e = index ∧ (t.kind = .closeCurly ∨ t.kind = .semicolon)) ∨
      ∃ d, scopeEndIn (index + 1) d ts = some e := by
  rcases delimits_cases t.kind with hopen | hclose | hsemi | hother
  · rw [scopeEndIn_open hopen] at h
    exact .inr ⟨_, h⟩
  · rcases depth with _ | _ | depth
    · rw [scopeEndIn_close_unopened hclose] at h
      cases h
    · rw [scopeEndIn_close hclose] at h
      exact .inl ⟨(Option.some.inj h).symm, .inl hclose⟩
    · rw [scopeEndIn_close_inner hclose] at h
      exact .inr ⟨_, h⟩
  · rcases depth with _ | depth
    · rw [scopeEndIn_semicolon hsemi] at h
      exact .inl ⟨(Option.some.inj h).symm, .inr hsemi⟩
    · rw [scopeEndIn_semicolon_inner hsemi] at h
      exact .inr ⟨_, h⟩
  · rw [scopeEndIn_cons_of_not_delimits hother] at h
    exact .inr ⟨_, h⟩

end Steps

/-! ### One scan -/

/-- A scan stops at one of the tokens that it is given. -/
lemma scopeEndIn_bounds {index depth e : Nat} {ts : List Token}
    (h : scopeEndIn index depth ts = some e) : index ≤ e ∧ e < index + ts.length := by
  induction ts generalizing index depth with
  | nil => cases h
  | cons t ts ih =>
    rw [List.length_cons]
    rcases scopeEndIn_cons_eq_some h with ⟨rfl, -⟩ | ⟨d, hd⟩
    · omega
    · have hnext := ih hd
      omega

/-- A scan stops at a closing curly bracket or at a semicolon. -/
lemma kind_of_scopeEndIn {index depth e : Nat} {ts : List Token}
    (h : scopeEndIn index depth ts = some e) :
    ∃ t, ts[e - index]? = some t ∧ (t.kind = .closeCurly ∨ t.kind = .semicolon) := by
  induction ts generalizing index depth with
  | nil => cases h
  | cons t ts ih =>
    rcases scopeEndIn_cons_eq_some h with ⟨rfl, hkind⟩ | ⟨d, hd⟩
    · exact ⟨t, by simp, hkind⟩
    · obtain ⟨u, hu, hkind⟩ := ih hd
      have hle := (scopeEndIn_bounds hd).1
      refine ⟨u, ?_, hkind⟩
      rw [show e - index = e - (index + 1) + 1 by omega, List.getElem?_cons_succ]
      exact hu

/-- A scan that has not stopped at an index goes on behind it, with some number of brackets
open. -/
lemma exists_scopeEndIn_drop {index depth e j : Nat} {ts : List Token}
    (h : scopeEndIn index depth ts = some e) (hj : index ≤ j) (hje : j < e) :
    ∃ d, scopeEndIn (j + 1) d (ts.drop (j + 1 - index)) = some e := by
  induction ts generalizing index depth with
  | nil => cases h
  | cons t ts ih =>
    rcases scopeEndIn_cons_eq_some h with ⟨rfl, -⟩ | ⟨d, hd⟩
    · omega
    · rcases Nat.eq_or_lt_of_le hj with rfl | hlt
      · exact ⟨d, by simpa using hd⟩
      · obtain ⟨d', hd'⟩ := ih hd hlt
        refine ⟨d', ?_⟩
        rw [show j + 1 - index = j + 1 - (index + 1) + 1 by omega, List.drop_succ_cons]
        exact hd'

/-- Of two scans over the same tokens, the one with fewer brackets open stops no later. -/
lemma scopeEndIn_le_of_le_depth {index inner outer e e' : Nat} {ts : List Token}
    (hdepth : inner ≤ outer) (hinner : scopeEndIn index inner ts = some e')
    (houter : scopeEndIn index outer ts = some e) : e' ≤ e := by
  have hle := (scopeEndIn_bounds houter).1
  induction ts generalizing index inner outer with
  | nil => cases hinner
  | cons t ts ih =>
    have hnext : ∀ {m n : Nat}, m ≤ n → scopeEndIn (index + 1) m ts = some e' →
        scopeEndIn (index + 1) n ts = some e → e' ≤ e :=
      fun hmn hm hn => ih hmn hm hn (scopeEndIn_bounds hn).1
    rcases delimits_cases t.kind with hopen | hclose | hsemi | hother
    · rw [scopeEndIn_open hopen] at hinner houter
      exact hnext (Nat.succ_le_succ hdepth) hinner houter
    · rcases inner with _ | _ | inner
      · rw [scopeEndIn_close_unopened hclose] at hinner
        cases hinner
      · rw [scopeEndIn_close hclose] at hinner
        cases hinner
        exact hle
      · -- both scans close a bracket and go on
        obtain ⟨n, rfl⟩ : ∃ n, outer = n + 2 := ⟨outer - 2, by omega⟩
        rw [scopeEndIn_close_inner hclose] at hinner houter
        exact hnext (by omega) hinner houter
    · rcases inner with _ | inner
      · rw [scopeEndIn_semicolon hsemi] at hinner
        cases hinner
        exact hle
      · obtain ⟨n, rfl⟩ : ∃ n, outer = n + 1 := ⟨outer - 1, by omega⟩
        rw [scopeEndIn_semicolon_inner hsemi] at hinner houter
        exact hnext hdepth hinner houter
    · rw [scopeEndIn_cons_of_not_delimits hother] at hinner houter
      exact hnext hdepth hinner houter

/-! ### The range of a declaration -/

/-- The end of a declaration lies behind its keyword. -/
lemma lt_of_scopeEnd? {tokens : List Token} {i e : Nat} (h : scopeEnd? tokens i = some e) :
    i < e :=
  (scopeEndIn_bounds h).1

/-- A declaration does not end before its keyword. -/
lemma le_lastIndex (tokens : List Token) (i : Nat) : i ≤ lastIndex tokens i := by
  unfold lastIndex
  cases h : scopeEnd? tokens i with
  | none => exact le_refl i
  | some e => exact (lt_of_scopeEnd? h).le

/-- A declaration ends inside the file. -/
lemma lastIndex_lt_length {tokens : List Token} {i : Nat} (hi : i < tokens.length) :
    lastIndex tokens i < tokens.length := by
  unfold lastIndex
  cases h : scopeEnd? tokens i with
  | none => exact hi
  | some e =>
    have := (scopeEndIn_bounds h).2
    rw [List.length_drop] at this
    exact Nat.lt_of_lt_of_eq this (by omega)

/-- A declaration that ends behind its keyword was resolved. -/
lemma scopeEnd?_of_lt_lastIndex {tokens : List Token} {i : Nat} (h : i < lastIndex tokens i) :
    scopeEnd? tokens i = some (lastIndex tokens i) := by
  unfold lastIndex at h ⊢
  cases hend : scopeEnd? tokens i with
  | none =>
    rw [hend] at h
    exact absurd h (lt_irrefl i)
  | some e => rfl

/-- A declaration that ends behind its keyword ends at a closing curly bracket or at a
semicolon. -/
lemma kind_lastIndex {tokens : List Token} {i : Nat} (h : i < lastIndex tokens i) :
    ∃ t, tokens[lastIndex tokens i]? = some t ∧ (t.kind = .closeCurly ∨ t.kind = .semicolon) := by
  obtain ⟨t, ht, hkind⟩ := kind_of_scopeEndIn (scopeEnd?_of_lt_lastIndex h)
  refine ⟨t, ?_, hkind⟩
  rw [List.getElem?_drop] at ht
  rw [← ht]
  congr 1
  omega

/-- A declaration that starts inside another one ends inside it. -/
theorem lastIndex_le_of_lt_lastIndex {tokens : List Token} {i j : Nat} (hij : i < j)
    (hj : j < lastIndex tokens i) : lastIndex tokens j ≤ lastIndex tokens i := by
  have houter := scopeEnd?_of_lt_lastIndex (hij.trans hj)
  obtain ⟨d, hd⟩ := exists_scopeEndIn_drop houter hij hj
  rw [List.drop_drop, show i + 1 + (j + 1 - (i + 1)) = j + 1 by omega] at hd
  rcases Nat.eq_or_lt_of_le (le_lastIndex tokens j) with heq | hlt
  · rw [← heq]
    exact hj.le
  · exact scopeEndIn_le_of_le_depth (Nat.zero_le d) (scopeEnd?_of_lt_lastIndex hlt) hd

/-! ### Spans -/

/-- The indices that a declaration covers, from its keyword to its end. -/
def span (tokens : List Token) (i : Nat) : Set Nat := Set.Icc i (lastIndex tokens i)

/-- The words that a declaration starts with. -/
def startsDeclaration : Kind → Bool
  | .kwClass | .kwTrait | .kwInterface | .kwEnum | .kwFunction => true
  | _ => false

/-- A declaration that starts behind another one is apart from it or inside it.  It cannot start
where the other one ends, since no scope ends at a keyword. -/
lemma span_subset_or_disjoint {tokens : List Token} {i j : Nat} {t : Token} (hij : i ≤ j)
    (ht : tokens[j]? = some t) (hkind : startsDeclaration t.kind = true) :
    Disjoint (span tokens i) (span tokens j) ∨ span tokens j ⊆ span tokens i := by
  rcases Nat.lt_or_ge (lastIndex tokens i) j with hbehind | hinside
  · left
    rw [Set.disjoint_left]
    intro k hki hkj
    exact absurd (hkj.1.trans hki.2) (Nat.not_le.2 hbehind)
  · right
    apply Set.Icc_subset_Icc hij
    rcases hij.eq_or_lt with rfl | hlt
    · exact le_rfl
    · apply lastIndex_le_of_lt_lastIndex hlt
      refine lt_of_le_of_ne hinside ?_
      rintro rfl
      obtain ⟨u, hu, hend⟩ := kind_lastIndex hlt
      cases ht.symm.trans hu
      rcases hend with hend | hend <;> rw [hend] at hkind <;> cases hkind

/-- **The scopes of a file are a laminar family.**  Of two indices, the second one is not inside the
scope that starts at the first, or its own scope ends inside that one.  So the spans of two
declarations are apart, or one of them contains the other. -/
theorem scopes_laminar (tokens : List Token) :
    (∀ i j, i < j →
      lastIndex tokens i ≤ j ∨ lastIndex tokens j ≤ lastIndex tokens i) ∧
    ∀ i j t u, tokens[i]? = some t → tokens[j]? = some u →
      startsDeclaration t.kind = true → startsDeclaration u.kind = true →
      Disjoint (span tokens i) (span tokens j) ∨ span tokens i ⊆ span tokens j ∨
        span tokens j ⊆ span tokens i := by
  constructor
  · intro i j hij
    rcases Nat.lt_or_ge j (lastIndex tokens i) with hinside | hbehind
    · exact .inr (lastIndex_le_of_lt_lastIndex hij hinside)
    · exact .inl hbehind
  · intro i j t u ht hu hkind hkind'
    rcases Nat.le_total i j with hij | hji
    · exact (span_subset_or_disjoint hij hu hkind').imp_right .inr
    · exact (span_subset_or_disjoint hji ht hkind).imp (fun h => h.symm) .inl

end PhpOutline.Declaration
