import Mathlib.Data.List.Basic
import PhpOutline.Proofs.Outline.Reference

/-!
# The entries of a finished outline

`EntryAgrees` follows an entry along a run.  Here it is read off at the end of the run, in the form
in which properties of whole files use it: an entry of the outline was made by the last declaration
of its kind and name (`exists_declaration`), and each of its methods was declared behind that
declaration, under an owner of that kind and name (`declaresMethod_eq_true`).
-/

namespace PhpOutline

namespace Declaration

variable {tokens : List Token} {n k d : Nat} {p : Nat → Bool}

/-- The last index that satisfies a condition, told by what comes behind it. -/
lemma lastBelow?_eq_some :
    lastBelow? n p = some d ↔ d < n ∧ p d = true ∧ ∀ k < n, d < k → p k = false := by
  induction n with
  | zero => simp
  | succ n ih =>
    rw [lastBelow?_succ]
    by_cases hn : p n = true
    · rw [if_pos hn, Option.some_inj]
      constructor
      · rintro rfl
        exact ⟨Nat.lt_succ_self n, hn, fun k hk hnk => by omega⟩
      · rintro ⟨hd, -, hlast⟩
        by_contra hne
        have hno := hlast n (Nat.lt_succ_self n) (by omega)
        rw [hn] at hno
        cases hno
    · rw [if_neg hn, ih]
      constructor
      · rintro ⟨hd, hpd, hlast⟩
        refine ⟨hd.trans (Nat.lt_succ_self n), hpd, fun k hk hdk => ?_⟩
        rcases Nat.lt_succ_iff_lt_or_eq.1 hk with hlt | rfl
        · exact hlast k hlt hdk
        · simpa using hn
      · rintro ⟨hd, hpd, hlast⟩
        have hne : d ≠ n := by
          rintro rfl
          exact hn hpd
        exact ⟨by omega, hpd, fun k hk => hlast k (hk.trans (Nat.lt_succ_self n))⟩

lemma declares_eq_true {kind : ContainerKind} {name : String} :
    declares tokens kind name k = true ↔ namedContainer? tokens k = some (kind, name) :=
  decide_eq_true_iff

/-- A method of an entry is declared behind the declaration that made the entry, under an owner of
the same kind and name. -/
lemma declaresMethod_eq_true {kind : ContainerKind} {name m : String} :
    declaresMethod tokens kind name d m k = true ↔
      d < k ∧ filedName? tokens k = some m ∧
        ∃ c, owner? tokens k = some c ∧ namedContainer? tokens c = some (kind, name) := by
  simp only [declaresMethod, Bool.and_eq_true, decide_eq_true_iff, Option.bind_eq_some_iff,
    and_assoc]

/-- A function that is filed is one that the pass reaches. -/
lemma isFunction_of_filedName? {m : String} (h : filedName? tokens k = some m) :
    isFunction tokens k = true := by
  unfold filedName? at h
  split at h
  · next hfiled => exact (Bool.and_eq_true_iff.1 hfiled).1
  · cases h

/-- A token that declares a function is one that the pass reaches. -/
lemma lt_length_of_isFunction (h : isFunction tokens k = true) :
    k < (Pass.reached tokens).length := by
  by_contra hle
  have hnone : (Pass.reached tokens)[k]? = none := List.getElem?_eq_none (not_lt.1 hle)
  simp [isFunction, hnone] at h

end Declaration

namespace Pass

open Declaration

variable {path : Option String} {tokens : List Token} {kind : ContainerKind} {name : String}

/-- The entry under a kind and a name when the pass has ended. -/
lemma entryAgrees_ofTokens (path : Option String) (tokens : List Token) (kind : ContainerKind)
    (name : String) :
    EntryAgrees tokens (reached tokens).length kind name
      ((Analysis.ofTokens path tokens).outline.ofKind kind)[name]? := by
  have hentry := entryAgrees_before path (le_refl (reached tokens).length) kind name
  rw [← run_eq_before] at hentry
  cases kind <;> exact hentry

/-- The free function under a key when the pass has ended. -/
lemma getElem?_functions_ofTokens (path : Option String) (tokens : List Token) (key : String) :
    (Analysis.ofTokens path tokens).outline.functions[key]? =
      (lastBelow? (reached tokens).length (declaresFree tokens key)).map (functionAt tokens) := by
  rw [← getElem?_functions_before path (le_refl _), ← run_eq_before]
  rfl

/-- The line counts when the pass has ended. -/
lemma lines_ofTokens (path : Option String) (tokens : List Token) :
    (Analysis.ofTokens path tokens).outline.lines =
      LineCount.ofFile tokens (commentLinesOf (reached tokens)) (haltLine? tokens) := by
  have hlines := commentLines_before path (le_refl (reached tokens).length)
  rw [List.take_length, ← run_eq_before] at hlines
  rw [← hlines]
  rfl

/-- An entry was made by the last declaration of its kind and name. -/
lemma exists_declaration {c : Container}
    (h : ((Analysis.ofTokens path tokens).outline.ofKind kind)[name]? = some c) :
    ∃ d, lastBelow? (reached tokens).length (declares tokens kind name) = some d ∧
      c.head = containerAt tokens d ∧
      ∀ m, c.methods[m]? =
        (lastBelow? (reached tokens).length (declaresMethod tokens kind name d m)).map
          (functionAt tokens) := by
  have hentry := entryAgrees_ofTokens path tokens kind name
  rw [h, EntryAgrees] at hentry
  cases hlast : lastBelow? (reached tokens).length (declares tokens kind name) with
  | none =>
    rw [hlast] at hentry
    cases hentry
  | some d =>
    rw [hlast] at hentry
    obtain ⟨c', hc', hhead, hmethods⟩ := hentry
    cases hc'
    exact ⟨d, rfl, hhead, hmethods⟩

end Pass

end PhpOutline
